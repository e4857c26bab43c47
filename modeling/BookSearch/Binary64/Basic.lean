/-!
The binary64 numbers of IEEE 754 by their bits: sums rounded to nearest with ties to even, the total
order, and rounding to a whole count. Every finite number is a whole multiple of the least positive one,
so sums are exact in that unit before they are rounded.
-/
namespace BookSearch

structure Binary64 where
  bits : UInt64
  deriving DecidableEq, Repr

namespace Binary64

def signBit : Nat := 1 <<< 63

/-- What stands in front of the fraction of a normal number without being written. -/
def leadingBit : Nat := 1 <<< 52

/-- The sign bit set aside; larger magnitudes are larger numbers, and above `infinite` they are NaNs. -/
def magnitude (x : Binary64) : Nat := x.bits.toNat % signBit

def isNegative (x : Binary64) : Bool := signBit ≤ x.bits.toNat

def ofMagnitude (negative : Bool) (magnitude : Nat) : Binary64 :=
  ⟨UInt64.ofNat (magnitude + if negative then signBit else 0)⟩

def infinite : Nat := 2047 * leadingBit

def isNaN (x : Binary64) : Bool := infinite < x.magnitude

def isInfinite (x : Binary64) : Bool := x.magnitude = infinite

/-- The units in one: a unit is the least positive number. -/
def scale : Nat := 1 <<< 1074

def units (magnitude : Nat) : Nat :=
  let exponent := magnitude / leadingBit
  if exponent = 0 then magnitude else (leadingBit + magnitude % leadingBit) <<< (exponent - 1)

/-- The magnitude nearest to `num / den` units. Of two equally near ones it takes the even one, and
what is too large for a finite number becomes infinite. -/
def nearest (num den : Nat) : Nat :=
  let whole := num / den
  let shift := if whole < 2 * leadingBit then 0 else whole.log2 - 52
  let step := den <<< shift
  let low := num / step
  let rest := num % step
  let rounded := if step < 2 * rest || (2 * rest = step && low % 2 = 1) then low + 1 else low
  min (shift * leadingBit + rounded) infinite

def zero : Binary64 := ⟨0⟩

def one : Binary64 := ⟨0x3ff0000000000000⟩

def ofInt (n : Int) : Binary64 := ofMagnitude (n < 0) (nearest (n.natAbs * scale) 1)

def signedUnits (x : Binary64) : Int :=
  if x.isNegative then -(units x.magnitude : Int) else units x.magnitude

/-- The answer to an operation that has none. -/
def indefinite : Binary64 := ⟨0xfff8000000000000⟩

def quiet (x : Binary64) : Binary64 := ⟨x.bits ||| 0x0008000000000000⟩

def add (x y : Binary64) : Binary64 :=
  if x.isNaN then x.quiet
  else if y.isNaN then y.quiet
  else if x.isInfinite then
    if y.isInfinite && x.isNegative != y.isNegative then indefinite else x
  else if y.isInfinite then y
  else
    let sum := x.signedUnits + y.signedUnits
    if sum = 0 then ofMagnitude (x.isNegative && y.isNegative) 0
    else ofMagnitude (sum < 0) (nearest sum.natAbs 1)

/-- The place in the total order of all bit patterns: negative zero stands just below zero, and NaNs
stand beyond the infinity of their sign. -/
def rank (x : Binary64) : Nat :=
  if x.isNegative then UInt64.size - 1 - x.bits.toNat else signBit + x.bits.toNat

/-- As a count: nothing below zero, a half goes up, NaN is none and the largest count stands for all
that is larger. -/
def toCount (x : Binary64) : UInt64 :=
  if x.isNaN || x.isNegative then 0
  else UInt64.ofNat (min ((2 * units x.magnitude + scale) / (2 * scale)) (UInt64.size - 1))

end Binary64
end BookSearch
