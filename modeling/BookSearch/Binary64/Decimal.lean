import BookSearch.Binary64.Basic

/-!
Binary64 numbers and decimal notation. Reading takes the leading digits that fit a 64-bit word times a
power of ten, each rounded on its own. Writing takes the fewest digits that read back to the number.
-/
namespace BookSearch
namespace Binary64

/-- The magnitude of a power of ten; exact up to the 22nd. -/
def powerOfTen (exponent : Nat) : Nat := nearest (Nat.pow 10 exponent * scale) 1

/-- Multiplies by a power of ten. Beyond the largest finite one it divides by that one first, at most
`fuel` times; there is no answer where the product is too large. -/
def timesPowerOfTen : (fuel : Nat) → (magnitude : Nat) → Int → Option Nat
  | _, magnitude, .ofNat exponent =>
    if magnitude = 0 then some 0
    else if 308 < exponent then none
    else
      let product := nearest (units magnitude * units (powerOfTen exponent)) scale
      if product = infinite then none else some product
  | 0, _, .negSucc _ => some 0
  | fuel + 1, magnitude, .negSucc less =>
    if 308 < less + 1 then
      if magnitude = 0 then some 0
      else
        timesPowerOfTen fuel (nearest (units magnitude * scale) (units (powerOfTen 308)))
          (.negSucc (less - 308))
    else some (nearest (units magnitude * scale) (units (powerOfTen (less + 1))))

/-- Leading digits in order while they fit a 64-bit word, with the number of digits left over. -/
def leading : (significand : Nat) → List Nat → Nat × Nat
  | significand, [] => (significand, 0)
  | significand, digit :: rest =>
    if UInt64.size ≤ significand * 10 + digit then (significand, rest.length + 1)
    else leading (significand * 10 + digit) rest

def ofDecimal? (negative : Bool) (whole fraction : List Nat) (exponent : Int) : Option Binary64 :=
  let (significand, dropped) := leading 0 whole
  let (significand, unread) := leading significand fraction
  let shift := exponent + dropped - (fraction.length - unread : Nat)
  (timesPowerOfTen 3 (nearest (significand * scale) 1) shift).map (ofMagnitude negative)

def firstPower (magnitude : Nat) : Int :=
  let num := units magnitude
  if scale ≤ num then ((Nat.toDigits 10 (num / scale)).length : Int) - 1
  else -((Nat.toDigits 10 ((scale + num - 1) / num - 1)).length : Int)

def scaled (num den : Nat) : Int → Nat × Nat
  | .ofNat power => (num * Nat.pow 10 power, den)
  | .negSucc less => (num, den * Nat.pow 10 (less + 1))

def readsBack (magnitude digits : Nat) (power : Int) : Bool :=
  let (num, den) := scaled (digits * scale) 1 power
  nearest num den = magnitude

/-- The multiple of `10 ^ power` that is nearest to the magnitude among those that read back to it. -/
def onGrid? (magnitude : Nat) (power : Int) : Option Nat :=
  let (num, den) := scaled (units magnitude) scale (-power)
  let low := num / den
  let lowFits := readsBack magnitude low power
  let highFits := readsBack magnitude (low + 1) power
  let lowNearer := 2 * (num % den) < den || (2 * (num % den) = den && low % 2 = 0)
  if lowFits && (lowNearer || !highFits) then some low
  else if highFits then some (low + 1)
  else none

/-- Tries one digit more each time, from the power of ten given; 17 digits always read back. -/
def fewestDigits (magnitude : Nat) : (fuel : Nat) → (power : Int) → Nat × Int
  | 0, power => (0, power)
  | fuel + 1, power =>
    match onGrid? magnitude power with
    | some digits => (digits, power)
    | none => fewestDigits magnitude fuel (power - 1)

/-- The digits of a positive magnitude without trailing zeros, and the power of ten of the first. -/
def shortest (magnitude : Nat) : List Char × Int :=
  let (digits, power) := fewestDigits magnitude 17 (firstPower magnitude)
  let all := Nat.toDigits 10 digits
  ((all.reverse.dropWhile (· = '0')).reverse, power + all.length - 1)

/-- Positional between the powers -5 and 15 of the first digit, always with a digit after the point;
outside them in scientific form with a signed exponent. -/
def layOut (digits : List Char) (first : Int) : List Char :=
  if -5 ≤ first && first ≤ 15 then
    if 0 ≤ first then
      let whole := first.toNat + 1
      if digits.length ≤ whole then
        digits ++ List.replicate (whole - digits.length) '0' ++ ['.', '0']
      else digits.take whole ++ '.' :: digits.drop whole
    else '0' :: '.' :: List.replicate ((-first).toNat - 1) '0' ++ digits
  else
    let tail := digits.drop 1
    digits.take 1 ++ (if tail.isEmpty then [] else '.' :: tail) ++
      'e' :: (if first < 0 then '-' else '+') :: Nat.toDigits 10 first.natAbs

def toText (x : Binary64) : String :=
  let body :=
    if x.magnitude = 0 then ['0', '.', '0']
    else
      let (digits, first) := shortest x.magnitude
      layOut digits first
  String.ofList (if x.isNegative then '-' :: body else body)

end Binary64
end BookSearch
