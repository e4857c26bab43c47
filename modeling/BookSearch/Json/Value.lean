import BookSearch.Binary64.Decimal
import BookSearch.Text.Quoted

/-!
JSON values as they were written: numbers keep their digits, and objects keep all their members in
order, repeated names included. Escapes can spell a string that is no text, and digits a number out of
range; both are values, and only who needs the text or the number finds that there is none.
-/
namespace BookSearch

namespace Json

/-- The digits of a literal. The whole part is never empty; the fraction is empty where there is no
point. -/
structure Number where
  negative : Bool
  whole : List Char
  fraction : List Char
  exponent : Option Int
  deriving DecidableEq, Repr

namespace Number

def ofNat (n : Nat) : Number := ⟨false, Nat.toDigits 10 n, [], none⟩

/-- Integers are the literals without point and exponent that a 64-bit word holds, signed below zero
and unsigned otherwise. Negative zero is none of them. -/
def toInt? (number : Number) : Option Int :=
  let size := Nat.ofDigitChars 10 number.whole 0
  if !number.fraction.isEmpty || number.exponent.isSome then none
  else if number.negative then
    if size = 0 || 0x8000000000000000 < size then none else some (-(size : Int))
  else if size < UInt64.size then some size else none

def digitValues (digits : List Char) : List Nat := digits.map fun c => c.toNat - '0'.toNat

def toBinary64? (number : Number) : Option Binary64 :=
  Binary64.ofDecimal? number.negative (digitValues number.whole) (digitValues number.fraction)
    (number.exponent.getD 0)

end Number
end Json

/-- A string, or the name of a member, has no text where half of a surrogate pair stands in it. -/
inductive Json where
  | null
  | bool (value : Bool)
  | number (value : Json.Number)
  | string (text : Option String)
  | array (items : List Json)
  | object (members : List (Option String × Json))
  deriving Repr

namespace Json

def ofNat (n : Nat) : Json := number (Number.ofNat n)

def ofString (s : String) : Json := string (some s)

def ofMembers (members : List (String × Json)) : Json :=
  object (members.map fun (name, value) => (some name, value))

/-- What kind of value it is, in the words of a message. There are none for a string that is no text and
for a number out of range. -/
def describe? : Json → Option String
  | null => some "null"
  | bool true => some "boolean `true`"
  | bool false => some "boolean `false`"
  | number value =>
    match value.toInt? with
    | some n => some ("integer `" ++ toString n ++ "`")
    | none => value.toBinary64?.map fun x => "floating point `" ++ x.toText ++ "`"
  | string text => text.map fun s => "string " ++ Text.quote s
  | array _ => some "sequence"
  | object _ => some "map"

/-- How many arrays and objects may stand around each other. -/
def deepest : Nat := 127

mutual

/-- Whether all strings and names in a value are texts, all numbers are in range, and at most `room`
arrays and objects stand around each other. -/
def isSound (room : Nat) : Json → Bool
  | null => true
  | bool _ => true
  | number value => value.toBinary64?.isSome
  | string text => text.isSome
  | array items => room ≠ 0 && areSound (room - 1) items
  | object members => room ≠ 0 && areSoundMembers (room - 1) members

def areSound (room : Nat) : List Json → Bool
  | [] => true
  | item :: rest => isSound room item && areSound room rest

def areSoundMembers (room : Nat) : List (Option String × Json) → Bool
  | [] => true
  | (name, value) :: rest => name.isSome && isSound room value && areSoundMembers room rest

end

end Json
end BookSearch
