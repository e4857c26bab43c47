import BookSearch.Json.Value

/-!
The tokens of a JSON text: how each is written, and how a text is cut into them. Blanks between tokens
are space, tab, line feed and carriage return only.
-/
namespace BookSearch
namespace Json

inductive Token where
  | openArray
  | closeArray
  | openObject
  | closeObject
  | colon
  | comma
  | null
  | bool (value : Bool)
  | number (value : Number)
  | string (text : Option (List Char))
  deriving DecidableEq, Repr

def escape (c : Char) : List Char :=
  if c = '"' then ['\\', '"']
  else if c = '\\' then ['\\', '\\']
  else if c = '\x08' then ['\\', 'b']
  else if c = '\t' then ['\\', 't']
  else if c = '\n' then ['\\', 'n']
  else if c = '\x0c' then ['\\', 'f']
  else if c = '\r' then ['\\', 'r']
  else if c.toNat < 0x20 then
    ['\\', 'u', '0', '0', Nat.digitChar (c.toNat / 16), Nat.digitChar (c.toNat % 16)]
  else [c]

def Number.chars (number : Number) : List Char :=
  (if number.negative then ['-'] else []) ++ number.whole ++
    (if number.fraction.isEmpty then [] else '.' :: number.fraction) ++
    (match number.exponent with
      | none => []
      | some (.ofNat power) => 'e' :: Nat.toDigits 10 power
      | some (.negSucc less) => 'e' :: '-' :: Nat.toDigits 10 (less + 1))

def loneHalf : List Char := ['\\', 'u', 'd', '8', '0', '0']

namespace Token

/-- A string that is no text is written as one lone half. -/
def chars : Token → List Char
  | openArray => ['[']
  | closeArray => [']']
  | openObject => ['\x7b']
  | closeObject => ['\x7d']
  | colon => [':']
  | comma => [',']
  | null => ['n', 'u', 'l', 'l']
  | bool true => ['t', 'r', 'u', 'e']
  | bool false => ['f', 'a', 'l', 's', 'e']
  | number value => value.chars
  | string (some text) => '"' :: text.flatMap escape ++ ['"']
  | string none => '"' :: loneHalf ++ ['"']

end Token

def isSpace (c : Char) : Bool := c = ' ' || c = '\t' || c = '\n' || c = '\r'

def hexValue? (c : Char) : Option Nat :=
  if '0' ≤ c && c ≤ '9' then some (c.toNat - '0'.toNat)
  else if 'a' ≤ c && c ≤ 'f' then some (c.toNat - 'a'.toNat + 10)
  else if 'A' ≤ c && c ≤ 'F' then some (c.toNat - 'A'.toNat + 10)
  else none

def scanUnit : List Char → Option (Nat × List Char)
  | a :: b :: c :: d :: rest =>
    match hexValue? a, hexValue? b, hexValue? c, hexValue? d with
    | some a, some b, some c, some d => some (((a * 16 + b) * 16 + c) * 16 + d, rest)
    | _, _, _, _ => none
  | _ => none

def isHighHalf (unit : Nat) : Bool := 0xd800 ≤ unit && unit < 0xdc00

def isLowHalf (unit : Nat) : Bool := 0xdc00 ≤ unit && unit < 0xe000

def scanLowHalf : List Char → Option (Nat × List Char)
  | '\\' :: 'u' :: s =>
    match scanUnit s with
    | some (unit, rest) => if isLowHalf unit then some (unit, rest) else none
    | none => none
  | _ => none

/-- A character by its code unit, or by a pair of units where one is not enough. Half of a pair is no
character. -/
def scanCodePoint (s : List Char) : Option (Option Char × List Char) :=
  match scanUnit s with
  | none => none
  | some (unit, rest) =>
    if isHighHalf unit then
      match scanLowHalf rest with
      | some (low, rest) =>
        some (some (Char.ofNat (0x10000 + (unit - 0xd800) * 0x400 + (low - 0xdc00))), rest)
      | none => some (none, rest)
    else if isLowHalf unit then some (none, rest)
    else some (some (Char.ofNat unit), rest)

def scanEscape : List Char → Option (Option Char × List Char)
  | [] => none
  | c :: rest =>
    if c = '"' || c = '\\' || c = '/' then some (some c, rest)
    else if c = 'b' then some (some '\x08', rest)
    else if c = 'f' then some (some '\x0c', rest)
    else if c = 'n' then some (some '\n', rest)
    else if c = 'r' then some (some '\r', rest)
    else if c = 't' then some (some '\t', rest)
    else if c = 'u' then scanCodePoint rest
    else none

def inFront : Option Char → Option (List Char) → Option (List Char)
  | some c, some text => some (c :: text)
  | _, _ => none

/-- The characters up to the closing quote. Each step takes at least one character, so the length of the
text is fuel enough. -/
def scanString : (fuel : Nat) → List Char → Option (Option (List Char) × List Char)
  | 0, _ => none
  | _ + 1, [] => none
  | fuel + 1, c :: rest =>
    if c = '"' then some (some [], rest)
    else if c = '\\' then
      match scanEscape rest with
      | none => none
      | some (c, rest) => (scanString fuel rest).map fun (text, rest) => (inFront c text, rest)
    else if c.toNat < 0x20 then none
    else (scanString fuel rest).map fun (text, rest) => (inFront (some c) text, rest)

def scanDigits (s : List Char) : Option (List Char × List Char) :=
  let digits := s.takeWhile Char.isDigit
  if digits.isEmpty then none else some (digits, s.dropWhile Char.isDigit)

/-- No digit follows a leading zero. -/
def scanWhole : List Char → Option (List Char × List Char)
  | '0' :: rest => some (['0'], rest)
  | s => scanDigits s

def scanFraction : List Char → Option (List Char × List Char)
  | '.' :: rest => scanDigits rest
  | s => some ([], s)

def scanPower : List Char → Option (Int × List Char)
  | '-' :: rest => (scanDigits rest).map fun (digits, rest) => (-(Nat.ofDigitChars 10 digits 0 : Int), rest)
  | '+' :: rest => (scanDigits rest).map fun (digits, rest) => ((Nat.ofDigitChars 10 digits 0 : Int), rest)
  | s => (scanDigits s).map fun (digits, rest) => ((Nat.ofDigitChars 10 digits 0 : Int), rest)

def scanExponent : List Char → Option (Option Int × List Char)
  | [] => some (none, [])
  | c :: rest =>
    if c = 'e' || c = 'E' then (scanPower rest).map fun (power, rest) => (some power, rest)
    else some (none, c :: rest)

def scanUnsigned (negative : Bool) (s : List Char) : Option (Number × List Char) := do
  let (whole, s) ← scanWhole s
  let (fraction, s) ← scanFraction s
  let (exponent, s) ← scanExponent s
  return (⟨negative, whole, fraction, exponent⟩, s)

def scanNumber : List Char → Option (Number × List Char)
  | '-' :: rest => scanUnsigned true rest
  | s => scanUnsigned false s

namespace Token

def scan (fuel : Nat) : List Char → Option (Token × List Char)
  | '[' :: rest => some (openArray, rest)
  | ']' :: rest => some (closeArray, rest)
  | '\x7b' :: rest => some (openObject, rest)
  | '\x7d' :: rest => some (closeObject, rest)
  | ':' :: rest => some (colon, rest)
  | ',' :: rest => some (comma, rest)
  | '"' :: rest => (scanString fuel rest).map fun (text, rest) => (string text, rest)
  | 'n' :: 'u' :: 'l' :: 'l' :: rest => some (null, rest)
  | 't' :: 'r' :: 'u' :: 'e' :: rest => some (bool true, rest)
  | 'f' :: 'a' :: 'l' :: 's' :: 'e' :: rest => some (bool false, rest)
  | s => (scanNumber s).map fun (value, rest) => (number value, rest)

/-- Each step takes at least one character, so more fuel than the text has characters is enough. -/
def scanAll : (fuel : Nat) → List Char → Option (List Token)
  | _, [] => some []
  | 0, _ :: _ => none
  | fuel + 1, c :: rest =>
    if isSpace c then scanAll fuel rest
    else
      match scan fuel (c :: rest) with
      | none => none
      | some (token, rest) => (scanAll fuel rest).map (token :: ·)

def ofChars? (s : List Char) : Option (List Token) := scanAll (s.length + 1) s

end Token
end Json
end BookSearch
