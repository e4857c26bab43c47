/-!
Blank characters and what is left of a text without them at its ends, whether one text stands inside
another, and sets of code points given as ascending lists of closed ranges. Blank means the Unicode
property White_Space; zero-width characters and the byte order mark are not blank.
-/
namespace BookSearch

namespace Chars

structure CodeRange where
  first : Nat
  last : Nat
  deriving DecidableEq, Repr

namespace CodeRange

def anyCovers : List CodeRange → Nat → Bool
  | [], _ => false
  | range :: rest, code =>
    if code < range.first then false
    else if code ≤ range.last then true
    else anyCovers rest code

end CodeRange

def isBlank (c : Char) : Bool :=
  let n := c.toNat
  (0x09 ≤ n && n ≤ 0x0d) || n = 0x20 || n = 0x85 || n = 0xa0 || n = 0x1680 ||
    (0x2000 ≤ n && n ≤ 0x200a) || n = 0x2028 || n = 0x2029 || n = 0x202f || n = 0x205f || n = 0x3000

def trimStart (s : List Char) : List Char := s.dropWhile isBlank

def trimEnd (s : List Char) : List Char := (s.reverse.dropWhile isBlank).reverse

def trim (s : List Char) : List Char := trimEnd (trimStart s)

def occursIn (needle : List Char) : List Char → Bool
  | [] => needle.isEmpty
  | c :: rest => needle.isPrefixOf (c :: rest) || occursIn needle rest

theorem occursIn_eq_true_iff {needle hay : List Char} :
    occursIn needle hay = true ↔ needle <:+: hay := by
  induction hay with
  | nil => cases needle <;> simp [occursIn]
  | cons c rest ih => simp [occursIn, ih, List.infix_cons_iff]

end Chars

namespace Text

def trim (s : String) : String := String.ofList (Chars.trim s.toList)

@[simp] theorem toList_trim (s : String) : (trim s).toList = Chars.trim s.toList :=
  String.toList_ofList

/-- Nothing but blank characters; the empty text counts. -/
def isBlank (s : String) : Bool := s.toList.all Chars.isBlank

def occursIn (needle hay : String) : Bool := Chars.occursIn needle.toList hay.toList

end Text
end BookSearch
