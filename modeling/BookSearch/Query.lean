import BookSearch.Text.Lowercase

/-!
What a user typed, in its normal form and taken apart: one term, or two terms and how they combine.
Literal reading takes the operator characters as ordinary text; operator reading first drops the blanks
next to an operator and then allows one operator, once, with a term on each side.
-/
namespace BookSearch

inductive QueryError where
  | absent
  | blank
  | mixedOperators
  | malformedUnion
  | malformedDifference
  deriving DecidableEq, Repr

namespace QueryError

def message : QueryError → String
  | absent => "search query must not be null"
  | blank => "search query must not be blank"
  | mixedOperators => "use only one operator: '|' or '-' with up to 2 keywords"
  | malformedUnion => "invalid OR query, use 'a|b'"
  | malformedDifference => "invalid NOT query, use 'a-b'"

end QueryError

/-- Trimmed and in lowercase; a text with nothing to look for is refused. -/
def normalize : Option String → Except QueryError String
  | none => .error .absent
  | some raw =>
    let bare := Text.trim raw
    if bare.isEmpty then .error .blank else .ok (Text.lower bare)

def unionOperator : Char := '|'

def differenceOperator : Char := '-'

def isOperator (c : Char) : Bool := c = unionOperator || c = differenceOperator

namespace Chars

/-- `kept` is the output so far, last character first; `fresh` says that it ends with an operator. -/
def tightenAfter : (kept : List Char) → (fresh : Bool) → List Char → List Char
  | kept, _, [] => kept.reverse
  | kept, fresh, c :: rest =>
    if isOperator c then tightenAfter (c :: kept.dropWhile isBlank) true rest
    else if fresh && isBlank c then tightenAfter kept true rest
    else tightenAfter (c :: kept) false rest

def tighten (s : List Char) : List Char := tightenAfter [] false s

end Chars

inductive Strategy where
  | simple
  | union
  | difference
  deriving DecidableEq, Repr

namespace Strategy

def all : List Strategy := [simple, union, difference]

def name : Strategy → String
  | simple => "SIMPLE"
  | union => "OR_OPERATION"
  | difference => "NOT_OPERATION"

end Strategy

inductive Mode where
  | literal
  | operators
  deriving DecidableEq, Repr

/-- `normalized` is the text that popularity is counted under. The parts are not checked against each
other here; a query that was read by `Query.parse` has a `right` just when it has an operator. -/
structure Query where
  normalized : String
  left : String
  right : Option String
  strategy : Strategy
  deriving DecidableEq, Repr

namespace Query

def single (normalized : String) : Query := ⟨normalized, normalized, none, .simple⟩

def operands? (operator : Char) (s : List Char) : Option (List Char × List Char) :=
  let left := Chars.trim (s.takeWhile (· ≠ operator))
  let after := (s.dropWhile (· ≠ operator)).drop 1
  let right := Chars.trim after
  if after.contains operator || left.isEmpty || right.isEmpty then none else some (left, right)

def paired (tight : List Char) (operator : Char) (strategy : Strategy) (refusal : QueryError) :
    Except QueryError Query :=
  match operands? operator tight with
  | none => .error refusal
  | some (left, right) =>
    .ok ⟨String.ofList tight, String.ofList left, some (String.ofList right), strategy⟩

def ofNormalized (normalized : String) : Except QueryError Query :=
  let tight := Chars.tighten normalized.toList
  if tight.contains unionOperator then
    if tight.contains differenceOperator then .error .mixedOperators
    else paired tight unionOperator .union .malformedUnion
  else if tight.contains differenceOperator then
    paired tight differenceOperator .difference .malformedDifference
  else .ok (single normalized)

def parse (mode : Mode) (raw : Option String) : Except QueryError Query :=
  match normalize raw with
  | .error refusal => .error refusal
  | .ok normalized =>
    match mode with
    | .literal => .ok (single normalized)
    | .operators => ofNormalized normalized

end Query

end BookSearch
