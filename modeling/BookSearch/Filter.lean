import BookSearch.Query
import BookSearch.Text.Quoted

/-!
Boolean filters over the parts of a record that a search looks into: what they accept, how they are shown,
and the filter of a query. A needle is compared with the lowercase of a field as it stands, so it should be
in lowercase itself. A blank term finds nothing on its own, adds nothing to a union and takes nothing away
in a difference.
-/
namespace BookSearch

inductive Field where
  | isbn
  | title
  | subtitle
  | author
  | publisher
  deriving DecidableEq, Repr

namespace Field

def all : List Field := [isbn, title, subtitle, author, publisher]

def name : Field → String
  | isbn => "isbn"
  | title => "title"
  | subtitle => "subtitle"
  | author => "author"
  | publisher => "publisher"

end Field

/-- What a search can read of a record; a part that is not there is `none`. -/
abbrev Record := Field → Option String

inductive Filter where
  | always
  | never
  | contains (field : Field) (needle : String)
  | negation (inner : Filter)
  | all (parts : List Filter)
  | any (parts : List Filter)
  deriving Repr

namespace Filter

theorem parts_induction {motive : Filter → Prop} (always : motive always) (never : motive never)
    (contains : ∀ field needle, motive (contains field needle))
    (negation : ∀ inner, motive inner → motive (negation inner))
    (all : ∀ parts : List Filter, (∀ part ∈ parts, motive part) → motive (all parts))
    (any : ∀ parts : List Filter, (∀ part ∈ parts, motive part) → motive (any parts)) (filter : Filter) :
    motive filter := by
  match filter with
  | .always => exact always
  | .never => exact never
  | .contains field needle => exact contains field needle
  | .negation inner => exact negation inner (parts_induction always never contains negation all any inner)
  | .all parts => exact all parts fun part _ => parts_induction always never contains negation all any part
  | .any parts => exact any parts fun part _ => parts_induction always never contains negation all any part

def valueContains (value needle : String) : Bool :=
  if value.isEmpty then needle.isEmpty else Text.occursIn needle (Text.lower value)

mutual

/-- A field that is not there reads as the empty text. -/
def accepts (record : Record) : Filter → Bool
  | always => true
  | never => false
  | contains field needle => valueContains ((record field).getD "") needle
  | negation inner => !accepts record inner
  | all parts => acceptsAll record parts
  | any parts => acceptsAny record parts

def acceptsAll (record : Record) : List Filter → Bool
  | [] => true
  | part :: rest => accepts record part && acceptsAll record rest

def acceptsAny (record : Record) : List Filter → Bool
  | [] => false
  | part :: rest => accepts record part || acceptsAny record rest

end

theorem acceptsAll_eq (record : Record) (parts : List Filter) :
    acceptsAll record parts = parts.all (accepts record) := by
  induction parts with
  | nil => rfl
  | cons part rest ih => simp [acceptsAll, ih]

theorem acceptsAny_eq (record : Record) (parts : List Filter) :
    acceptsAny record parts = parts.any (accepts record) := by
  induction parts with
  | nil => rfl
  | cons part rest ih => simp [acceptsAny, ih]

theorem acceptsAll_congr {record other : Record} {parts others : List Filter}
    (alike : parts.map (accepts record) = others.map (accepts other)) :
    acceptsAll record parts = acceptsAll other others := by
  have answers (record : Record) (parts : List Filter) :
      acceptsAll record parts = (parts.map (accepts record)).all id := by
    rw [acceptsAll_eq, List.all_map, Function.id_comp]
  rw [answers, answers, alike]

theorem acceptsAny_congr {record other : Record} {parts others : List Filter}
    (alike : parts.map (accepts record) = others.map (accepts other)) :
    acceptsAny record parts = acceptsAny other others := by
  have answers (record : Record) (parts : List Filter) :
      acceptsAny record parts = (parts.map (accepts record)).any id := by
    rw [acceptsAny_eq, List.any_map, Function.id_comp]
  rw [answers, answers, alike]

def isNever : Filter → Bool
  | never => true
  | _ => false

mutual

def display : Filter → String
  | always => "TRUE"
  | never => "FALSE"
  | contains field needle => field.name ++ "~" ++ Text.quote needle
  | negation inner => "NOT " ++ display inner
  | all parts => "(" ++ displayJoined " AND " parts ++ ")"
  | any parts => "(" ++ displayJoined " OR " parts ++ ")"

def displayJoined (separator : String) : List Filter → String
  | [] => ""
  | [part] => display part
  | part :: next :: rest => display part ++ separator ++ displayJoined separator (next :: rest)

end

def anyField (term : String) : Filter :=
  any (Field.all.map fun field => contains field (Text.lower term))

def ofTerm? (term : String) : Option Filter :=
  if Text.isBlank term then none else some (anyField term)

theorem eq_anyField {term : String} {filter : Filter} (given : ofTerm? term = some filter) :
    filter = anyField term := by
  unfold ofTerm? at given
  split at given
  · contradiction
  · exact (Option.some.inj given).symm

def ofTerm (term : String) : Filter := (ofTerm? term).getD never

def union (left : String) (right : Option String) : Filter :=
  match ofTerm? left, right.bind ofTerm? with
  | none, none => never
  | some one, none => one
  | none, some other => other
  | some one, some other => any [one, other]

def difference (left : String) (right : Option String) : Filter :=
  match right.bind ofTerm? with
  | none => ofTerm left
  | some excluded => all [ofTerm left, negation excluded]

def ofQuery (query : Query) : Filter :=
  match query.strategy with
  | .simple => ofTerm query.left
  | .union => union query.left query.right
  | .difference => difference query.left query.right

end Filter
end BookSearch
