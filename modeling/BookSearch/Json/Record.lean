import BookSearch.Json.Codec

/-!
Records as JSON objects with named fields, or as arrays of the fields in order. Objects may have members
with other names, which are skipped, but none of the known names twice. Faults in members are reported
in the order of the text, and before fields that are not there.
-/
namespace BookSearch
namespace Json

/-- The fields of a record whose values are nested pairs. `whenMissing` stands for a field that an
object does not have, and `whenShort` for one that an array is too short for. -/
inductive Fields : Type → Type 1 where
  | nil : Fields Unit
  | cons (name : String) (codec : Codec α) (whenMissing whenShort : Option α) (rest : Fields β) :
      Fields (α × β)

namespace Fields

abbrev required (name : String) (codec : Codec α) (rest : Fields β) : Fields (α × β) :=
  cons name codec none none rest

/-- A field that an object may leave out, but an array may not. -/
abbrev optional (name : String) (codec : Codec α) (rest : Fields β) : Fields (Option α × β) :=
  cons name codec.optional (some none) none rest

/-- A field that both may leave out. -/
abbrev omissible (name : String) (codec : Codec α) (rest : Fields β) : Fields (Option α × β) :=
  cons name codec.optional (some none) (some none) rest

def names : Fields ρ → List String
  | nil => []
  | cons name _ _ _ rest => name :: rest.names

def encode : Fields ρ → ρ → List (String × Json)
  | nil, _ => []
  | cons name codec _ _ rest, (value, values) => (name, codec.encode value) :: rest.encode values

def valueFault? : Fields ρ → String → Json → Option DecodeError
  | nil, _, _ => none
  | cons name codec _ _ rest, given, value =>
    if name = given then
      match codec.decode value with
      | .error fault => some fault
      | .ok _ => none
    else rest.valueFault? given value

/-- The first fault of the members from here on, when the fields `seen` came before. -/
def memberFault? (fields : Fields ρ) :
    (seen : List String) → List (Option String × Json) → Option DecodeError
  | _, [] => none
  | _, (none, _) :: _ => some .malformed
  | seen, (some name, value) :: rest =>
    if fields.names.contains name then
      if seen.contains name then some (.duplicateField name)
      else
        match fields.valueFault? name value with
        | some fault => some fault
        | none => fields.memberFault? (name :: seen) rest
    else fields.memberFault? seen rest

def ofMembers : Fields ρ → List (Option String × Json) → Except DecodeError ρ
  | nil, _ => .ok ()
  | cons name codec whenMissing _ rest, members => do
    let value ←
      match members.lookup (some name), whenMissing with
      | some value, _ => codec.decode value
      | none, some value => .ok value
      | none, none => .error (.missingField name)
    let values ← rest.ofMembers members
    return (value, values)

/-- `index` counts the items that were taken before, and `short` says what it means to run out. -/
def ofItems (short : Nat → DecodeError) : Fields ρ → (index : Nat) → List Json → Except DecodeError ρ
  | nil, _, [] => .ok ()
  | nil, _, _ :: _ => .error .trailing
  | cons _ codec _ _ rest, index, item :: items => do
    let value ← codec.decode item
    let values ← rest.ofItems short (index + 1) items
    return (value, values)
  | cons _ _ _ whenShort rest, index, [] =>
    match whenShort with
    | none => .error (short index)
    | some value => (rest.ofItems short (index + 1) []).map (value, ·)

end Fields

namespace Codec

def record (name : String) (fields : Fields ρ) (pack : ρ → α) (unpack : α → ρ) : Codec α where
  encode value := Json.ofMembers (fields.encode (unpack value))
  decode
    | object members =>
      match fields.memberFault? [] members with
      | some fault => .error fault
      | none => (fields.ofMembers members).map pack
    | array items =>
      (fields.ofItems (fun index => .wrongLength index name fields.names.length) 0 items).map pack
    | other => .error (.wrongType other ("struct " ++ name))

end Codec
end Json
end BookSearch
