import BookSearch.Date
import BookSearch.Json.Printer
import BookSearch.Json.Reader

/-!
Ways of writing a type of values as JSON and reading it back, and the faults that reading meets.
-/
namespace BookSearch
namespace Json

inductive DecodeError where
  /-- The text is not JSON. -/
  | malformed
  | missingField (name : String)
  | duplicateField (name : String)
  | wrongType (got : Json) (wanted : String)
  | wrongValue (got : Int) (wanted : String)
  /-- An array that stands for a record ends before this index. -/
  | wrongLength (index : Nat) (record : String) (fields : Nat)
  | trailing
  | unknownName (given : String) (names : List String)
  | noValue
  | date (fault : DateError)

namespace DecodeError

def inBackticks (name : String) : String := "`" ++ name ++ "`"

def malformedText : String := "<malformed JSON>"

def message : DecodeError → String
  | malformed => malformedText
  | missingField name => "missing field " ++ inBackticks name
  | duplicateField name => "duplicate field " ++ inBackticks name
  | wrongType got wanted =>
    match got.describe? with
    | some words => "invalid type: " ++ words ++ ", expected " ++ wanted
    | none => malformedText
  | wrongValue got wanted =>
    "invalid value: integer " ++ inBackticks (toString got) ++ ", expected " ++ wanted
  | wrongLength index record fields =>
    "invalid length " ++ toString index ++ ", expected struct " ++ record ++ " with " ++
      toString fields ++ " elements"
  | trailing => "trailing characters"
  | unknownName given names =>
    "unknown variant " ++ inBackticks given ++ ", expected one of " ++
      ", ".intercalate (names.map inBackticks)
  | noValue => "expected value"
  | date fault => fault.message

end DecodeError

structure Codec (α : Type) where
  encode : α → Json
  decode : Json → Except DecodeError α

namespace Codec

def text : Codec String where
  encode := ofString
  decode
    | string (some s) => .ok s
    | other => .error (.wrongType other "a string")

def flag : Codec Bool where
  encode := bool
  decode
    | bool value => .ok value
    | other => .error (.wrongType other "a boolean")

def decodeNat (limit : Nat) (wanted : String) : Json → Except DecodeError Nat
  | number value =>
    match value.toInt? with
    | some n => if 0 ≤ n && n < limit then .ok n.toNat else .error (.wrongValue n wanted)
    | none => .error (.wrongType (number value) wanted)
  | other => .error (.wrongType other wanted)

def word32 : Codec UInt32 where
  encode n := ofNat n.toNat
  decode value := (decodeNat UInt32.size "u32" value).map UInt32.ofNat

/-- A 64-bit word, under the name that messages have for it. -/
def word (wanted : String) : Codec UInt64 where
  encode n := ofNat n.toNat
  decode value := (decodeNat UInt64.size wanted value).map UInt64.ofNat

def word64 : Codec UInt64 := word "u64"

def size : Codec UInt64 := word "usize"

def date : Codec Date where
  encode day := ofString day.toText
  decode
    | string (some s) => (Date.ofText s).mapError .date
    | other => .error (.wrongType other "a formatted date string")

def optional (codec : Codec α) : Codec (Option α) where
  encode
    | none => null
    | some value => codec.encode value
  decode
    | null => .ok none
    | other => (codec.decode other).map some

def decodeItems (codec : Codec α) : List Json → Except DecodeError (List α)
  | [] => .ok []
  | item :: rest => do
    let value ← codec.decode item
    let values ← decodeItems codec rest
    return value :: values

def list (codec : Codec α) : Codec (List α) where
  encode values := array (values.map codec.encode)
  decode
    | array items => decodeItems codec items
    | other => .error (.wrongType other "a sequence")

def decodeName (all : List α) (name : α → String) (given : String) : Except DecodeError α :=
  match all.find? fun value => name value = given with
  | some value => .ok value
  | none => .error (.unknownName given (all.map name))

/-- One of a few names: a string, or an object with that one name and null. -/
def choice (all : List α) (name : α → String) : Codec α where
  encode value := ofString (name value)
  decode
    | string (some given) => decodeName all name given
    | object ((some given, content) :: rest) =>
      match decodeName all name given with
      | .error fault => .error fault
      | .ok value =>
        match content with
        | null => if rest.isEmpty then .ok value else .error .noValue
        | other => .error (.wrongType other "unit")
    | _ => .error .noValue

/-- The value of a text that is one JSON value and nothing else. What is skipped need not be sound, but no
fault is told of a value that is not: it counts as malformed. -/
def read (codec : Codec α) (s : String) : Except DecodeError α :=
  match ofText? s with
  | none => .error .malformed
  | some value =>
    match codec.decode value with
    | .ok result => .ok result
    | .error fault => .error (if value.isSound deepest then fault else .malformed)

def write (codec : Codec α) (value : α) : String := toCompactText (codec.encode value)

def writeIndented (codec : Codec α) (value : α) : String := toIndentedText (codec.encode value)

end Codec
end Json
end BookSearch
