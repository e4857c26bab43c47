import BookSearch.Json.Token

/-!
JSON values from tokens, one token at a time, with the open containers on a stack.
-/
namespace BookSearch
namespace Json

/-- A container that is still open around the value being read, with its earlier parts in reverse. -/
inductive Frame where
  | array (done : List Json)
  | object (done : List (Option String × Json)) (name : Option String)

inductive Progress where
  /-- A value has to come. -/
  | wants (stack : List Frame)
  /-- An array was opened. -/
  | openedArray (stack : List Frame)
  /-- An object was opened. -/
  | openedObject (stack : List Frame)
  /-- A member name has to come. -/
  | wantsName (done : List (Option String × Json)) (stack : List Frame)
  /-- The colon after a member name has to come. -/
  | named (done : List (Option String × Json)) (name : Option String) (stack : List Frame)
  /-- A value is complete. -/
  | holds (value : Json) (stack : List Frame)

namespace Progress

def start (stack : List Frame) : Token → Option Progress
  | .null => some (holds null stack)
  | .bool value => some (holds (bool value) stack)
  | .number value => some (holds (number value) stack)
  | .string text => some (holds (string (text.map String.ofList)) stack)
  | .openArray => some (openedArray stack)
  | .openObject => some (openedObject stack)
  | _ => none

def step : Progress → Token → Option Progress
  | wants stack, token => start stack token
  | openedArray stack, .closeArray => some (holds (array []) stack)
  | openedArray stack, token => start (.array [] :: stack) token
  | openedObject stack, .closeObject => some (holds (object []) stack)
  | openedObject stack, .string name => some (named [] (name.map String.ofList) stack)
  | wantsName done stack, .string name => some (named done (name.map String.ofList) stack)
  | named done name stack, .colon => some (wants (.object done name :: stack))
  | holds value (.array done :: stack), .comma => some (wants (.array (value :: done) :: stack))
  | holds value (.array done :: stack), .closeArray =>
    some (holds (array (value :: done).reverse) stack)
  | holds value (.object done name :: stack), .comma =>
    some (wantsName ((name, value) :: done) stack)
  | holds value (.object done name :: stack), .closeObject =>
    some (holds (object ((name, value) :: done).reverse) stack)
  | _, _ => none

def steps : Progress → List Token → Option Progress
  | progress, [] => some progress
  | progress, token :: rest =>
    match step progress token with
    | none => none
    | some next => steps next rest

def result? : Progress → Option Json
  | holds value [] => some value
  | _ => none

end Progress

def ofTokens? (tokens : List Token) : Option Json :=
  (Progress.steps (.wants []) tokens).bind Progress.result?

def ofChars? (s : List Char) : Option Json := (Token.ofChars? s).bind ofTokens?

def ofText? (s : String) : Option Json := ofChars? s.toList

end Json
end BookSearch
