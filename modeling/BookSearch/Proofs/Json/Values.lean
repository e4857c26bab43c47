import BookSearch.Json.Reader
import BookSearch.Proofs.Json.Tokens

/-!
Values as the tokens they are written with. Wherever a value may come, the reader takes just its tokens and
makes the value of them again.
-/
namespace BookSearch
namespace Json

def stringToken (text : Option String) : Token := .string (text.map String.toList)

mutual

def tokens : Json → List Token
  | null => [.null]
  | bool value => [.bool value]
  | number value => [.number value]
  | string text => [stringToken text]
  | array [] => [.openArray, .closeArray]
  | array (item :: rest) => .openArray :: item.tokens ++ laterItems rest
  | object [] => [.openObject, .closeObject]
  | object ((name, value) :: rest) =>
    .openObject :: stringToken name :: .colon :: value.tokens ++ laterMembers rest

def laterItems : List Json → List Token
  | [] => [.closeArray]
  | item :: rest => .comma :: item.tokens ++ laterItems rest

def laterMembers : List (Option String × Json) → List Token
  | [] => [.closeObject]
  | (name, value) :: rest => .comma :: stringToken name :: .colon :: value.tokens ++ laterMembers rest

end

def Legible (value : Json) : Prop := ∀ token ∈ value.tokens, token.Legible

/-- What holds of a container when it holds of all values in it holds of all values. -/
theorem nested_induction {motive : Json → Prop} (null : motive null) (bool : ∀ value, motive (bool value))
    (number : ∀ value, motive (number value)) (string : ∀ text, motive (string text))
    (array : ∀ items : List Json, (∀ item ∈ items, motive item) → motive (array items))
    (object : ∀ members : List (Option String × Json), (∀ member ∈ members, motive member.2) →
      motive (object members)) (value : Json) : motive value := by
  match value with
  | .null => exact null
  | .bool value => exact bool value
  | .number value => exact number value
  | .string text => exact string text
  | .array items =>
    exact array items fun item _ => nested_induction null bool number string array object item
  | .object members =>
    exact object members fun member _ => nested_induction null bool number string array object member.2
termination_by value
decreasing_by
  · have smaller := List.sizeOf_lt_of_mem ‹item ∈ items›
    simp only [Json.array.sizeOf_spec]
    omega
  · have smaller := List.sizeOf_lt_of_mem ‹member ∈ members›
    have inner : sizeOf member.2 < sizeOf member := by
      cases member
      simp only [Prod.mk.sizeOf_spec]
      omega
    simp only [Json.object.sizeOf_spec]
    omega

section Legible

theorem legible_laterItems_iff (items : List Json) :
    (∀ token ∈ laterItems items, token.Legible) ↔ ∀ item ∈ items, item.Legible := by
  induction items with
  | nil => simp [laterItems, Token.Legible]
  | cons item rest ih =>
    rw [laterItems, List.forall_mem_cons, ← ih]
    simp [Legible, Token.Legible, or_imp, forall_and]

theorem legible_laterMembers_iff (members : List (Option String × Json)) :
    (∀ token ∈ laterMembers members, token.Legible) ↔ ∀ member ∈ members, member.2.Legible := by
  induction members with
  | nil => simp [laterMembers, Token.Legible]
  | cons member rest ih =>
    rw [laterMembers, List.forall_mem_cons, ← ih]
    simp [Legible, Token.Legible, stringToken, or_imp, forall_and]

theorem legible_array_iff (items : List Json) : (array items).Legible ↔ ∀ item ∈ items, item.Legible := by
  cases items with
  | nil => simp [Legible, tokens, Token.Legible]
  | cons item rest =>
    rw [List.forall_mem_cons, ← legible_laterItems_iff]
    simp [Legible, tokens, Token.Legible, or_imp, forall_and]

theorem legible_object_iff (members : List (Option String × Json)) :
    (object members).Legible ↔ ∀ member ∈ members, member.2.Legible := by
  cases members with
  | nil => simp [Legible, tokens, Token.Legible]
  | cons member rest =>
    rw [List.forall_mem_cons, ← legible_laterMembers_iff]
    simp [Legible, tokens, Token.Legible, stringToken, or_imp, forall_and]

end Legible

section Reading

open Progress

def ReadFromTokens (value : Json) : Prop :=
  ∀ (stack : List Frame) (rest : List Token),
    steps (wants stack) (value.tokens ++ rest) = steps (holds value stack) rest

/-- A value may come first in an array that was opened, just as it may come after a comma. -/
theorem steps_openedArray (value : Json) (stack : List Frame) (rest : List Token) :
    steps (openedArray stack) (value.tokens ++ rest) =
      steps (wants (.array [] :: stack)) (value.tokens ++ rest) := by
  cases value with
  | array items => cases items <;> rfl
  | object members => cases members <;> rfl
  | _ => rfl

theorem steps_laterItems {items : List Json} (read : ∀ item ∈ items, item.ReadFromTokens) (item : Json)
    (done : List Json) (stack : List Frame) (rest : List Token) :
    steps (holds item (.array done :: stack)) (laterItems items ++ rest) =
      steps (holds (array (done.reverse ++ item :: items)) stack) rest := by
  induction items generalizing item done with
  | nil => simp [laterItems, steps, step]
  | cons next others ih =>
    have first := read next List.mem_cons_self (.array (item :: done) :: stack)
    have following := ih (fun other member => read other (List.mem_cons_of_mem _ member)) next (item :: done)
    rw [List.reverse_cons, List.append_assoc, List.singleton_append] at following
    rw [← following, ← first, ← List.append_assoc]
    rfl

theorem steps_named (name : Option String) (done : List (Option String × Json)) (stack : List Frame)
    (rest : List Token) :
    steps (wantsName done stack) (stringToken name :: .colon :: rest) =
      steps (wants (.object done name :: stack)) rest := by
  cases name <;> simp [stringToken, steps, step]

theorem steps_laterMembers {members : List (Option String × Json)}
    (read : ∀ member ∈ members, member.2.ReadFromTokens) (name : Option String) (value : Json)
    (done : List (Option String × Json)) (stack : List Frame) (rest : List Token) :
    steps (holds value (.object done name :: stack)) (laterMembers members ++ rest) =
      steps (holds (object (done.reverse ++ (name, value) :: members)) stack) rest := by
  induction members generalizing name value done with
  | nil => simp [laterMembers, steps, step]
  | cons next others ih =>
    obtain ⟨name', value'⟩ := next
    have first := read (name', value') List.mem_cons_self (.object ((name, value) :: done) name' :: stack)
    have following := ih (fun other member => read other (List.mem_cons_of_mem _ member)) name' value'
      ((name, value) :: done)
    rw [List.reverse_cons, List.append_assoc, List.singleton_append] at following
    rw [← following, ← first, ← steps_named, ← List.append_assoc]
    rfl

theorem read_from_tokens (value : Json) : value.ReadFromTokens := by
  induction value using nested_induction with
  | null => exact fun _ _ => rfl
  | bool value => exact fun _ _ => rfl
  | number value => exact fun _ _ => rfl
  | string text =>
    intro stack rest
    cases text <;> simp [tokens, stringToken, steps, step, start]
  | array items ih =>
    intro stack rest
    cases items with
    | nil => rfl
    | cons item others =>
      have first := ih item List.mem_cons_self (.array [] :: stack) (laterItems others ++ rest)
      have following := steps_laterItems (fun other member => ih other (List.mem_cons_of_mem _ member)) item []
        stack rest
      rw [← steps_openedArray, following, ← List.append_assoc] at first
      exact first
  | object members ih =>
    intro stack rest
    cases members with
    | nil => rfl
    | cons member others =>
      obtain ⟨name, value⟩ := member
      have first := ih (name, value) List.mem_cons_self (.object [] name :: stack) (laterMembers others ++ rest)
      have following := steps_laterMembers (fun other member => ih other (List.mem_cons_of_mem _ member)) name
        value [] stack rest
      rw [following, ← List.append_assoc] at first
      rw [← steps_named] at first
      exact first

theorem ofTokens?_tokens (value : Json) : ofTokens? value.tokens = some value := by
  have read := read_from_tokens value [] []
  rw [List.append_nil] at read
  rw [ofTokens?, read]
  rfl

theorem ofChars?_layout {value : Json} {s : List Char} (layout : Token.Layout Token.Spelt value.tokens s) :
    ofChars? s = some value := by
  rw [ofChars?, Token.ofChars?_layout layout, Option.bind_some, ofTokens?_tokens]

def SpeltBy (value : Json) (text : String) : Prop := Token.Layout Token.Spelt value.tokens text.toList

theorem ofText?_spelt {value : Json} {text : String} (spelt : value.SpeltBy text) : ofText? text = some value :=
  ofChars?_layout spelt

end Reading

end Json
end BookSearch
