import BookSearch.Json.Printer
import BookSearch.Proofs.Json.Values

/-!
Printed values. On one line or indented, a value is printed by laying out its tokens, with blanks at some of
the places where blanks may stand; so what was printed reads back.
-/
namespace BookSearch
namespace Json

section Printing

open Token

/-- What is printed for the value lays out its tokens, in front of any layout that ends a number. -/
def LaidOutBy (print : Json → List Char) (value : Json) : Prop :=
  ∀ ⦃rest : List Token⦄ ⦃s : List Char⦄, EndsNumber s → Written rest s →
    Written (value.tokens ++ rest) (print value ++ s)

theorem endsNumber_cons {c : Char} (other : c.isDigit = false ∧ c ≠ '.' ∧ c ≠ 'e' ∧ c ≠ 'E') (s : List Char) :
    EndsNumber (c :: s) := by
  intro front member
  rwa [← Option.mem_some_iff.mp member]

theorem endsNumber_of_space {c : Char} (space : isSpace c = true) (s : List Char) : EndsNumber (c :: s) := by
  simp only [isSpace, Bool.or_eq_true, decide_eq_true_eq] at space
  apply endsNumber_cons
  rcases space with ((rfl | rfl) | rfl) | rfl <;> decide

theorem written_spaces {gap : List Char} (spaces : ∀ c ∈ gap, isSpace c = true) {rest : List Token}
    {s : List Char} (written : Written rest s) : Written rest (gap ++ s) := by
  induction gap with
  | nil => exact written
  | cons c gap ih =>
    exact .blank (spaces c List.mem_cons_self) (ih fun other member => spaces other (List.mem_cons_of_mem _ member))

theorem endsNumber_spaces {gap : List Char} (spaces : ∀ c ∈ gap, isSpace c = true) {s : List Char}
    (ended : EndsNumber s) : EndsNumber (gap ++ s) := by
  cases gap with
  | nil => exact ended
  | cons c gap => exact endsNumber_of_space (spaces c List.mem_cons_self) (gap ++ s)

theorem written_mark {token : Token} (mark : ∀ number, token ≠ .number number) {rest : List Token}
    {s : List Char} (written : Written rest s) : Written (token :: rest) (token.chars ++ s) :=
  .mark mark ⟨rfl, fun number same => absurd same (mark number)⟩ written

theorem written_named (name : Option String) {space : List Char} (spaces : ∀ c ∈ space, isSpace c = true)
    {rest : List Token} {s : List Char} (written : Written rest s) :
    Written (stringToken name :: .colon :: rest) (stringChars name ++ ':' :: (space ++ s)) := by
  have colon : Written (.colon :: rest) (':' :: (space ++ s)) :=
    written_mark (by simp) (written_spaces spaces written)
  exact written_mark (by simp [stringToken]) colon

structure PrintsItems (print : Json → List Char) (gap : List Char) (printItems : List Json → List Char) :
    Prop where
  spaces : ∀ c ∈ gap, isSpace c = true
  one : ∀ item, printItems [item] = print item
  more : ∀ item next rest,
    printItems (item :: next :: rest) = print item ++ ',' :: (gap ++ printItems (next :: rest))

structure PrintsMembers (print : Json → List Char) (gap colonGap : List Char)
    (printMembers : List (Option String × Json) → List Char) : Prop where
  spaces : ∀ c ∈ gap, isSpace c = true
  colonSpaces : ∀ c ∈ colonGap, isSpace c = true
  one : ∀ name value, printMembers [(name, value)] = stringChars name ++ ':' :: (colonGap ++ print value)
  more : ∀ name value next rest, printMembers ((name, value) :: next :: rest) =
    stringChars name ++ ':' :: (colonGap ++ (print value ++ ',' :: (gap ++ printMembers (next :: rest))))

section Containers

variable {print : Json → List Char} {gap colonGap first last : List Char} {rest : List Token} {s : List Char}
  (starting : ∀ c ∈ first, isSpace c = true) (ending : ∀ c ∈ last, isSpace c = true)

include ending in
theorem items_written {printItems : List Json → List Char} (prints : PrintsItems print gap printItems)
    {item : Json} {others : List Json} (laid : ∀ other ∈ item :: others, other.LaidOutBy print)
    (written : Written rest s) :
    Written (item.tokens ++ (laterItems others ++ rest)) (printItems (item :: others) ++ (last ++ ']' :: s)) := by
  induction others generalizing item with
  | nil =>
    have closed : Written (.closeArray :: rest) (']' :: s) := written_mark (by simp) written
    rw [prints.one]
    exact laid item List.mem_cons_self (endsNumber_spaces ending (endsNumber_cons (by decide) s))
      (written_spaces ending closed)
  | cons next others ih =>
    have following := ih fun other member => laid other (List.mem_cons_of_mem item member)
    have comma : Written (.comma :: (next.tokens ++ (laterItems others ++ rest)))
        (',' :: (gap ++ (printItems (next :: others) ++ (last ++ ']' :: s)))) :=
      written_mark (by simp) (written_spaces prints.spaces following)
    have whole := laid item List.mem_cons_self (endsNumber_cons (by decide) _) comma
    rw [prints.more]
    simpa [laterItems] using whole

include ending in
theorem members_written {printMembers : List (Option String × Json) → List Char}
    (prints : PrintsMembers print gap colonGap printMembers) {name : Option String} {value : Json}
    {others : List (Option String × Json)} (laid : ∀ other ∈ (name, value) :: others, other.2.LaidOutBy print)
    (written : Written rest s) :
    Written (stringToken name :: .colon :: (value.tokens ++ (laterMembers others ++ rest)))
      (printMembers ((name, value) :: others) ++ (last ++ '\x7d' :: s)) := by
  induction others generalizing name value with
  | nil =>
    have closed : Written (.closeObject :: rest) ('\x7d' :: s) := written_mark (by simp) written
    have whole := laid (name, value) List.mem_cons_self
      (endsNumber_spaces ending (endsNumber_cons (by decide) s)) (written_spaces ending closed)
    rw [prints.one]
    simpa [laterMembers] using written_named name prints.colonSpaces whole
  | cons next others ih =>
    obtain ⟨name', value'⟩ := next
    have following := ih fun other member => laid other (List.mem_cons_of_mem _ member)
    have comma : Written (.comma :: stringToken name' :: .colon :: (value'.tokens ++ (laterMembers others ++ rest)))
        (',' :: (gap ++ (printMembers ((name', value') :: others) ++ (last ++ '\x7d' :: s)))) :=
      written_mark (by simp) (written_spaces prints.spaces following)
    have whole := laid (name, value) List.mem_cons_self (endsNumber_cons (by decide) _) comma
    rw [prints.more]
    simpa [laterMembers] using written_named name prints.colonSpaces whole

include starting ending

theorem array_written {printItems : List Json → List Char} (prints : PrintsItems print gap printItems)
    {item : Json} {others : List Json} (laid : ∀ other ∈ item :: others, other.LaidOutBy print)
    (written : Written rest s) :
    Written ((array (item :: others)).tokens ++ rest)
      ('[' :: (first ++ (printItems (item :: others) ++ (last ++ ']' :: s)))) := by
  have opened : Written (.openArray :: (item.tokens ++ (laterItems others ++ rest)))
      ('[' :: (first ++ (printItems (item :: others) ++ (last ++ ']' :: s)))) :=
    written_mark (by simp) (written_spaces starting (items_written ending prints laid written))
  simpa [tokens] using opened

theorem object_written {printMembers : List (Option String × Json) → List Char}
    (prints : PrintsMembers print gap colonGap printMembers) {member : Option String × Json}
    {others : List (Option String × Json)} (laid : ∀ other ∈ member :: others, other.2.LaidOutBy print)
    (written : Written rest s) :
    Written ((object (member :: others)).tokens ++ rest)
      ('\x7b' :: (first ++ (printMembers (member :: others) ++ (last ++ '\x7d' :: s)))) := by
  obtain ⟨name, value⟩ := member
  have opened : Written
      (.openObject :: stringToken name :: .colon :: (value.tokens ++ (laterMembers others ++ rest)))
      ('\x7b' :: (first ++ (printMembers ((name, value) :: others) ++ (last ++ '\x7d' :: s)))) :=
    written_mark (by simp) (written_spaces starting (members_written ending prints laid written))
  simpa [tokens] using opened

end Containers

theorem single_written {print : Json → List Char} {value : Json} {token : Token} (tokens : value.tokens = [token])
    (chars : print value = token.chars) (legible : value.Legible) : value.LaidOutBy print := by
  intro rest s ended written
  rw [tokens, chars]
  exact .token ⟨rfl, legible token (by simp [tokens])⟩ (fun _ _ => ended) written

theorem hollow_written {front back : Token} (opens : ∀ number, front ≠ .number number)
    (closes : ∀ number, back ≠ .number number) {print : Json → List Char} {value : Json}
    (tokens : value.tokens = [front, back]) (chars : print value = front.chars ++ back.chars) :
    value.LaidOutBy print := by
  intro rest s _ written
  rw [tokens, chars, List.append_assoc]
  exact written_mark opens (written_mark closes written)

theorem no_spaces : ∀ c ∈ ([] : List Char), isSpace c = true := by simp

theorem newline_spaces (depth : Nat) : ∀ c ∈ newline depth, isSpace c = true := by
  intro c member
  rcases List.mem_cons.mp member with rfl | indent
  · decide
  · rw [List.eq_of_mem_replicate indent]
    decide

theorem compactItems_prints : PrintsItems compact [] compactItems where
  spaces := no_spaces
  one := fun _ => rfl
  more := fun _ _ _ => rfl

theorem compactMembers_prints : PrintsMembers compact [] [] compactMembers where
  spaces := no_spaces
  colonSpaces := no_spaces
  one := fun _ _ => rfl
  more := by simp [compactMembers]

theorem indentedItems_prints (depth : Nat) :
    PrintsItems (indented depth) (newline depth) (indentedItems depth) where
  spaces := newline_spaces depth
  one := fun _ => rfl
  more := by simp [indentedItems]

theorem indentedMembers_prints (depth : Nat) :
    PrintsMembers (indented depth) (newline depth) [' '] (indentedMembers depth) where
  spaces := newline_spaces depth
  colonSpaces := List.forall_mem_singleton.mpr rfl
  one := fun _ _ => rfl
  more := by simp [indentedMembers]

theorem compact_written {value : Json} (legible : value.Legible) : value.LaidOutBy compact := by
  induction value using nested_induction with
  | null => exact single_written rfl rfl legible
  | bool value => exact single_written rfl rfl legible
  | number value => exact single_written rfl rfl legible
  | string text => exact single_written rfl rfl legible
  | array items ih =>
    cases items with
    | nil => exact hollow_written (by simp) (by simp) rfl rfl
    | cons item others =>
      intro rest s _ written
      have laid := fun other member => ih other member ((legible_array_iff _).mp legible other member)
      simpa [compact] using array_written no_spaces no_spaces compactItems_prints laid written
  | object members ih =>
    cases members with
    | nil => exact hollow_written (by simp) (by simp) rfl rfl
    | cons member others =>
      intro rest s _ written
      have laid := fun other there => ih other there ((legible_object_iff _).mp legible other there)
      simpa [compact] using object_written no_spaces no_spaces compactMembers_prints laid written

theorem indented_written {value : Json} (legible : value.Legible) (depth : Nat) :
    value.LaidOutBy (indented depth) := by
  induction value using nested_induction generalizing depth with
  | null => exact single_written rfl rfl legible
  | bool value => exact single_written rfl rfl legible
  | number value => exact single_written rfl rfl legible
  | string text => exact single_written rfl rfl legible
  | array items ih =>
    cases items with
    | nil => exact hollow_written (by simp) (by simp) rfl rfl
    | cons item others =>
      intro rest s _ written
      have laid := fun other member => ih other member ((legible_array_iff _).mp legible other member) (depth + 1)
      have whole := array_written (newline_spaces (depth + 1)) (newline_spaces depth)
        (indentedItems_prints (depth + 1)) laid written
      simpa [indented] using whole
  | object members ih =>
    cases members with
    | nil => exact hollow_written (by simp) (by simp) rfl rfl
    | cons member others =>
      intro rest s _ written
      have laid := fun other there => ih other there ((legible_object_iff _).mp legible other there) (depth + 1)
      have whole := object_written (newline_spaces (depth + 1)) (newline_spaces depth)
        (indentedMembers_prints (depth + 1)) laid written
      simpa [indented] using whole

theorem LaidOutBy.written {print : Json → List Char} {value : Json} (laid : value.LaidOutBy print) :
    Written value.tokens (print value) := by
  have ended : EndsNumber [] := by simp [EndsNumber]
  simpa using laid ended .done

theorem Legible.spelt_compact {value : Json} (legible : value.Legible) : value.SpeltBy value.toCompactText := by
  rw [SpeltBy, toCompactText, String.toList_ofList]
  exact (compact_written legible).written.spelt

end Printing

end Json
end BookSearch
