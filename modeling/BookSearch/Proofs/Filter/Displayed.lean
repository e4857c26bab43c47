import BookSearch.Filter
import BookSearch.Proofs.Text.Quoting

/-!
What the display of a filter tells. Only a list of one part leaves something open, since it is shown alike
under both connectives, and there it makes no difference to what is accepted. An empty list is shown alike
under both too and means two things, so lists have to have a part.
-/
namespace BookSearch
namespace Filter

inductive PartsAtLeast (least : Nat) : Filter → Prop where
  | always : PartsAtLeast least always
  | never : PartsAtLeast least never
  | contains (field : Field) (needle : String) : PartsAtLeast least (contains field needle)
  | negation {inner : Filter} (filled : PartsAtLeast least inner) : PartsAtLeast least (negation inner)
  | all {parts : List Filter} (enough : least ≤ parts.length)
      (filled : ∀ part ∈ parts, PartsAtLeast least part) : PartsAtLeast least (all parts)
  | any {parts : List Filter} (enough : least ≤ parts.length)
      (filled : ∀ part ∈ parts, PartsAtLeast least part) : PartsAtLeast least (any parts)

theorem PartsAtLeast.mono {least more : Nat} (le : least ≤ more) {filter : Filter}
    (filled : PartsAtLeast more filter) : PartsAtLeast least filter := by
  induction filled with
  | always => exact .always
  | never => exact .never
  | contains field needle => exact .contains field needle
  | negation _ ih => exact .negation ih
  | all enough _ ih => exact .all (Nat.le_trans le enough) ih
  | any enough _ ih => exact .any (Nat.le_trans le enough) ih

section Settled

mutual

/-- The filter with `all` for the connective of every list of one part. -/
def settled : Filter → Filter
  | always => always
  | never => never
  | contains field needle => contains field needle
  | negation inner => negation (settled inner)
  | all parts => all (settledParts parts)
  | any parts => if parts.length = 1 then all (settledParts parts) else any (settledParts parts)

def settledParts : List Filter → List Filter
  | [] => []
  | part :: rest => settled part :: settledParts rest

end

theorem settledParts_eq (parts : List Filter) : settledParts parts = parts.map settled := by
  induction parts with
  | nil => rfl
  | cons part rest ih => rw [settledParts, ih, List.map_cons]

theorem settled_answers {record : Record} {parts : List Filter}
    (ih : ∀ part ∈ parts, accepts record (settled part) = accepts record part) :
    (parts.map settled).map (accepts record) = parts.map (accepts record) := by
  rw [List.map_map]
  exact List.map_congr_left ih

theorem accepts_settled (record : Record) (filter : Filter) :
    accepts record (settled filter) = accepts record filter := by
  induction filter using parts_induction with
  | always => rfl
  | never => rfl
  | contains field needle => rfl
  | negation inner ih => simp only [settled, accepts, ih]
  | all parts ih =>
    unfold settled accepts
    rw [settledParts_eq]
    exact acceptsAll_congr (settled_answers ih)
  | any parts ih =>
    unfold settled
    split
    · rename_i single
      obtain ⟨part, rfl⟩ := List.length_eq_one_iff.mp single
      have same := ih part List.mem_cons_self
      simp [settledParts, accepts, acceptsAll, acceptsAny, same]
    · unfold accepts
      rw [settledParts_eq]
      exact acceptsAny_congr (settled_answers ih)

theorem settled_of_two {filter : Filter} (filled : PartsAtLeast 2 filter) : settled filter = filter := by
  induction filled with
  | always => rfl
  | never => rfl
  | contains field needle => rfl
  | negation _ ih => rw [settled, ih]
  | all _ _ ih => rw [settled, settledParts_eq, List.map_congr_left ih, List.map_id']
  | any enough _ ih =>
    rw [settled, if_neg (by omega), settledParts_eq, List.map_congr_left ih, List.map_id']

end Settled

section Shown

inductive Joins : (List Filter → Filter) → List Char → Prop where
  | all : Joins all [' ', 'A', 'N', 'D', ' ']
  | any : Joins any [' ', 'O', 'R', ' ']

def shown (filter : Filter) : List Char := (display filter).toList

def laterShown (separator : List Char) (parts : List Filter) : List Char :=
  parts.flatMap fun part => separator ++ shown part

theorem shown_contains (field : Field) (needle : String) :
    shown (contains field needle) = field.name.toList ++ '~' :: Chars.quote needle.toList := by
  simp [shown, display]

theorem shown_negation (inner : Filter) :
    shown (negation inner) = 'N' :: 'O' :: 'T' :: ' ' :: shown inner := by
  simp [shown, display]

theorem joined_shown (separator : String) (first : Filter) (rest : List Filter) :
    (displayJoined separator (first :: rest)).toList =
      shown first ++ laterShown separator.toList rest := by
  induction rest generalizing first with
  | nil => simp [displayJoined, shown, laterShown]
  | cons next rest ih =>
    rw [displayJoined, String.toList_append, String.toList_append, ih]
    simp [shown, laterShown]

theorem shown_list {join : List Filter → Filter} {separator : List Char} (joins : Joins join separator)
    (first : Filter) (rest : List Filter) :
    shown (join (first :: rest)) = '(' :: (shown first ++ laterShown separator rest ++ [')']) := by
  cases joins with
  | all => simp [shown, display, joined_shown]
  | any => simp [shown, display, joined_shown]

def lead : Filter → Char
  | always => 'T'
  | never => 'F'
  | contains .isbn _ => 'i'
  | contains .title _ => 't'
  | contains .subtitle _ => 's'
  | contains .author _ => 'a'
  | contains .publisher _ => 'p'
  | negation _ => 'N'
  | all _ => '('
  | any _ => '('

theorem shown_lead (filter : Filter) : ∃ tail, shown filter = filter.lead :: tail := by
  cases filter with
  | contains field needle => cases field <;> simp [shown, display, lead, Field.name]
  | _ => simp [shown, display, lead]

end Shown

section Told

/-- In front of any rest, the display tells the filter from all others that have no empty list, but for the
connective of lists of one part, and it tells where the rest begins. -/
def Told (one : Filter) : Prop :=
  ∀ other, PartsAtLeast 1 other → ∀ r s, shown one ++ r = shown other ++ s →
    settled one = settled other ∧ r = s

/-- The filters differ in nothing but what a needle says and what a filter holds, the connective included. -/
def SameForm : Filter → Filter → Prop
  | always, always => True
  | never, never => True
  | contains field _, contains field' _ => field = field'
  | negation _, negation _ => True
  | all _, all _ | all _, any _ | any _, all _ | any _, any _ => True
  | _, _ => False

theorem sameForm_of_lead {one other : Filter} (leads : one.lead = other.lead) : SameForm one other := by
  cases one with
  | contains field needle =>
    cases other with
    | contains field' needle' => cases field <;> cases field' <;> simp [lead, SameForm] at leads ⊢
    | _ => cases field <;> simp [lead] at leads
  | _ =>
    cases other with
    | contains field' needle' => cases field' <;> simp [lead] at leads
    | _ => simp [lead, SameForm] at leads ⊢

theorem sameForm_of_shown {one other : Filter} {r s : List Char} (same : shown one ++ r = shown other ++ s) :
    SameForm one other := by
  obtain ⟨tail, opened⟩ := shown_lead one
  obtain ⟨tail', opened'⟩ := shown_lead other
  rw [opened, opened'] at same
  exact sameForm_of_lead (List.cons.inj same).1

theorem told_always : Told always := by
  intro other filled r s same
  have form := sameForm_of_shown same
  cases filled with
  | always => exact ⟨rfl, List.append_cancel_left same⟩
  | _ => exact False.elim form

theorem told_never : Told never := by
  intro other filled r s same
  have form := sameForm_of_shown same
  cases filled with
  | never => exact ⟨rfl, List.append_cancel_left same⟩
  | _ => exact False.elim form

theorem told_contains (field : Field) (needle : String) : Told (contains field needle) := by
  intro other filled r s same
  have form := sameForm_of_shown same
  cases filled with
  | contains field' needle' =>
    obtain rfl : field = field' := form
    simp only [shown_contains, List.append_assoc, List.cons_append] at same
    have quotes := (List.cons.inj (List.append_cancel_left same)).2
    obtain ⟨needles, rest⟩ := Chars.quote_selfDelimiting _ _ _ _ quotes
    exact ⟨by rw [String.toList_injective needles], rest⟩
  | _ => exact False.elim form

theorem told_negation {inner : Filter} (told : Told inner) : Told (negation inner) := by
  intro other filled r s same
  have form := sameForm_of_shown same
  cases filled with
  | negation filled =>
    simp only [shown_negation, List.cons_append, List.cons.injEq, true_and] at same
    obtain ⟨inners, rest⟩ := told _ filled r s same
    exact ⟨by rw [settled, settled, inners], rest⟩
  | _ => exact False.elim form

theorem exists_list {join : List Filter → Filter} {separator : List Char} (joins : Joins join separator)
    {parts : List Filter} {other : Filter} (form : SameForm (join parts) other)
    (filled : PartsAtLeast 1 other) : ∃ join' separator' first rest, Joins join' separator' ∧
      other = join' (first :: rest) ∧ ∀ part ∈ first :: rest, PartsAtLeast 1 part := by
  cases filled with
  | all enough filled =>
    obtain ⟨first, rest, rfl⟩ := List.exists_cons_of_length_pos enough
    exact ⟨_, _, first, rest, .all, rfl, filled⟩
  | any enough filled =>
    obtain ⟨first, rest, rfl⟩ := List.exists_cons_of_length_pos enough
    exact ⟨_, _, first, rest, .any, rfl, filled⟩
  | _ => cases joins <;> exact False.elim form

theorem separators_told {join join' : List Filter → Filter} {separator separator' x y : List Char}
    (joins : Joins join separator) (joins' : Joins join' separator')
    (same : separator ++ x = separator' ++ y) : join = join' ∧ separator = separator' ∧ x = y := by
  cases joins with
  | all =>
    cases joins' with
    | all => exact ⟨rfl, rfl, List.append_cancel_left same⟩
    | any => simp at same
  | any =>
    cases joins' with
    | all => simp at same
    | any => exact ⟨rfl, rfl, List.append_cancel_left same⟩

theorem separator_ne_closing {join : List Filter → Filter} {separator : List Char}
    (joins : Joins join separator) (x y : List Char) : separator ++ x ≠ ')' :: y := by
  cases joins with
  | all => simp
  | any => simp

/-- The parts behind the first ones tell the connective too, if there are any. -/
theorem later_told {join join' : List Filter → Filter} {separator separator' : List Char}
    (joins : Joins join separator) (joins' : Joins join' separator') {parts others : List Filter}
    (told : ∀ part ∈ parts, Told part) (filled : ∀ part ∈ others, PartsAtLeast 1 part) {r s : List Char}
    (same : laterShown separator parts ++ ')' :: r = laterShown separator' others ++ ')' :: s) :
    parts.map settled = others.map settled ∧ (parts ≠ [] → join = join') ∧ r = s := by
  induction parts generalizing others with
  | nil =>
    cases others with
    | nil => exact ⟨rfl, by simp, (List.cons.inj same).2⟩
    | cons other rest =>
      simp only [laterShown, List.flatMap_nil, List.flatMap_cons, List.nil_append, List.append_assoc] at same
      exact absurd same.symm (separator_ne_closing joins' _ _)
  | cons part rest ih =>
    cases others with
    | nil =>
      simp only [laterShown, List.flatMap_nil, List.flatMap_cons, List.nil_append, List.append_assoc] at same
      exact absurd same (separator_ne_closing joins _ _)
    | cons other others =>
      simp only [laterShown, List.flatMap_cons, List.append_assoc] at same
      obtain ⟨connective, rfl, following⟩ := separators_told joins joins' same
      obtain ⟨here, behind⟩ := told part List.mem_cons_self other (filled other List.mem_cons_self) _ _ following
      obtain ⟨later, _, rests⟩ := ih (fun next member => told next (List.mem_cons_of_mem part member))
        (fun next member => filled next (List.mem_cons_of_mem other member)) behind
      exact ⟨by rw [List.map_cons, List.map_cons, here, later], fun _ => connective, rests⟩

theorem settled_list {join : List Filter → Filter} {separator : List Char} (joins : Joins join separator)
    (parts : List Filter) :
    settled (join parts) = if parts.length = 1 then all (parts.map settled) else join (parts.map settled) := by
  cases joins with
  | all => rw [settled, settledParts_eq, ite_self]
  | any => rw [settled, settledParts_eq]

theorem told_list {join : List Filter → Filter} {separator : List Char} (joins : Joins join separator)
    {first : Filter} {rest : List Filter} (told : ∀ part ∈ first :: rest, Told part) :
    Told (join (first :: rest)) := by
  intro other filled r s same
  obtain ⟨join', separator', first', rest', joins', rfl, filled'⟩ :=
    exists_list joins (sameForm_of_shown same) filled
  simp only [shown_list joins, shown_list joins', List.cons_append, List.append_assoc, List.cons.injEq,
    true_and, List.nil_append] at same
  obtain ⟨firsts, behind⟩ := told first List.mem_cons_self first' (filled' first' List.mem_cons_self) _ _ same
  obtain ⟨later, connective, rests⟩ := later_told joins joins'
    (fun part member => told part (List.mem_cons_of_mem first member))
    (fun part member => filled' part (List.mem_cons_of_mem first' member)) behind
  have parts : (first :: rest).map settled = (first' :: rest').map settled := by
    rw [List.map_cons, List.map_cons, firsts, later]
  have lengths : (first :: rest).length = (first' :: rest').length := by
    simpa using congrArg List.length parts
  refine ⟨?_, rests⟩
  rw [settled_list joins, settled_list joins', parts, lengths]
  split
  · rfl
  · rename_i several
    have more : rest ≠ [] := by
      rintro rfl
      exact several lengths.symm
    rw [connective more]

theorem told_of_filled {one : Filter} (filled : PartsAtLeast 1 one) : Told one := by
  induction filled with
  | always => exact told_always
  | never => exact told_never
  | contains field needle => exact told_contains field needle
  | negation _ ih => exact told_negation ih
  | all enough _ ih =>
    obtain ⟨first, rest, rfl⟩ := List.exists_cons_of_length_pos enough
    exact told_list .all ih
  | any enough _ ih =>
    obtain ⟨first, rest, rfl⟩ := List.exists_cons_of_length_pos enough
    exact told_list .any ih

end Told

theorem settled_of_display {one other : Filter} (filled : PartsAtLeast 1 one)
    (filled' : PartsAtLeast 1 other) (same : display one = display other) : settled one = settled other := by
  have shows : shown one ++ [] = shown other ++ [] := by rw [shown, shown, same]
  exact (told_of_filled filled other filled' [] [] shows).1

theorem eq_of_display {one other : Filter} (filled : PartsAtLeast 2 one) (filled' : PartsAtLeast 2 other)
    (same : display one = display other) : one = other := by
  have settledSame := settled_of_display (filled.mono (by decide)) (filled'.mono (by decide)) same
  rwa [settled_of_two filled, settled_of_two filled'] at settledSame

theorem anyField_filled (term : String) : PartsAtLeast 2 (anyField term) := by
  refine .any (by simp [Field.all]) ?_
  intro part member
  obtain ⟨field, _, rfl⟩ := List.mem_map.mp member
  exact .contains field _

theorem ofTerm?_filled {term : String} {filter : Filter} (given : ofTerm? term = some filter) :
    PartsAtLeast 2 filter := by
  rw [eq_anyField given]
  exact anyField_filled term

theorem ofTerm_filled (term : String) : PartsAtLeast 2 (ofTerm term) := by
  unfold ofTerm
  cases given : ofTerm? term with
  | none => exact .never
  | some filter => exact ofTerm?_filled given

theorem pair_filled {one other : Filter} (filled : PartsAtLeast 2 one) (filled' : PartsAtLeast 2 other) :
    ∀ part ∈ [one, other], PartsAtLeast 2 part := by
  simp [filled, filled']

theorem right_filled {right : Option String} {filter : Filter} (given : right.bind ofTerm? = some filter) :
    PartsAtLeast 2 filter := by
  obtain ⟨term, _, given⟩ := Option.bind_eq_some_iff.mp given
  exact ofTerm?_filled given

theorem ofQuery_filled (query : Query) : PartsAtLeast 2 (ofQuery query) := by
  unfold ofQuery
  cases query.strategy with
  | simple => exact ofTerm_filled query.left
  | union =>
    simp only [union]
    split
    · exact .never
    · exact ofTerm?_filled ‹_›
    · exact right_filled ‹_›
    · exact .any (Nat.le_refl 2) (pair_filled (ofTerm?_filled ‹_›) (right_filled ‹_›))
  | difference =>
    simp only [difference]
    split
    · exact ofTerm_filled query.left
    · exact .all (Nat.le_refl 2) (pair_filled (ofTerm_filled query.left) (.negation (right_filled ‹_›)))

/-- Filters without an empty list that are shown alike accept the same records, and if no list has fewer than
two parts they are the same filter; so are the filters of two queries that are shown alike. -/
theorem display_determines (one other : Filter) (filled : PartsAtLeast 1 one)
    (filled' : PartsAtLeast 1 other) (same : display one = display other) :
    (∀ record, accepts record one = accepts record other) ∧
      (PartsAtLeast 2 one → PartsAtLeast 2 other → one = other) ∧
      ∀ query query', display (ofQuery query) = display (ofQuery query') → ofQuery query = ofQuery query' := by
  refine ⟨?_, fun two two' => eq_of_display two two' same, ?_⟩
  · intro record
    rw [← accepts_settled record one, settled_of_display filled filled' same, accepts_settled]
  · intro query query' shownAlike
    exact eq_of_display (ofQuery_filled query) (ofQuery_filled query') shownAlike

/-- An empty list does not tell its connective, and there it matters. -/
example (record : Record) : display (all []) = display (any []) ∧
    accepts record (all []) = true ∧ accepts record (any []) = false :=
  ⟨rfl, rfl, rfl⟩

theorem single_part_shown_alike :
    let part := contains .title "\" OR (\\"
    PartsAtLeast 1 (all [part]) ∧ PartsAtLeast 1 (any [part]) ∧ display (all [part]) = display (any [part]) ∧
      ∀ record, accepts record (all [part]) = accepts record (any [part]) := by
  intro part
  have filled : ∀ inner ∈ [part], PartsAtLeast 1 inner := by
    intro inner member
    rw [List.mem_singleton.mp member]
    exact .contains _ _
  have every : PartsAtLeast 1 (all [part]) := .all (Nat.le_refl 1) filled
  have some : PartsAtLeast 1 (any [part]) := .any (Nat.le_refl 1) filled
  have same : display (all [part]) = display (any [part]) := rfl
  exact ⟨every, some, same, (display_determines _ _ every some same).1⟩

end Filter
end BookSearch
