import BookSearch.Proofs.Page.Cut

/-!
The pages of a list, one after the other. Put together they are the list again: none of them is empty, all but
the last are full, and past the last there is nothing. No place in the list outgrows a word of 64 bits.
-/
namespace BookSearch

namespace PageRequest

theorem offset_of? {number size limit : UInt32} {request : PageRequest}
    (granted : of? number size limit = .ok request) : request.offset = (number.toNat - 1) * size.toNat := by
  obtain ⟨rfl, rfl⟩ := number_size_of? granted
  rfl

theorem place_lt (number size : UInt32) : (number.toNat - 1) * size.toNat < 2 ^ 64 := by
  have numbers : number.toNat - 1 ≤ 2 ^ 32 - 1 := by
    have bound := number.toNat_lt
    omega
  have sizes : size.toNat ≤ 2 ^ 32 - 1 := Nat.le_sub_one_of_lt size.toNat_lt
  exact Nat.lt_of_le_of_lt (Nat.mul_le_mul numbers sizes) (by decide)

theorem place_in_words {number : UInt32} (positive : 1 ≤ number) (size : UInt32) :
    ((number.toUInt64 - 1) * size.toUInt64).toNat = (number.toNat - 1) * size.toNat := by
  have positive' : 1 ≤ number.toUInt64 := by
    rw [UInt64.le_iff_toNat_le, UInt32.toNat_toUInt64]
    exact UInt32.le_iff_toNat_le.mp positive
  have before : (number.toUInt64 - 1).toNat = number.toNat - 1 := by
    rw [UInt64.toNat_sub_of_le _ _ positive', UInt32.toNat_toUInt64]
    rfl
  rw [UInt64.toNat_mul, before, UInt32.toNat_toUInt64, Nat.mod_eq_of_lt (place_lt number size)]

end PageRequest

namespace Page

variable {α : Type}

def numbered (found : List α) (size limit number : UInt32) : Except PageError (Page α) :=
  (PageRequest.of? number size limit).map (cut found)

def firstNumbers (count : Nat) : List UInt32 :=
  (List.range count).map fun before => UInt32.ofNat (before + 1)

def after (found : List α) (size before : Nat) : Page α where
  items := (found.drop (before * size)).take size
  totalPages := UInt32.ofNat (found.length ⌈/⌉ size)
  totalElements := UInt64.ofNat found.length

/-- Asked for by the numbers from one up to the last, these are the pages, and nothing of the list is missing
from them, doubled or out of order. -/
structure Partition (pages : List (Page α)) (found : List α) (size limit : UInt32) : Prop where
  asked : (firstNumbers (found.length ⌈/⌉ size.toNat)).map (numbered found size limit) = pages.map .ok
  joined : pages.flatMap items = found
  filled : ∀ page ∈ pages, page.items ≠ []
  full : ∀ page ∈ pages.dropLast, page.items.length = size.toNat

theorem cut_eq_after (found : List α) (request : PageRequest) :
    cut found request = after found request.size.toNat (request.number.toNat - 1) := by
  rw [cut, after, Nat.ceilDiv_eq_add_pred_div, PageRequest.offset]

theorem after_join (found : List α) (size count : Nat) :
    (List.range count).flatMap (fun before => (after found size before).items) = found.take (count * size) := by
  induction count with
  | zero => simp
  | succ count ih =>
    rw [List.range_succ, List.flatMap_append, ih, List.flatMap_singleton, Nat.succ_mul, List.take_add]
    rfl

theorem after_length (found : List α) (size before : Nat) :
    (after found size before).items.length = min size (found.length - before * size) := by
  rw [after, List.length_take, List.length_drop]

theorem cut_length (found : List α) (request : PageRequest) :
    (cut found request).items.length = min request.size.toNat (found.length - request.offset) := by
  rw [cut_eq_after, after_length, PageRequest.offset]

theorem after_eq_nil {found : List α} {size before : Nat} (past : found.length ≤ before * size) :
    (after found size before).items = [] := by
  rw [after, List.drop_eq_nil_of_le past, List.take_nil]

theorem lt_pages_iff {size : Nat} (sized : 0 < size) (count before : Nat) :
    before < count ⌈/⌉ size ↔ before * size < count := by
  rw [← Nat.not_le, ceilDiv_le_iff_le_mul sized, Nat.not_le, Nat.mul_comm]

section Numbered

variable (found : List α) {size limit : UInt32} (sized : 1 ≤ size) (allowed : size ≤ limit)
include sized allowed

theorem numbered_eq {number : UInt32} (positive : 1 ≤ number) :
    numbered found size limit number = .ok (after found size.toNat (number.toNat - 1)) := by
  have placed : ¬ (number < 1 ∨ size < 1 ∨ limit < size) := by
    rw [not_or, not_or, UInt32.not_lt, UInt32.not_lt, UInt32.not_lt]
    exact ⟨positive, sized, allowed⟩
  obtain ⟨request, granted, rfl, rfl⟩ := PageRequest.of?_granted placed
  rw [numbered, granted, Except.map, cut_eq_after]

theorem numbered_firstNumbers {count : Nat} (few : count ≤ 2 ^ 32 - 1) :
    (firstNumbers count).map (numbered found size limit) =
      ((List.range count).map (after found size.toNat)).map .ok := by
  rw [firstNumbers, List.map_map, List.map_map]
  apply List.map_congr_left
  intro before member
  have inside := List.mem_range.mp member
  have number : (UInt32.ofNat (before + 1)).toNat = before + 1 := by
    apply UInt32.toNat_ofNat_of_lt'
    rw [UInt32.size]
    omega
  have positive : 1 ≤ UInt32.ofNat (before + 1) := by
    rw [UInt32.le_iff_toNat_le, number]
    exact Nat.succ_le_succ (Nat.zero_le before)
  rw [Function.comp_apply, numbered_eq found sized allowed positive, number, Nat.add_sub_cancel]
  rfl

end Numbered

theorem pages_le {count size : Nat} (sized : 0 < size) (few : count ≤ (2 ^ 32 - 1) * size) :
    count ⌈/⌉ size ≤ 2 ^ 32 - 1 := by
  rw [ceilDiv_le_iff_le_mul sized, Nat.mul_comm]
  exact few

theorem partition_after (found : List α) {size limit : UInt32} (sized : 1 ≤ size) (allowed : size ≤ limit)
    (few : found.length ≤ (2 ^ 32 - 1) * size.toNat) :
    Partition ((List.range (found.length ⌈/⌉ size.toNat)).map (after found size.toNat)) found size limit := by
  have sized' : 0 < size.toNat := UInt32.le_iff_toNat_le.mp sized
  have inside := lt_pages_iff sized' found.length
  constructor
  · exact numbered_firstNumbers found sized allowed (pages_le sized' few)
  · have whole : found.length ≤ found.length ⌈/⌉ size.toNat * size.toNat := by
      rw [← Nat.not_lt, ← inside]
      exact Nat.lt_irrefl _
    rw [List.flatMap_map, after_join, List.take_of_length_le whole]
  · intro page member
    obtain ⟨before, listed, rfl⟩ := List.mem_map.mp member
    have started := (inside before).mp (List.mem_range.mp listed)
    rw [List.ne_nil_iff_length_pos, after_length]
    omega
  · intro page member
    rw [← List.map_dropLast, List.dropLast_eq_take, List.length_range, List.take_range] at member
    obtain ⟨before, listed, rfl⟩ := List.mem_map.mp member
    -- one more page is started after this one, so this one cannot be short
    have next := (inside (before + 1)).mp (by rw [List.mem_range] at listed; omega)
    rw [Nat.succ_mul] at next
    rw [after_length]
    omega

/-- The pages with the numbers from one to the last make up the list, every page tells how many there are of
them and of the matches, and no page that may be asked for starts at a place that is no 64-bit word. -/
theorem pages_partition (found : List α) {size limit : UInt32} (sized : 1 ≤ size) (allowed : size ≤ limit)
    (few : found.length ≤ (2 ^ 32 - 1) * size.toNat) :
    (∃ pages, Partition pages found size limit) ∧
      (∀ number, 1 ≤ number → ∃ page, numbered found size limit number = .ok page ∧
        page.totalElements.toNat = found.length ∧
        page.totalPages.toNat = found.length ⌈/⌉ size.toNat ∧
        (found.length ⌈/⌉ size.toNat < number.toNat → page.items = [])) ∧
      ∀ (number size limit : UInt32) (request : PageRequest),
        PageRequest.of? number size limit = .ok request →
          request.offset = (number.toNat - 1) * size.toNat ∧ request.offset < 2 ^ 64 ∧
            ((request.number.toUInt64 - 1) * request.size.toUInt64).toNat = request.offset := by
  have sized' : 0 < size.toNat := UInt32.le_iff_toNat_le.mp sized
  refine ⟨⟨_, partition_after found sized allowed few⟩, ?numbers, ?places⟩
  case numbers =>
    intro number positive
    refine ⟨_, numbered_eq found sized allowed positive, ?_, ?_, ?_⟩
    · apply UInt64.toNat_ofNat_of_lt'
      have bound := Nat.mul_le_mul_left (2 ^ 32 - 1) (Nat.le_sub_one_of_lt size.toNat_lt)
      exact Nat.lt_of_le_of_lt (Nat.le_trans few bound) (by decide)
    · apply UInt32.toNat_ofNat_of_lt'
      have bound := pages_le sized' few
      rw [UInt32.size]
      omega
    · intro past
      apply after_eq_nil
      rw [← Nat.not_lt, ← lt_pages_iff sized']
      omega
  case places =>
    intro number size limit request granted
    have offset := PageRequest.offset_of? granted
    refine ⟨offset, ?_, PageRequest.place_in_words request.number_pos request.size⟩
    rw [offset]
    exact PageRequest.place_lt number size

theorem last_page_full :
    (1 : UInt32) ≤ 2 ∧ (2 : UInt32) ≤ 3 ∧ ['a', 'b', 'c', 'd'].length ≤ (2 ^ 32 - 1) * (2 : UInt32).toNat ∧
      (∃ pages, Partition pages ['a', 'b', 'c', 'd'] 2 3 ∧
        pages.map items = [['a', 'b'], ['c', 'd']]) ∧
      ∃ page, numbered ['a', 'b', 'c', 'd'] 2 3 4294967295 = .ok page ∧ page.items = [] ∧
        page.totalPages.toNat = 2 := by
  have sized : (1 : UInt32) ≤ 2 := by decide
  have allowed : (2 : UInt32) ≤ 3 := by decide
  have few : ['a', 'b', 'c', 'd'].length ≤ (2 ^ 32 - 1) * (2 : UInt32).toNat := by decide
  obtain ⟨⟨pages, partition⟩, answers, -⟩ := pages_partition ['a', 'b', 'c', 'd'] sized allowed few
  refine ⟨sized, allowed, few, ⟨pages, partition, ?_⟩, ?_⟩
  · have asked : pages.map Except.ok =
        [⟨['a', 'b'], 2, 4⟩, ⟨['c', 'd'], 2, 4⟩].map (Except.ok : Page Char → Except PageError (Page Char)) :=
      partition.asked.symm.trans (by decide)
    have injective : Function.Injective (Except.ok : Page Char → Except PageError (Page Char)) :=
      fun _ _ same => Except.ok.inj same
    rw [List.map_injective_iff.mpr injective asked]
    rfl
  · obtain ⟨page, answered, -, total, past⟩ := answers 4294967295 (by decide)
    exact ⟨page, answered, past (by decide), total.trans (by decide)⟩

end Page

end BookSearch
