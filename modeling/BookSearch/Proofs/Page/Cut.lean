import Mathlib.Algebra.Order.Floor.Div
import BookSearch.Page

/-!
Which page requests are granted, and what is on the page that was cut out of a list of matches.
-/
namespace BookSearch

namespace PageRequest

theorem of?_refused {number size limit : UInt32} (misplaced : number < 1 ∨ size < 1 ∨ limit < size) :
    ∃ refusal, of? number size limit = .error refusal := by
  unfold of?
  split
  · rename_i numbered
    split
    · rename_i fits
      rcases misplaced with early | small | large
      · exact absurd numbered (UInt32.not_le.mpr early)
      · exact absurd fits.1 (UInt32.not_le.mpr small)
      · exact absurd fits.2 (UInt32.not_le.mpr large)
    · exact ⟨_, rfl⟩
  · exact ⟨_, rfl⟩

theorem of?_granted {number size limit : UInt32} (placed : ¬ (number < 1 ∨ size < 1 ∨ limit < size)) :
    ∃ request, of? number size limit = .ok request ∧ request.number = number ∧ request.size = size := by
  obtain ⟨numbered, sized, fits⟩ : ¬ number < 1 ∧ ¬ size < 1 ∧ ¬ limit < size := by
    simpa only [not_or] using placed
  rw [UInt32.not_lt] at numbered sized fits
  refine ⟨⟨number, size, numbered, sized⟩, ?_, rfl, rfl⟩
  rw [of?, dif_pos numbered, dif_pos ⟨sized, fits⟩]

theorem number_size_of? {number size limit : UInt32} {request : PageRequest}
    (granted : of? number size limit = .ok request) : request.number = number ∧ request.size = size := by
  unfold of? at granted
  split at granted
  · split at granted
    · cases granted
      exact ⟨rfl, rfl⟩
    · contradiction
  · contradiction

end PageRequest

namespace Page

variable {α β : Type}

/-- What the request asks for out of all that was found. The totals are held in 64 and in 32 bits. -/
structure Shows (page : Page α) (found : List α) (request : PageRequest) : Prop where
  items : ∀ i : Nat, page.items[i]? =
    if i < request.size.toNat then found[(request.number.toNat - 1) * request.size.toNat + i]? else none
  totalElements : page.totalElements.toNat = found.length % 2 ^ 64
  totalPages : page.totalPages.toNat = (found.length ⌈/⌉ request.size.toNat) % 2 ^ 32

theorem cut_items (found : List α) (request : PageRequest) (i : Nat) :
    (cut found request).items[i]? =
      if i < request.size.toNat then found[(request.number.toNat - 1) * request.size.toNat + i]?
      else none := by
  rw [cut, List.getElem?_take, List.getElem?_drop, PageRequest.offset]

theorem cut_totalElements {found : List α} (request : PageRequest) (few : found.length < 2 ^ 64) :
    (cut found request).totalElements.toNat = found.length :=
  UInt64.toNat_ofNat_of_lt' few

theorem cut_totalPages {found : List α} (request : PageRequest)
    (few : found.length ≤ (2 ^ 32 - 1) * request.size.toNat) :
    (cut found request).totalPages.toNat = found.length ⌈/⌉ request.size.toNat := by
  have sized : 0 < request.size.toNat := UInt32.le_iff_toNat_le.mp request.size_pos
  have bounded : found.length ⌈/⌉ request.size.toNat ≤ 2 ^ 32 - 1 := by
    rw [ceilDiv_le_iff_le_mul sized, Nat.mul_comm]
    exact few
  rw [Nat.ceilDiv_eq_add_pred_div] at bounded ⊢
  have fits : (found.length + request.size.toNat - 1) / request.size.toNat < UInt32.size :=
    Nat.lt_of_le_of_lt bounded (by decide)
  exact UInt32.toNat_ofNat_of_lt' fits

theorem cut_shows (found : List α) (request : PageRequest) : (cut found request).Shows found request where
  items := cut_items found request
  totalElements := UInt64.toNat_ofNat'
  totalPages := by
    rw [Nat.ceilDiv_eq_add_pred_div]
    exact UInt32.toNat_ofNat'

theorem cut_map (f : α → β) (found : List α) (request : PageRequest) :
    (cut (found.map f) request).items = (cut found request).items.map f := by
  rw [cut, cut, List.map_take, List.map_drop]

theorem cut_sublist (found : List α) (request : PageRequest) : (cut found request).items.Sublist found :=
  (List.take_sublist _ _).trans (List.drop_sublist _ _)

theorem page_of_place (before : Nat) {size i : Nat} (inside : i < size) : (before * size + i) / size = before := by
  rw [Nat.mul_comm, Nat.mul_add_div (Nat.zero_lt_of_lt inside), Nat.div_eq_of_lt inside, Nat.add_zero]

theorem cut_disjoint {found : List α} (distinct : found.Nodup) {one other : PageRequest}
    (sizes : one.size = other.size) (numbers : one.number ≠ other.number) :
    (cut found one).items.Disjoint (cut found other).items := by
  intro x here there
  obtain ⟨i, first⟩ := List.getElem?_of_mem here
  obtain ⟨j, second⟩ := List.getElem?_of_mem there
  rw [cut_items, Option.ite_none_right_eq_some] at first second
  obtain ⟨inside, first⟩ := first
  obtain ⟨inside', second⟩ := second
  rw [sizes] at first inside
  obtain ⟨short, _⟩ := List.getElem?_eq_some_iff.mp first
  have place := (List.getElem?_inj short distinct).mp (first.trans second.symm)
  have pages : one.number.toNat - 1 = other.number.toNat - 1 := by
    rw [← page_of_place (one.number.toNat - 1) inside, place, page_of_place _ inside']
  have counted : 1 ≤ one.number.toNat := UInt32.le_iff_toNat_le.mp one.number_pos
  have counted' : 1 ≤ other.number.toNat := UInt32.le_iff_toNat_le.mp other.number_pos
  exact numbers (UInt32.toNat_inj.mp (by omega))

end Page

end BookSearch
