/-!
Lists of records that carry their own key. Looking up takes the first record with the key; putting one
in replaces the record with the same key where it stands, and a new key goes to the end.
-/
namespace BookSearch.Keyed

variable {κ α : Type} [DecidableEq κ]

def get? (key : α → κ) (k : κ) (xs : List α) : Option α := xs.find? fun x => key x = k

def put (key : α → κ) (x : α) : List α → List α
  | [] => [x]
  | y :: ys => if key y = key x then x :: ys else y :: put key x ys

theorem mem_keys_put (key : α → κ) (x : α) (xs : List α) (k : κ) :
    k ∈ (put key x xs).map key ↔ k = key x ∨ k ∈ xs.map key := by
  induction xs with
  | nil => simp [put]
  | cons y ys ih =>
    by_cases same : key y = key x
    · simp [put, same]
    · simp only [put, same, if_false, List.map_cons, List.mem_cons, ih]
      exact or_left_comm

theorem keys_put_known (key : α → κ) (x : α) (xs : List α) (known : key x ∈ xs.map key) :
    (put key x xs).map key = xs.map key := by
  induction xs with
  | nil => contradiction
  | cons y ys ih =>
    by_cases same : key y = key x
    · simp [put, same]
    · have later : key x ∈ ys.map key := (List.mem_cons.mp known).resolve_left (Ne.symm same)
      rw [put, if_neg same, List.map_cons, ih later, List.map_cons]

theorem put_new (key : α → κ) (x : α) (xs : List α) (fresh : key x ∉ xs.map key) :
    put key x xs = xs ++ [x] := by
  induction xs with
  | nil => rfl
  | cons y ys ih =>
    rw [List.map_cons, List.mem_cons, not_or] at fresh
    obtain ⟨other, later⟩ := fresh
    rw [put, if_neg (Ne.symm other), ih later, List.cons_append]

theorem nodup_keys_put (key : α → κ) (x : α) (xs : List α) (distinct : (xs.map key).Nodup) :
    ((put key x xs).map key).Nodup := by
  induction xs with
  | nil => simp [put]
  | cons y ys ih =>
    obtain ⟨fresh, tail⟩ := List.nodup_cons.mp distinct
    by_cases same : key y = key x
    · simp only [put, same, if_true, List.map_cons, List.nodup_cons]
      exact ⟨same ▸ fresh, tail⟩
    · rw [put, if_neg same, List.map_cons, List.nodup_cons, mem_keys_put]
      refine ⟨?_, ih tail⟩
      rintro (here | there)
      · exact same here
      · exact fresh there

theorem key_of_get? {key : α → κ} {k : κ} {xs : List α} {x : α} (found : get? key k xs = some x) :
    key x = k := by
  simpa using List.find?_some found

theorem get?_of_mem {key : α → κ} {xs : List α} (distinct : (xs.map key).Nodup) {x : α} (member : x ∈ xs) :
    get? key (key x) xs = some x := by
  induction xs with
  | nil => contradiction
  | cons y ys ih =>
    obtain ⟨fresh, tail⟩ := List.nodup_cons.mp distinct
    rcases List.mem_cons.mp member with rfl | later
    · simp [get?]
    · have other : key y ≠ key x := by
        intro same
        exact fresh (same ▸ List.mem_map_of_mem later)
      simpa [get?, other] using ih tail later

theorem get?_put_same (key : α → κ) (x : α) (xs : List α) :
    get? key (key x) (put key x xs) = some x := by
  induction xs with
  | nil => simp [put, get?]
  | cons y ys ih =>
    by_cases same : key y = key x
    · simp [put, get?, same]
    · simpa [put, get?, same] using ih

theorem get?_put_other (key : α → κ) (x : α) (xs : List α) (k : κ) (other : k ≠ key x) :
    get? key k (put key x xs) = get? key k xs := by
  induction xs with
  | nil => simp [put, get?, Ne.symm other]
  | cons y ys ih =>
    by_cases same : key y = key x
    · simp [put, get?, same, Ne.symm other]
    · rw [put, if_neg same]
      by_cases here : key y = k
      · simp [get?, here]
      · simpa [get?, here] using ih

end BookSearch.Keyed
