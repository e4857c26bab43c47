import BookSearch.Json.Record

/-!
Records from the members of an object. What the members tell does not depend on their order or on those with
other names: an object is read as a record just if each field can be told from it and none is told twice.
-/
namespace BookSearch
namespace Json

def timesNamed (name : String) (members : List (Option String × Json)) : Nat :=
  (members.map Prod.fst).count (some name)

theorem timesNamed_cons (name : String) (member : Option String × Json) (rest : List (Option String × Json)) :
    timesNamed name (member :: rest) = timesNamed name rest + if member.1 = some name then 1 else 0 := by
  rw [timesNamed, List.map_cons, List.count_cons, ← timesNamed]
  simp only [beq_iff_eq]

theorem timesNamed_eq_zero_iff (name : String) (members : List (Option String × Json)) :
    timesNamed name members = 0 ↔ ∀ value, (some name, value) ∉ members := by
  rw [timesNamed, List.count_eq_zero, List.mem_map]
  constructor
  · intro absent value member
    exact absent ⟨_, member, rfl⟩
  · rintro absent ⟨⟨_, value⟩, member, rfl⟩
    exact absent value member

theorem lookup_eq_some_iff {name : String} {members : List (Option String × Json)}
    (once : timesNamed name members ≤ 1) (value : Json) :
    members.lookup (some name) = some value ↔ (some name, value) ∈ members := by
  induction members with
  | nil => simp
  | cons member rest ih =>
    obtain ⟨name', value'⟩ := member
    rw [timesNamed_cons] at once
    by_cases same : name' = some name
    · subst same
      have absent : ∀ value, (some name, value) ∉ rest := by
        rw [← timesNamed_eq_zero_iff]
        simp only [if_true] at once
        omega
      simp [absent value, eq_comm]
    · have apart : (some name == name') = false := by simpa using Ne.symm same
      have other : (some name, value) ≠ (name', value') := fun equal => same (Prod.mk.inj equal).1.symm
      rw [if_neg same] at once
      rw [List.lookup_cons, apart, ih once, List.mem_cons]
      simp [other]

namespace Fields

variable {ρ : Type}

/-- The value of each field is what stands under its name, or what stands for it where nothing does. -/
def Told (members : List (Option String × Json)) : {ρ : Type} → Fields ρ → ρ → Prop
  | _, nil, _ => True
  | _, cons name codec whenMissing _ rest, (value, values) =>
    (members.lookup (some name)).elim (whenMissing = some value) (fun given => codec.decode given = .ok value) ∧
      rest.Told members values

structure Tells (fields : Fields ρ) (members : List (Option String × Json)) (values : ρ) : Prop where
  named : ∀ member ∈ members, member.1 ≠ none
  once : ∀ name ∈ fields.names, timesNamed name members ≤ 1
  told : fields.Told members values

theorem ofMembers_ok_iff (fields : Fields ρ) (members : List (Option String × Json)) (values : ρ) :
    fields.ofMembers members = .ok values ↔ fields.Told members values := by
  induction fields with
  | nil => exact iff_of_true rfl trivial
  | cons name codec whenMissing whenShort rest ih =>
    obtain ⟨value, values⟩ := values
    have both : ∀ first : Except DecodeError _,
        (do let value ← first; let values ← rest.ofMembers members; return (value, values)) = .ok (value, values) ↔
          first = .ok value ∧ rest.ofMembers members = .ok values := by
      intro first
      cases first with
      | error fault => simp [bind, Except.bind]
      | ok value' => cases rest.ofMembers members <;> simp [bind, Except.bind, pure, Except.pure]
    unfold ofMembers
    rw [Told, ← ih]
    cases members.lookup (some name) with
    | some given => exact both (codec.decode given)
    | none => cases whenMissing with
      | none => simpa using both (.error (.missingField name))
      | some value' => simpa using both (.ok value')

theorem valueFault?_of_told {fields : Fields ρ} {members : List (Option String × Json)} {values : ρ}
    (told : fields.Told members values) {name : String} {given : Json}
    (found : members.lookup (some name) = some given) : fields.valueFault? name given = none := by
  induction fields with
  | nil => rfl
  | cons name' codec whenMissing whenShort rest ih =>
    obtain ⟨value, values⟩ := values
    obtain ⟨first, others⟩ := told
    rw [valueFault?]
    by_cases same : name' = name
    · subst same
      rw [found, Option.elim_some] at first
      rw [if_pos rfl, first]
    · rw [if_neg same]
      exact ih others

/-- What keeps the members without a fault when the fields `seen` came before. -/
structure Faultless (fields : Fields ρ) (seen : List String) (members : List (Option String × Json)) : Prop where
  named : ∀ member ∈ members, member.1 ≠ none
  once : ∀ name ∈ fields.names, timesNamed name members ≤ if name ∈ seen then 0 else 1
  sound : ∀ name value, (some name, value) ∈ members → name ∈ fields.names → fields.valueFault? name value = none

theorem faultless_cons_iff {fields : Fields ρ} {seen later : List String} {name : String} {value : Json}
    {rest : List (Option String × Json)}
    (counts : ∀ other ∈ fields.names,
      (timesNamed other ((some name, value) :: rest) ≤ if other ∈ seen then 0 else 1) ↔
        timesNamed other rest ≤ if other ∈ later then 0 else 1)
    (sound : name ∈ fields.names → fields.valueFault? name value = none) :
    fields.Faultless seen ((some name, value) :: rest) ↔ fields.Faultless later rest := by
  constructor
  · rintro ⟨named, once, faultless⟩
    refine ⟨fun member there => named member (List.mem_cons_of_mem _ there),
      fun other known => (counts other known).mp (once other known), ?_⟩
    exact fun other value there known => faultless other value (List.mem_cons_of_mem _ there) known
  · rintro ⟨named, once, faultless⟩
    refine ⟨List.forall_mem_cons.mpr ⟨Option.some_ne_none name, named⟩,
      fun other known => (counts other known).mpr (once other known), ?_⟩
    intro other value' there known
    rcases List.mem_cons.mp there with same | later
    · cases same
      exact sound known
    · exact faultless other value' later known

theorem memberFault?_eq_none_iff (fields : Fields ρ) (seen : List String) (members : List (Option String × Json)) :
    fields.memberFault? seen members = none ↔ fields.Faultless seen members := by
  induction members generalizing seen with
  | nil => exact iff_of_true rfl ⟨List.forall_mem_nil _, fun _ _ => Nat.zero_le _, fun _ _ => by simp⟩
  | cons member rest ih =>
    obtain ⟨name, value⟩ := member
    cases name with
    | none =>
      refine iff_of_false ?_ fun faultless => faultless.named _ List.mem_cons_self rfl
      simp [memberFault?]
    | some name =>
      rw [memberFault?]
      by_cases known : name ∈ fields.names
      · rw [if_pos (List.contains_iff_mem.mpr known)]
        by_cases before : name ∈ seen
        · rw [if_pos (List.contains_iff_mem.mpr before)]
          refine iff_of_false (by simp) fun faultless => ?_
          have once := faultless.once name known
          rw [timesNamed_cons, if_pos rfl, if_pos before] at once
          omega
        · rw [if_neg (by simpa using before)]
          cases fault : fields.valueFault? name value with
          | some fault =>
            refine iff_of_false (by simp) fun faultless => ?_
            rw [faultless.sound name value List.mem_cons_self known] at fault
            contradiction
          | none =>
            refine (ih (name :: seen)).trans (faultless_cons_iff ?_ fun _ => fault).symm
            intro other _
            rw [timesNamed_cons]
            by_cases same : other = name
            · subst same
              simp [before]
            · simp [same, Ne.symm same]
      · rw [if_neg (by simpa using known)]
        refine (ih seen).trans (faultless_cons_iff ?_ fun here => absurd here known).symm
        intro other here
        have apart : name ≠ other := fun same => known (same ▸ here)
        rw [timesNamed_cons, if_neg (by simpa using apart), Nat.add_zero]

theorem Tells.faultless {fields : Fields ρ} {members : List (Option String × Json)} {values : ρ}
    (tells : fields.Tells members values) : fields.Faultless [] members where
  named := tells.named
  once := fun name known => by simpa using tells.once name known
  sound := by
    intro name value member known
    exact valueFault?_of_told tells.told ((lookup_eq_some_iff (tells.once name known) value).mpr member)

end Fields

/-- An object is read as a record just if its members tell one. -/
theorem Codec.record_decode_iff {α ρ : Type} (name : String) (fields : Fields ρ) (pack : ρ → α) (unpack : α → ρ)
    (members : List (Option String × Json)) (value : α) :
    (Codec.record name fields pack unpack).decode (object members) = .ok value ↔
      ∃ values, fields.Tells members values ∧ pack values = value := by
  constructor
  · intro decoded
    simp only [record] at decoded
    split at decoded
    · contradiction
    · rename_i faultless
      obtain ⟨named, once, _⟩ := (fields.memberFault?_eq_none_iff [] members).mp faultless
      cases held : fields.ofMembers members with
      | error fault => rw [held] at decoded; contradiction
      | ok values =>
        rw [held] at decoded
        exact ⟨values, ⟨named, fun name known => by simpa using once name known,
          (fields.ofMembers_ok_iff members values).mp held⟩, Except.ok.inj decoded⟩
  · rintro ⟨values, tells, rfl⟩
    have faultless := (fields.memberFault?_eq_none_iff [] members).mpr tells.faultless
    have held := (fields.ofMembers_ok_iff members values).mpr tells.told
    simp only [record, faultless, held, Except.map]

end Json
end BookSearch
