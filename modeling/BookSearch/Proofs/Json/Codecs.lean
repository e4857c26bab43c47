import BookSearch.Keyed
import BookSearch.Proofs.Json.Printing
import BookSearch.Proofs.Json.Records
import BookSearch.Proofs.Text.Dates
import Mathlib.Data.List.Nodup

/-!
Codecs that give back what they were given. Faithfulness goes from the parts to the whole: to what may be
absent, to lists, to names out of a few, and to records whose fields have different names.
-/
namespace BookSearch
namespace Json

/-- What is written for a value can stand in a text and decodes to the value. -/
structure Codec.Faithful (codec : Codec α) : Prop where
  decodes : ∀ value, codec.decode (codec.encode value) = .ok value
  legible : ∀ value, (codec.encode value).Legible

def Codec.Present (codec : Codec α) : Prop := ∀ value, codec.encode value ≠ null

/-- A text of the value's JSON, with blanks anywhere between its tokens. -/
def Codec.Spells (codec : Codec α) (value : α) (text : String) : Prop :=
  Token.Written (codec.encode value).tokens text.toList

structure Codec.ReadsBack (codec : Codec α) : Prop where
  compact : ∀ value, codec.read (codec.write value) = .ok value
  indented : ∀ value, codec.read (codec.writeIndented value) = .ok value
  spelt : ∀ value text, codec.Spells value text → codec.read text = .ok value

namespace Codec

variable {α : Type} {codec : Codec α}

theorem Faithful.spells_write (faithful : codec.Faithful) (value : α) :
    codec.Spells value (codec.write value) := by
  rw [Spells, write, toCompactText, String.toList_ofList]
  exact (compact_written (faithful.legible value)).written

theorem Faithful.spells_writeIndented (faithful : codec.Faithful) (value : α) :
    codec.Spells value (codec.writeIndented value) := by
  rw [Spells, writeIndented, toIndentedText, String.toList_ofList]
  exact (indented_written (faithful.legible value) 0).written

theorem read_ok_iff {given : Json} {text : String} (spelt : given.SpeltBy text) (value : α) :
    codec.read text = .ok value ↔ codec.decode given = .ok value := by
  rw [read, ofText?_spelt spelt]
  cases decoded : codec.decode given <;> simp [decoded]

theorem Faithful.read_spelt (faithful : codec.Faithful) {value : α} {text : String}
    (spells : codec.Spells value text) : codec.read text = .ok value :=
  (read_ok_iff spells.spelt value).mpr (faithful.decodes value)

theorem Faithful.readsBack (faithful : codec.Faithful) : codec.ReadsBack where
  compact := fun value => faithful.read_spelt (faithful.spells_write value)
  indented := fun value => faithful.read_spelt (faithful.spells_writeIndented value)
  spelt := fun _ _ spells => faithful.read_spelt spells

theorem legible_of_token {value : Json} {token : Token} (tokens : value.tokens = [token])
    (legible : token.Legible) : value.Legible := by
  intro other member
  rw [tokens, List.mem_singleton] at member
  rwa [member]

theorem ofString_legible (s : String) : (ofString s).Legible :=
  legible_of_token rfl (by simp [Token.Legible, stringToken])

theorem ofNat_legible (n : Nat) : (ofNat n).Legible := by
  apply legible_of_token rfl
  intro value same
  rw [← Token.number.inj same]
  exact Number.ofNat_literal n

theorem toInt?_ofNat {n : Nat} (below : n < UInt64.size) : (Number.ofNat n).toInt? = some (n : Int) := by
  simp [Number.ofNat, Number.toInt?, below]

theorem decodeNat_ofNat {limit n : Nat} (wanted : String) (fits : limit ≤ UInt64.size) (below : n < limit) :
    decodeNat limit wanted (ofNat n) = .ok n := by
  simp [decodeNat, ofNat, toInt?_ofNat (Nat.lt_of_lt_of_le below fits), below]

theorem text_faithful : text.Faithful where
  decodes := fun _ => rfl
  legible := ofString_legible

theorem flag_faithful : flag.Faithful where
  decodes := fun _ => rfl
  legible := fun _ => legible_of_token rfl (by simp [Token.Legible])

theorem word32_faithful : word32.Faithful where
  decodes := by
    intro n
    have decoded := decodeNat_ofNat "u32" (by decide) n.toNat_lt
    simp [word32, decoded, Except.map]
  legible := fun n => ofNat_legible n.toNat

theorem word_faithful (wanted : String) : (word wanted).Faithful where
  decodes := by
    intro n
    have decoded := decodeNat_ofNat wanted (Nat.le_refl _) n.toNat_lt
    simp [word, decoded, Except.map]
  legible := fun n => ofNat_legible n.toNat

theorem date_faithful : date.Faithful where
  decodes := by
    intro day
    simp [date, ofString, Date.ofText_toText, Except.mapError]
  legible := fun day => ofString_legible day.toText

theorem optional_decode {given : Json} (notNull : given ≠ null) :
    codec.optional.decode given = (codec.decode given).map some := by
  unfold optional
  dsimp only
  split
  · contradiction
  · rfl

theorem optional_faithful (faithful : codec.Faithful) (present : codec.Present) : codec.optional.Faithful where
  decodes := by
    intro value
    cases value with
    | none => rfl
    | some value =>
      change codec.optional.decode (codec.encode value) = .ok (some value)
      rw [optional_decode (present value), faithful.decodes value, Except.map]
  legible := by
    intro value
    cases value with
    | none => exact legible_of_token rfl (by simp [Token.Legible])
    | some value => exact faithful.legible value

theorem decodeItems_encode (faithful : codec.Faithful) (values : List α) :
    decodeItems codec (values.map codec.encode) = .ok values := by
  induction values with
  | nil => rfl
  | cons value values ih =>
    rw [List.map_cons, decodeItems, faithful.decodes value, ih]
    rfl

theorem list_faithful (faithful : codec.Faithful) : codec.list.Faithful where
  decodes := decodeItems_encode faithful
  legible := by
    intro values
    refine (legible_array_iff _).mpr fun item member => ?_
    obtain ⟨value, _, rfl⟩ := List.mem_map.mp member
    exact faithful.legible value

theorem choice_faithful {all : List α} {name : α → String} (complete : ∀ value, value ∈ all)
    (distinct : (all.map name).Nodup) : (choice all name).Faithful where
  decodes := by
    intro value
    have found : (all.find? fun other => name other = name value) = some value :=
      Keyed.get?_of_mem distinct (complete value)
    simp [choice, ofString, decodeName, found]
  legible := fun value => ofString_legible (name value)

end Codec

namespace Fields

variable {ρ : Type}

def Faithful : {ρ : Type} → Fields ρ → Prop
  | _, nil => True
  | _, cons _ codec _ _ rest => codec.Faithful ∧ rest.Faithful

def named (members : List (String × Json)) : List (Option String × Json) :=
  members.map fun (name, value) => (some name, value)

theorem Told.cons_other {fields : Fields ρ} {name : String} (other : name ∉ fields.names)
    {members : List (Option String × Json)} {values : ρ} (told : fields.Told members values) (value : Json) :
    fields.Told ((some name, value) :: members) values := by
  induction fields with
  | nil => trivial
  | cons name' codec whenMissing whenShort rest ih =>
    obtain ⟨value', values⟩ := values
    rw [names, List.mem_cons, not_or] at other
    obtain ⟨first, others⟩ := told
    refine ⟨?_, ih other.2 others⟩
    have apart : (some name' == some name) = false := by simpa using Ne.symm other.1
    rwa [List.lookup_cons, apart]

theorem names_encode (fields : Fields ρ) (values : ρ) : (fields.encode values).map Prod.fst = fields.names := by
  induction fields with
  | nil => rfl
  | cons name codec whenMissing whenShort rest ih =>
    obtain ⟨value, values⟩ := values
    rw [encode, names, List.map_cons, ih values]

theorem told_encode {fields : Fields ρ} (faithful : fields.Faithful) (distinct : fields.names.Nodup) (values : ρ) :
    fields.Told (named (fields.encode values)) values := by
  induction fields with
  | nil => trivial
  | cons name codec whenMissing whenShort rest ih =>
    obtain ⟨value, values⟩ := values
    obtain ⟨decodes, others⟩ := faithful
    obtain ⟨fresh, distinct⟩ := List.nodup_cons.mp distinct
    have found : (named ((cons name codec whenMissing whenShort rest).encode (value, values))).lookup (some name) =
        some (codec.encode value) := List.lookup_cons_self
    refine ⟨?_, (ih others distinct values).cons_other fresh (codec.encode value)⟩
    rw [found]
    exact decodes.decodes value

theorem tells_encode {fields : Fields ρ} (faithful : fields.Faithful) (distinct : fields.names.Nodup) (values : ρ) :
    fields.Tells (named (fields.encode values)) values where
  named := by
    intro member there
    obtain ⟨_, _, rfl⟩ := List.mem_map.mp there
    exact Option.some_ne_none _
  once := by
    intro name _
    have names : (named (fields.encode values)).map Prod.fst = fields.names.map some := by
      rw [← fields.names_encode values, named, List.map_map, List.map_map]
      rfl
    rw [timesNamed, names]
    exact List.nodup_iff_count_le_one.mp (distinct.map fun _ _ => Option.some.inj) (some name)
  told := told_encode faithful distinct values

theorem legible_encode {fields : Fields ρ} (faithful : fields.Faithful) (values : ρ) :
    ∀ member ∈ fields.encode values, member.2.Legible := by
  induction fields with
  | nil => exact List.forall_mem_nil _
  | cons name codec whenMissing whenShort rest ih =>
    obtain ⟨value, values⟩ := values
    exact List.forall_mem_cons.mpr ⟨faithful.1.legible value, ih faithful.2 values⟩

end Fields

theorem Codec.record_faithful (name : String) {fields : Fields ρ} (faithful : fields.Faithful)
    (distinct : fields.names.Nodup) {pack : ρ → α} {unpack : α → ρ}
    (packs : ∀ value, pack (unpack value) = value) :
    (Codec.record name fields pack unpack).Faithful where
  decodes := by
    intro value
    have tells := Fields.tells_encode faithful distinct (unpack value)
    exact (Codec.record_decode_iff name fields pack unpack _ value).mpr ⟨unpack value, tells, packs value⟩
  legible := by
    intro value
    refine (legible_object_iff _).mpr fun member written => ?_
    obtain ⟨given, there, rfl⟩ := List.mem_map.mp written
    exact Fields.legible_encode faithful _ given there

end Json
end BookSearch
