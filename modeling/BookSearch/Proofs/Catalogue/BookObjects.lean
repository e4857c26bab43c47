import BookSearch.Payload
import BookSearch.Proofs.Json.Codecs

/-!
Books from the objects of a catalogue file. An object is read by the names of its members: their order, the
members with other names and the way in which the text spells it all do not count.
-/
namespace BookSearch

open Json

section Members

variable {α : Type} {form : α → Json → Prop} {codec : Codec α} {name : String}
  {members : List (Option String × Json)}

def IsText (text : String) (given : Json) : Prop := given = ofString text

def IsDay (day : Date) (given : Json) : Prop := ∃ text, given = ofString text ∧ Date.ofText text = .ok day

/-- What may be absent is given in one of its forms. Where it is absent, its name stands for null or for nothing. -/
def GivenIfAny (form : α → Json → Prop) (name : String) (members : List (Option String × Json)) : Option α → Prop
  | some value => ∃ given, (some name, given) ∈ members ∧ form value given
  | none => ∀ given, (some name, given) ∈ members → given = null

/-- The codec reads a value from its forms and from nothing else, and null is none of them. -/
structure ReadsForms (codec : Codec α) (form : α → Json → Prop) : Prop where
  decode_iff : ∀ given value, codec.decode given = .ok value ↔ form value given
  notNull : ∀ value, ¬ form value null

theorem text_readsForms : ReadsForms Codec.text IsText where
  decode_iff := by
    intro given text
    cases given with
    | string spelt => cases spelt <;> simp [Codec.text, IsText, ofString]
    | _ => simp [Codec.text, IsText, ofString]
  notNull := fun _ => Json.noConfusion

theorem date_readsForms : ReadsForms Codec.date IsDay where
  decode_iff := by
    intro given day
    cases given with
    | string spelt => cases spelt with
      | none => simp [Codec.date, IsDay, ofString]
      | some text => cases read : Date.ofText text <;> simp [Codec.date, IsDay, ofString, read, Except.mapError]
    | _ => simp [Codec.date, IsDay, ofString]
  notNull := by
    rintro day ⟨text, null, _⟩
    exact Json.noConfusion null

theorem optional_decode_iff (reads : ReadsForms codec form) (given : Json) (value : Option α) :
    codec.optional.decode given = .ok value ↔ value.elim (given = null) fun value => form value given := by
  by_cases isNull : given = null
  · subst isNull
    cases value <;> simp [Codec.optional, reads.notNull]
  · rw [Codec.optional_decode isNull]
    cases value with
    | none => cases codec.decode given <;> simp [Except.map, isNull]
    | some value =>
      rw [Option.elim_some, ← reads.decode_iff]
      cases codec.decode given <;> simp [Except.map]

theorem told_text_iff (once : timesNamed name members ≤ 1) (text : String) :
    (members.lookup (some name)).elim (none = some text) (fun given => Codec.text.decode given = .ok text) ↔
      (some name, ofString text) ∈ members := by
  simp only [← lookup_eq_some_iff once, text_readsForms.decode_iff, IsText]
  cases members.lookup (some name) <;> simp

theorem told_optional_iff (reads : ReadsForms codec form) (once : timesNamed name members ≤ 1) (value : Option α) :
    (members.lookup (some name)).elim (some none = some value)
        (fun given => codec.optional.decode given = .ok value) ↔
      GivenIfAny form name members value := by
  cases value <;> simp only [GivenIfAny, ← lookup_eq_some_iff once, optional_decode_iff reads] <;>
    cases members.lookup (some name) <;> simp

end Members

namespace Book

def memberNames : List String :=
  ["isbn", "title", "subtitle", "author", "publisher", "publishedDate", "image"]

/-- The members give the book, whatever else they give: each part under its name, and no name twice. -/
structure GivenBy (book : Book) (members : List (Option String × Json)) : Prop where
  /-- A name with half of a surrogate pair in it is no name, known or not. -/
  named : ∀ member ∈ members, member.1 ≠ none
  once : ∀ name ∈ memberNames, timesNamed name members ≤ 1
  isbn : (some "isbn", ofString book.isbn) ∈ members
  title : (some "title", ofString book.title) ∈ members
  subtitle : GivenIfAny IsText "subtitle" members book.subtitle
  author : (some "author", ofString book.author) ∈ members
  publisher : GivenIfAny IsText "publisher" members book.publisher
  publishedDate : GivenIfAny IsDay "publishedDate" members book.publishedDate
  image : GivenIfAny IsText "image" members book.image

theorem decode_object_iff (members : List (Option String × Json)) (book : Book) :
    codec.decode (object members) = .ok book ↔ book.GivenBy members := by
  -- where no known name is given twice, each field is told by its own members alone
  have parts := fun once : ∀ name ∈ memberNames, timesNamed name members ≤ 1 =>
    (told_text_iff (once "isbn" (by decide)) book.isbn).and <|
    (told_text_iff (once "title" (by decide)) book.title).and <|
    (told_optional_iff text_readsForms (once "subtitle" (by decide)) book.subtitle).and <|
    (told_text_iff (once "author" (by decide)) book.author).and <|
    (told_optional_iff text_readsForms (once "publisher" (by decide)) book.publisher).and <|
    (told_optional_iff date_readsForms (once "publishedDate" (by decide)) book.publishedDate).and <|
    (told_optional_iff text_readsForms (once "image" (by decide)) book.image).and Iff.rfl (b := True)
  rw [codec, Codec.record_decode_iff]
  constructor
  · rintro ⟨⟨_, _, _, _, _, _, _, _⟩, ⟨named, once, told⟩, rfl⟩
    obtain ⟨isbn, title, subtitle, author, publisher, publishedDate, image, _⟩ := (parts once).mp told
    exact ⟨named, once, isbn, title, subtitle, author, publisher, publishedDate, image⟩
  · rintro ⟨named, once, isbn, title, subtitle, author, publisher, publishedDate, image⟩
    have told := (parts once).mpr ⟨isbn, title, subtitle, author, publisher, publishedDate, image, trivial⟩
    exact ⟨(book.isbn, book.title, book.subtitle, book.author, book.publisher, book.publishedDate, book.image, ()),
      ⟨named, once, told⟩, rfl⟩

theorem refused_of_given_by_none {members : List (Option String × Json)} {text : String}
    (spelt : (object members).SpeltBy text) (none : ∀ book : Book, ¬ book.GivenBy members) :
    ∃ fault, codec.read text = .error fault := by
  cases read : codec.read text with
  | error fault => exact ⟨fault, rfl⟩
  | ok book => exact absurd ((decode_object_iff members book).mp ((Codec.read_ok_iff spelt book).mp read)) (none book)

/-- An object is read as a book just if its members give the book, in whatever way the text spells it. It is
refused when a member that no book is without is missing, and when a known member is repeated. -/
theorem object_read_by_name (members : List (Option String × Json)) (text : String)
    (spelt : (object members).SpeltBy text) :
    (∀ book, codec.read text = .ok book ↔ book.GivenBy members) ∧
      (∀ name ∈ ["isbn", "title", "author"], (∀ given, (some name, given) ∉ members) →
        ∃ fault, codec.read text = .error fault) ∧
      ∀ name ∈ memberNames, 1 < timesNamed name members → ∃ fault, codec.read text = .error fault := by
  refine ⟨fun book => (Codec.read_ok_iff spelt book).trans (decode_object_iff members book), ?_, ?_⟩
  · intro name required absent
    refine refused_of_given_by_none spelt fun book given => ?_
    simp only [List.mem_cons, List.not_mem_nil, or_false] at required
    rcases required with rfl | rfl | rfl
    · exact absent _ given.isbn
    · exact absent _ given.title
    · exact absent _ given.author
  · intro name known repeated
    refine refused_of_given_by_none spelt fun book given => ?_
    exact absurd (given.once name known) (Nat.not_le_of_lt repeated)

def scatteredMembers : List (Option String × Json) :=
  [(some "note", .array [.number ⟨false, ['1'], [], some 2⟩, .string none]), (some "author", ofString "A📚"),
    (some "isbn", ofString "1"), (some "image", .null), (some "title", ofString "/"),
    (some "publishedDate", ofString "2024-02-29")]

def scatteredText : String :=
  "\n\x7b\"note\" :[1E+02,\"\\uDC00\"],\"author\":\"\\u0041\\uD83D\\uDCDA\",\"\\u0069sbn\":\"1\"," ++
    "\"image\":null,\"title\":\"\\/\",\"publishedDate\":\"2024-02-29\"\x7d"

def scatteredBook : Book :=
  { isbn := "1", title := "/", author := "A📚", publishedDate := some ⟨2024, 2, 29, by decide⟩ }

theorem scattered_given : scatteredBook.GivenBy scatteredMembers where
  named := by decide
  once := by decide
  isbn := by simp [scatteredMembers, scatteredBook]
  title := by simp [scatteredMembers, scatteredBook]
  subtitle := by simp [scatteredMembers, scatteredBook, GivenIfAny]
  author := by simp [scatteredMembers, scatteredBook]
  publisher := by simp [scatteredMembers, scatteredBook, GivenIfAny]
  publishedDate := ⟨ofString "2024-02-29", by simp [scatteredMembers], "2024-02-29", rfl, rfl⟩
  image := by simp [scatteredMembers, scatteredBook, GivenIfAny]

theorem scattered_spelt : (object scatteredMembers).SpeltBy scatteredText := by
  have number : SpellsNumber ⟨false, ['1'], [], some 2⟩ ['1', 'E', '+', '0', '2'] := by
    have literal : Number.Literal ⟨false, ['1'], [], some 2⟩ :=
      ⟨.inr ⟨List.cons_ne_nil _ _, by decide, List.forall_mem_singleton.mpr (by decide)⟩, List.forall_mem_nil _⟩
    have run : DigitRun ['0', '2'] :=
      ⟨List.cons_ne_nil _ _, List.forall_mem_cons.mpr ⟨by decide, List.forall_mem_singleton.mpr (by decide)⟩⟩
    exact .spelt literal (.plus (.inr rfl) run)
  have low : SpellsUnit 0xdc00 ['D', 'C', '0', '0'] := .of_scanned (by decide)
  have half : SpellsHalf [] ['\\', 'u', 'D', 'C', '0', '0'] := .low (by decide) low
  have capital : SpellsChar 'A' ['\\', 'u', '0', '0', '4', '1'] := .unit (.of_scanned (by decide))
  have first : SpellsUnit 0xd83d ['D', '8', '3', 'D'] := .of_scanned (by decide)
  have second : SpellsUnit 0xdcda ['D', 'C', 'D', 'A'] := .of_scanned (by decide)
  have books : SpellsChar '📚' ['\\', 'u', 'D', '8', '3', 'D', '\\', 'u', 'D', 'C', 'D', 'A'] :=
    .pair (by decide) (by decide) first second (by decide)
  have small : SpellsChar 'i' ['\\', 'u', '0', '0', '6', '9'] := .unit (.of_scanned (by decide))
  have slash : SpellsChar '/' ['\\', '/'] := .letter (by decide)
  have plain : ∀ text : String, SpellsString (some text.toList) (text.toList.flatMap escape) :=
    fun text => escaped_spelt text.toList
  have layout : Token.Layout Token.Spelt _ _ :=
    .blank (c := '\n') (by decide) <| .symbol .openObject (by simp) <|
    .quoted (plain "note") <| .blank (c := ' ') (by decide) <| .symbol .colon (by simp) <|
      .symbol .openArray (by simp) <| .token (.number number) (fun _ _ => endsNumber_cons (by decide) _) <|
      .symbol .comma (by simp) <| .quoted (.half half .done) <| .symbol .closeArray (by simp) <|
      .symbol .comma (by simp) <|
    .quoted (plain "author") <| .symbol .colon (by simp) <| .quoted (.char capital (.char books .done)) <|
      .symbol .comma (by simp) <|
    .quoted (.char small (plain "sbn")) <| .symbol .colon (by simp) <| .quoted (plain "1") <|
      .symbol .comma (by simp) <|
    .quoted (plain "image") <| .symbol .colon (by simp) <| .symbol .null (by simp) <| .symbol .comma (by simp) <|
    .quoted (plain "title") <| .symbol .colon (by simp) <| .quoted (.char slash .done) <|
      .symbol .comma (by simp) <|
    .quoted (plain "publishedDate") <| .symbol .colon (by simp) <| .quoted (plain "2024-02-29") <|
    .symbol .closeObject (by simp) .done
  exact (congr (congrArg (Token.Layout Token.Spelt) (by decide +kernel)) (by decide +kernel)).mpr layout

def untitledMembers : List (Option String × Json) := [(some "isbn", ofString "1"), (some "author", ofString "")]

def repeatedMembers : List (Option String × Json) :=
  [(some "title", ofString "/"), (some "image", .null), (some "isbn", ofString "1"), (some "author", ofString ""),
    (some "image", .null)]

theorem broken_legible : (object untitledMembers).Legible ∧ (object repeatedMembers).Legible := by
  have null : Legible .null := Codec.legible_of_token rfl (by simp [Token.Legible])
  simp [legible_object_iff, untitledMembers, repeatedMembers, Codec.ofString_legible, null]

theorem scattered_read :
    (object scatteredMembers).SpeltBy scatteredText ∧ codec.read scatteredText = .ok scatteredBook ∧
      (∀ given, (some "title", given) ∉ untitledMembers) ∧
      (∃ fault, codec.read (object untitledMembers).toCompactText = .error fault) ∧
      1 < timesNamed "image" repeatedMembers ∧
      ∃ fault, codec.read (object repeatedMembers).toCompactText = .error fault := by
  have reads := (object_read_by_name _ _ scattered_spelt).1 scatteredBook
  have missing := (object_read_by_name _ _ broken_legible.1.spelt_compact).2.1 "title" (by decide)
  have repeated := (object_read_by_name _ _ broken_legible.2.spelt_compact).2.2 "image" (by decide)
  have absent : ∀ given, (some "title", given) ∉ untitledMembers := by simp [untitledMembers]
  have twice : 1 < timesNamed "image" repeatedMembers := by decide
  exact ⟨scattered_spelt, reads.mpr scattered_given, absent, missing absent, twice, repeated twice⟩

end Book
end BookSearch
