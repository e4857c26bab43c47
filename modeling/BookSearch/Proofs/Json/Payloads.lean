import BookSearch.Files.Documents
import BookSearch.Proofs.Files.Texts
import BookSearch.Proofs.Json.Codecs

/-!
The codecs of everything that is stored in files or shown to users are faithful, so each of these values
reads back from what is written for it, and a catalogue file with any list of books loads as the catalogue
of these books.
-/
namespace BookSearch

open Json Json.Codec

theorem text_present : Codec.text.Present := fun _ => Json.noConfusion

theorem date_present : Codec.date.Present := fun _ => Json.noConfusion

theorem optionalText_faithful : Codec.text.optional.Faithful := optional_faithful text_faithful text_present

theorem optionalDate_faithful : Codec.date.optional.Faithful := optional_faithful date_faithful date_present

theorem Strategy.codec_faithful : Strategy.codec.Faithful :=
  choice_faithful (by intro value; cases value <;> decide) (by decide)

theorem Book.codec_faithful : Book.codec.Faithful := by
  refine record_faithful "Book" ?_ (by decide) fun _ => rfl
  exact ⟨text_faithful, text_faithful, optionalText_faithful, text_faithful, optionalText_faithful,
    optionalDate_faithful, optionalText_faithful, trivial⟩

theorem BookSummary.codec_faithful : BookSummary.codec.Faithful := by
  refine record_faithful "BookSummary" ?_ (by decide) fun _ => rfl
  exact ⟨text_faithful, text_faithful, optionalText_faithful, optionalText_faithful, text_faithful,
    text_faithful, optionalDate_faithful, trivial⟩

theorem BookDetail.codec_faithful : BookDetail.codec.Faithful := by
  refine record_faithful "BookDetail" ?_ (by decide) fun _ => rfl
  exact ⟨text_faithful, text_faithful, optionalText_faithful, optionalText_faithful, text_faithful,
    text_faithful, optionalText_faithful, optionalDate_faithful, trivial⟩

theorem PageInfo.codec_faithful : PageInfo.codec.Faithful := by
  refine record_faithful "PageInfo" ?_ (by decide) fun _ => rfl
  exact ⟨word32_faithful, word32_faithful, word32_faithful, word_faithful "u64", trivial⟩

theorem SearchMetadata.codec_faithful : SearchMetadata.codec.Faithful := by
  refine record_faithful "SearchMetadata" ?_ (by decide) fun _ => rfl
  exact ⟨word_faithful "u64", Strategy.codec_faithful, trivial⟩

theorem SearchResponse.codec_faithful : SearchResponse.codec.Faithful := by
  refine record_faithful "SearchResponse" ?_ (by decide) fun _ => rfl
  exact ⟨text_faithful, PageInfo.codec_faithful, list_faithful BookSummary.codec_faithful,
    SearchMetadata.codec_faithful, trivial⟩

theorem Keyword.codec_faithful : Keyword.codec.Faithful := by
  refine record_faithful "SearchKeyword" ?_ (by decide) fun _ => rfl
  exact ⟨text_faithful, word_faithful "u64", trivial⟩

theorem SearchPreferences.codec_faithful : SearchPreferences.codec.Faithful := by
  refine record_faithful "SearchPreferences" ?_ (by decide) fun _ => rfl
  exact ⟨word32_faithful, word32_faithful, trivial⟩

theorem PopularityPreferences.codec_faithful : PopularityPreferences.codec.Faithful := by
  refine record_faithful "PopularityPreferences" ?_ (by decide) fun _ => rfl
  exact ⟨flag_faithful, text_faithful, word_faithful "usize", word_faithful "u64", trivial⟩

theorem Config.codec_faithful : Config.codec.Faithful := by
  refine record_faithful "BookshelfConfig" ?_ (by decide) fun _ => rfl
  exact ⟨text_faithful, SearchPreferences.codec_faithful, PopularityPreferences.codec_faithful, trivial⟩

theorem Book.catalogueCodec_faithful : Book.catalogueCodec.Faithful := list_faithful Book.codec_faithful

namespace Catalogue

theorem load_spelt {files : FileSystem} {file : Path} {books : List Book} {text : String}
    (spells : Book.catalogueCodec.Spells books text) (holds : files.Holds file text) :
    load files file = .ok (ofBooks books) := by
  rw [load, FileSystem.readText_of_holds holds]
  simp only [Book.catalogueCodec_faithful.read_spelt spells]

end Catalogue

/-- Decoding gives back what was encoded, for every payload, and for the books of a catalogue file. -/
theorem payloads_read_back :
    Book.codec.ReadsBack ∧ BookSummary.codec.ReadsBack ∧ BookDetail.codec.ReadsBack ∧
      SearchResponse.codec.ReadsBack ∧ PageInfo.codec.ReadsBack ∧ SearchMetadata.codec.ReadsBack ∧
      Keyword.codec.ReadsBack ∧ Config.codec.ReadsBack ∧
      (∀ books, Book.catalogueCodec.Spells books (Book.catalogueCodec.write books) ∧
        Book.catalogueCodec.Spells books (Book.catalogueCodec.writeIndented books)) ∧
      ∀ (files : FileSystem) (file : Path) (books : List Book) (text : String),
        Book.catalogueCodec.Spells books text → files.Holds file text →
          Catalogue.load files file = .ok (Catalogue.ofBooks books) := by
  refine ⟨Book.codec_faithful.readsBack, BookSummary.codec_faithful.readsBack,
    BookDetail.codec_faithful.readsBack, SearchResponse.codec_faithful.readsBack,
    PageInfo.codec_faithful.readsBack, SearchMetadata.codec_faithful.readsBack,
    Keyword.codec_faithful.readsBack, Config.codec_faithful.readsBack, ?_, ?_⟩
  · intro books
    exact ⟨Book.catalogueCodec_faithful.spells_write books, Book.catalogueCodec_faithful.spells_writeIndented books⟩
  · intro files file books text spells holds
    exact Catalogue.load_spelt spells holds

/-- An isbn twice, the days at both ends, and texts with quotes, a backslash, controls and letters outside of
ASCII. -/
def oddBooks : List Book :=
  [{ isbn := "", title := "\"Σ\\σ/\x00", author := "\t\x7f", publishedDate := Date.of? Date.minYear 1 1 },
    { isbn := "a", title := "📚", author := "", publishedDate := Date.of? Date.maxYear 12 31, image := some "null" },
    { isbn := "", title := "\\u0000", subtitle := some "", author := "\n", publisher := some "\r" }]

def oddFiles : FileSystem :=
  FileSystem.empty.put ["books.json"] (.file (Book.catalogueCodec.writeIndented oddBooks).toUTF8)

theorem odd_books_load :
    Book.catalogueCodec.Spells oddBooks (Book.catalogueCodec.writeIndented oddBooks) ∧
      oddFiles.Holds ⟨"books.json"⟩ (Book.catalogueCodec.writeIndented oddBooks) ∧
      Catalogue.load oddFiles ⟨"books.json"⟩ = .ok (Catalogue.ofBooks oddBooks) := by
  obtain ⟨-, -, -, -, -, -, -, -, spells, loads⟩ := payloads_read_back
  have located : FileSystem.empty.locate ⟨"books.json"⟩ = .ok ["books.json"] := by decide
  have holds := FileSystem.holds_put located (by decide) (Book.catalogueCodec.writeIndented oddBooks)
  exact ⟨(spells oddBooks).2, holds, loads _ _ _ _ (spells oddBooks).2 holds⟩

end BookSearch
