import Mathlib.Data.Finset.Card
import BookSearch.Proofs.Filter.QueryMeaning
import BookSearch.Proofs.Page.Cut

/-!
A catalogue as a map from ISBNs to books, kept in the order in which the ISBNs first came. Everything that
can be asked of it is told by the list of books that were put in, however often an ISBN is repeated there.
-/
namespace BookSearch

def firstCome (history : List Book) : List String := (history.map Book.isbn).eraseDups

def lastWith (history : List Book) (isbn : String) : Option Book :=
  (history.filter fun book => book.isbn = isbn).getLast?

/-- What is left of the books: of each ISBN the last one. -/
def kept (history : List Book) : List Book := (firstCome history).filterMap (lastWith history)

def Store.after (given later : List Book) : Store := later.foldl Store.insert ⟨Catalogue.ofBooks given, none⟩

structure Store.Answers (store : Store) (history : List Book) : Prop where
  distinct : store.catalogue.books.Pairwise fun one other => one.isbn ≠ other.isbn
  order : store.catalogue.books.map Book.isbn = firstCome history
  stored : ∀ book ∈ store.catalogue.books, lastWith history book.isbn = some book
  size : store.catalogue.size = (history.map Book.isbn).toFinset.card
  get? : ∀ id, store.get? id = .ok (lastWith history id)
  detail : ∀ id, store.detail id =
    match lastWith history id with
    | some book => .ok book.toDetail
    | none => .error ⟨.notFound, "Book not found: " ++ id⟩
  find : ∀ (filter : Filter) (request : PageRequest), ∃ page, store.find filter request = .ok page ∧
    page.Shows (store.catalogue.books.filter fun book => filter.accepts book.toRecord) request

theorem eraseDups_concat_known {α : Type} [BEq α] [LawfulBEq α] {xs : List α} {x : α} (known : x ∈ xs) :
    (xs ++ [x]).eraseDups = xs.eraseDups := by
  simp [List.eraseDups_append, List.removeAll, known]

theorem eraseDups_concat_new {α : Type} [BEq α] [LawfulBEq α] {xs : List α} {x : α} (fresh : x ∉ xs) :
    (xs ++ [x]).eraseDups = xs.eraseDups ++ [x] := by
  simp [List.eraseDups_append, List.removeAll, List.eraseDups_cons, fresh]

theorem lastWith_concat_same (history : List Book) (book : Book) :
    lastWith (history ++ [book]) book.isbn = some book := by
  simp [lastWith]

theorem lastWith_concat_other (history : List Book) {book : Book} {isbn : String}
    (other : isbn ≠ book.isbn) : lastWith (history ++ [book]) isbn = lastWith history isbn := by
  simp [lastWith, Ne.symm other]

namespace Catalogue

structure Follows (catalogue : Catalogue) (history : List Book) : Prop where
  order : catalogue.books.map Book.isbn = firstCome history
  get? : ∀ id, catalogue.get? id = lastWith history id

theorem empty_follows : empty.Follows [] where
  order := rfl
  get? := fun _ => rfl

theorem books_insert (catalogue : Catalogue) (book : Book) :
    (catalogue.insert book).books = Keyed.put Book.isbn book catalogue.books := rfl

theorem isbns_insert {catalogue : Catalogue} {history : List Book}
    (order : catalogue.books.map Book.isbn = firstCome history) (book : Book) :
    (catalogue.insert book).books.map Book.isbn = firstCome (history ++ [book]) := by
  have present : book.isbn ∈ catalogue.books.map Book.isbn ↔ book.isbn ∈ history.map Book.isbn := by
    rw [order, firstCome, List.mem_eraseDups]
  rw [firstCome, List.map_append, List.map_singleton, books_insert]
  by_cases known : book.isbn ∈ history.map Book.isbn
  · rw [eraseDups_concat_known known, Keyed.keys_put_known Book.isbn book _ (present.mpr known), order,
      firstCome]
  · have fresh : book.isbn ∉ catalogue.books.map Book.isbn := fun member => known (present.mp member)
    rw [eraseDups_concat_new known, Keyed.put_new Book.isbn book _ fresh, List.map_append, order, firstCome,
      List.map_singleton]

theorem Follows.insert {catalogue : Catalogue} {history : List Book} (follows : catalogue.Follows history)
    (book : Book) : (catalogue.insert book).Follows (history ++ [book]) where
  order := isbns_insert follows.order book
  get? := by
    intro id
    by_cases same : id = book.isbn
    · subst same
      rw [get?_insert_same, lastWith_concat_same]
    · rw [get?_insert_other catalogue book id same, lastWith_concat_other history same, follows.get?]

theorem Follows.insertAll {catalogue : Catalogue} {history : List Book}
    (follows : catalogue.Follows history) (books : List Book) :
    (books.foldl Catalogue.insert catalogue).Follows (history ++ books) := by
  induction books generalizing catalogue history with
  | nil =>
    rw [List.append_nil]
    exact follows
  | cons book rest ih =>
    have step := ih (follows.insert book)
    rwa [List.append_assoc, List.singleton_append] at step

theorem ofBooks_follows (books : List Book) : (ofBooks books).Follows books := empty_follows.insertAll books

theorem isbns_differ (catalogue : Catalogue) :
    catalogue.books.Pairwise fun one other => one.isbn ≠ other.isbn :=
  List.pairwise_map.mp catalogue.distinct

theorem get?_of_stored (catalogue : Catalogue) {book : Book} (stored : book ∈ catalogue.books) :
    catalogue.get? book.isbn = some book :=
  Keyed.get?_of_mem catalogue.distinct stored

theorem books_ofBooks (books : List Book) : (ofBooks books).books = kept books := by
  have follows := ofBooks_follows books
  have found : ∀ book ∈ (ofBooks books).books, (lastWith books ∘ Book.isbn) book = some book := by
    intro book stored
    rw [Function.comp, ← follows.get?, get?_of_stored _ stored]
  rw [kept, ← follows.order, List.filterMap_map, List.filterMap_congr found, List.filterMap_some]

theorem size_eq_card {catalogue : Catalogue} {history : List Book} (follows : catalogue.Follows history) :
    catalogue.size = (history.map Book.isbn).toFinset.card := by
  have same : (catalogue.books.map Book.isbn).toFinset = (history.map Book.isbn).toFinset := by
    ext isbn
    rw [follows.order, firstCome, List.mem_toFinset, List.mem_toFinset, List.mem_eraseDups]
  rw [← same, List.toFinset_card_of_nodup catalogue.distinct, List.length_map, size]

end Catalogue

namespace Store

theorem insertAll_eq (store : Store) (books : List Book) :
    books.foldl insert store = { store with catalogue := books.foldl Catalogue.insert store.catalogue } := by
  induction books generalizing store with
  | nil => rfl
  | cons book rest ih => rw [List.foldl_cons, ih, List.foldl_cons, insert]

theorem after_eq (given later : List Book) : after given later = ⟨Catalogue.ofBooks (given ++ later), none⟩ := by
  rw [after, insertAll_eq, Catalogue.ofBooks, Catalogue.ofBooks, List.foldl_append]

theorem detail_of_found {store : Store} {id : String} {found : Option Book} :
    store.get? id = .ok found → store.detail id =
      match found with
      | some book => .ok book.toDetail
      | none => .error ⟨.notFound, "Book not found: " ++ id⟩ := by
  intro known
  have asked : store.records.get? id = .ok found := known
  rw [detail, RecordStore.detail, asked]
  cases found with
  | none => rfl
  | some book => rfl

/-- The books that were put in tell what a memory store holds, in which order, and what it answers. -/
theorem after_answers (given later : List Book) : (after given later).Answers (given ++ later) := by
  have follows := Catalogue.ofBooks_follows (given ++ later)
  have found : ∀ id, get? ⟨Catalogue.ofBooks (given ++ later), none⟩ id =
      .ok (lastWith (given ++ later) id) := by
    intro id
    rw [← follows.get?]
    rfl
  rw [after_eq]
  constructor
  · exact (Catalogue.ofBooks (given ++ later)).isbns_differ
  · exact follows.order
  · intro book stored
    rw [← follows.get?, Catalogue.get?_of_stored _ stored]
  · exact Catalogue.size_eq_card follows
  · exact found
  · intro id
    exact detail_of_found (found id)
  · intro filter request
    refine ⟨_, rfl, ?_⟩
    rw [matching_eq_filter]
    exact Page.cut_shows _ request

end Store
end BookSearch
