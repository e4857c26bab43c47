import BookSearch.Book
import BookSearch.Filter
import BookSearch.Keyed
import BookSearch.Page

/-!
The books of a catalogue in the order in which their ISBNs first came, looked up by ISBN or by filter,
and the store that answers for them or is out of order as a whole. Whatever else answers the same questions
may stand in its place.
-/
namespace BookSearch

structure Catalogue where
  books : List Book
  distinct : (books.map Book.isbn).Nodup
  deriving DecidableEq

namespace Catalogue

def empty : Catalogue := ⟨[], List.nodup_nil⟩

/-- A book with an ISBN that is already there replaces the other one in its place. -/
def insert (catalogue : Catalogue) (book : Book) : Catalogue :=
  ⟨Keyed.put Book.isbn book catalogue.books, Keyed.nodup_keys_put Book.isbn book _ catalogue.distinct⟩

def ofBooks (books : List Book) : Catalogue := books.foldl insert empty

def size (catalogue : Catalogue) : Nat := catalogue.books.length

def get? (catalogue : Catalogue) (id : String) : Option Book :=
  Keyed.get? Book.isbn id catalogue.books

theorem get?_insert_same (catalogue : Catalogue) (book : Book) :
    (catalogue.insert book).get? book.isbn = some book :=
  Keyed.get?_put_same Book.isbn book catalogue.books

theorem get?_insert_other (catalogue : Catalogue) (book : Book) (id : String) (other : id ≠ book.isbn) :
    (catalogue.insert book).get? id = catalogue.get? id :=
  Keyed.get?_put_other Book.isbn book catalogue.books id other

/-- A filter that is never met is not tried on any book. -/
def matching (catalogue : Catalogue) (filter : Filter) : List Book :=
  if filter.isNever then []
  else catalogue.books.filter fun book => filter.accepts book.toRecord

end Catalogue

structure RecordStore where
  find : Filter → PageRequest → Except Failure (Page Book)
  get? : String → Except Failure (Option Book)

def RecordStore.detail (records : RecordStore) (id : String) : Except Failure BookDetail :=
  match records.get? id with
  | .error failure => .error failure
  | .ok none => .error ⟨.notFound, "Book not found: " ++ id⟩
  | .ok (some book) => .ok book.toDetail

/-- While there is an outage every look-up fails with its text. -/
structure Store where
  catalogue : Catalogue
  outage : Option String := none
  deriving DecidableEq

namespace Store

def whenUp (store : Store) (answer : Catalogue → Except Failure α) : Except Failure α :=
  match store.outage with
  | some text => .error ⟨.store, text⟩
  | none => answer store.catalogue

def find (store : Store) (filter : Filter) (request : PageRequest) : Except Failure (Page Book) :=
  store.whenUp fun catalogue => .ok (Page.cut (catalogue.matching filter) request)

def get? (store : Store) (id : String) : Except Failure (Option Book) :=
  store.whenUp fun catalogue => .ok (catalogue.get? id)

def records (store : Store) : RecordStore := ⟨store.find, store.get?⟩

def detail (store : Store) (id : String) : Except Failure BookDetail := store.records.detail id

def insert (store : Store) (book : Book) : Store :=
  { store with catalogue := store.catalogue.insert book }

end Store
end BookSearch
