import BookSearch.Date
import BookSearch.Filter

/-!
Catalogue entries, and the two shapes in which they are shown. The ISBN is the identifier of a book.
-/
namespace BookSearch

structure Book where
  isbn : String
  title : String
  subtitle : Option String := none
  author : String
  publisher : Option String := none
  publishedDate : Option Date := none
  image : Option String := none
  deriving DecidableEq, Repr

structure BookSummary where
  id : String
  title : String
  subtitle : Option String
  image : Option String
  author : String
  isbn : String
  published : Option Date
  deriving DecidableEq, Repr

structure BookDetail where
  id : String
  title : String
  subtitle : Option String
  image : Option String
  author : String
  isbn : String
  publisher : Option String
  published : Option Date
  deriving DecidableEq, Repr

namespace Book

def id (book : Book) : String := book.isbn

def toSummary (book : Book) : BookSummary where
  id := book.isbn
  title := book.title
  subtitle := book.subtitle
  image := book.image
  author := book.author
  isbn := book.isbn
  published := book.publishedDate

def toDetail (book : Book) : BookDetail where
  id := book.isbn
  title := book.title
  subtitle := book.subtitle
  image := book.image
  author := book.author
  isbn := book.isbn
  publisher := book.publisher
  published := book.publishedDate

def toRecord (book : Book) : Record
  | .isbn => some book.isbn
  | .title => some book.title
  | .subtitle => book.subtitle
  | .author => some book.author
  | .publisher => book.publisher

end Book
end BookSearch
