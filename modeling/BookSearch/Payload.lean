import BookSearch.Json.Record
import BookSearch.Popularity
import BookSearch.Preferences
import BookSearch.Service

/-!
The JSON forms of everything that is stored in files or shown to users.
-/
namespace BookSearch

open Json (Codec Fields)

namespace Field

def codec : Codec Field := Codec.choice all name

end Field

namespace Strategy

def codec : Codec Strategy := Codec.choice all name

end Strategy

namespace Book

def codec : Codec Book :=
  Codec.record "Book"
    (.required "isbn" .text <| .required "title" .text <| .omissible "subtitle" .text <|
      .required "author" .text <| .omissible "publisher" .text <|
      .omissible "publishedDate" .date <| .omissible "image" .text .nil)
    (fun (isbn, title, subtitle, author, publisher, publishedDate, image, ()) =>
      { isbn, title, subtitle, author, publisher, publishedDate, image })
    (fun book =>
      (book.isbn, book.title, book.subtitle, book.author, book.publisher, book.publishedDate,
        book.image, ()))

def catalogueCodec : Codec (List Book) := codec.list

end Book

namespace BookSummary

def codec : Codec BookSummary :=
  Codec.record "BookSummary"
    (.required "id" .text <| .required "title" .text <| .optional "subtitle" .text <|
      .optional "image" .text <| .required "author" .text <| .required "isbn" .text <|
      .optional "published" .date .nil)
    (fun (id, title, subtitle, image, author, isbn, published, ()) =>
      { id, title, subtitle, image, author, isbn, published })
    (fun book =>
      (book.id, book.title, book.subtitle, book.image, book.author, book.isbn, book.published, ()))

end BookSummary

namespace BookDetail

def codec : Codec BookDetail :=
  Codec.record "BookDetail"
    (.required "id" .text <| .required "title" .text <| .optional "subtitle" .text <|
      .optional "image" .text <| .required "author" .text <| .required "isbn" .text <|
      .optional "publisher" .text <| .optional "published" .date .nil)
    (fun (id, title, subtitle, image, author, isbn, publisher, published, ()) =>
      { id, title, subtitle, image, author, isbn, publisher, published })
    (fun book =>
      (book.id, book.title, book.subtitle, book.image, book.author, book.isbn, book.publisher,
        book.published, ()))

end BookDetail

namespace PageInfo

def codec : Codec PageInfo :=
  Codec.record "PageInfo"
    (.required "currentPage" .word32 <| .required "pageSize" .word32 <|
      .required "totalPages" .word32 <| .required "totalElements" .word64 .nil)
    (fun (currentPage, pageSize, totalPages, totalElements, ()) =>
      { currentPage, pageSize, totalPages, totalElements })
    (fun info => (info.currentPage, info.pageSize, info.totalPages, info.totalElements, ()))

end PageInfo

namespace SearchMetadata

def codec : Codec SearchMetadata :=
  Codec.record "SearchMetadata"
    (.required "executionTime" .word64 <| .required "strategy" Strategy.codec .nil)
    (fun (executionTime, strategy, ()) => { executionTime, strategy })
    (fun data => (data.executionTime, data.strategy, ()))

end SearchMetadata

namespace SearchResponse

def codec : Codec SearchResponse :=
  Codec.record "SearchResponse"
    (.required "searchQuery" .text <| .required "pageInfo" PageInfo.codec <|
      .required "books" BookSummary.codec.list <|
      .required "searchMetadata" SearchMetadata.codec .nil)
    (fun (searchQuery, pageInfo, books, searchMetadata, ()) =>
      { searchQuery, pageInfo, books, searchMetadata })
    (fun response =>
      (response.searchQuery, response.pageInfo, response.books, response.searchMetadata, ()))

end SearchResponse

namespace Keyword

def codec : Codec Keyword :=
  Codec.record "SearchKeyword"
    (.required "keyword" .text <| .required "count" .word64 .nil)
    (fun (keyword, count, ()) => { keyword, count })
    (fun entry => (entry.keyword, entry.count, ()))

end Keyword

namespace SearchPreferences

def codec : Codec SearchPreferences :=
  Codec.record "SearchPreferences"
    (.required "default_page_size" .word32 <| .required "max_page_size" .word32 .nil)
    (fun (defaultPageSize, maxPageSize, ()) => { defaultPageSize, maxPageSize })
    (fun preferences => (preferences.defaultPageSize, preferences.maxPageSize, ()))

end SearchPreferences

namespace PopularityPreferences

def codec : Codec PopularityPreferences :=
  Codec.record "PopularityPreferences"
    (.required "enabled" .flag <| .required "counter_key" .text <| .required "top_k" .size <|
      .required "read_timeout_ms" .word64 .nil)
    (fun (enabled, counterKey, topK, readTimeoutMs, ()) =>
      { enabled, counterKey, topK, readTimeoutMs })
    (fun preferences =>
      (preferences.enabled, preferences.counterKey, preferences.topK, preferences.readTimeoutMs, ()))

end PopularityPreferences

namespace Config

def codec : Codec Config :=
  Codec.record "BookshelfConfig"
    (.required "version" .text <| .required "search" SearchPreferences.codec <|
      .required "popularity" PopularityPreferences.codec .nil)
    (fun (version, search, popularity, ()) => { version, search, popularity })
    (fun config => (config.version, config.search, config.popularity, ()))

end Config

namespace Failure

def body (failure : Failure) : Json :=
  .ofMembers [("status", .ofString "error"), ("message", .ofString failure.message)]

end Failure
end BookSearch
