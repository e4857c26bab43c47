import BookSearch.Main
import BookSearch.Proofs.Filter.VerbatimSearch
import BookSearch.Proofs.Service.SearchAnswers
import BookSearch.Proofs.Catalogue.InsertionOrder
import BookSearch.Proofs.Query.CanonicalText
import BookSearch.Proofs.Binary64.WholeNumbers
import BookSearch.Proofs.Counter.Ranking
import BookSearch.Proofs.Popularity.Tally
import BookSearch.Proofs.Popularity.TopKeywords
import BookSearch.Proofs.Service.PopularityAccounts
import BookSearch.Proofs.Service.PopularityHidden
import BookSearch.Proofs.Service.SetAlgebra
import BookSearch.Proofs.CommandLine.Replay
import BookSearch.Proofs.Files.ConfigSafety
import BookSearch.Proofs.Text.Runs
import BookSearch.Proofs.Json.Tokens
import BookSearch.Proofs.Json.Values
import BookSearch.Proofs.Json.Printing
import BookSearch.Proofs.Text.Dates
import BookSearch.Proofs.Json.Codecs
import BookSearch.Proofs.Files.Texts
import BookSearch.Proofs.Json.Payloads
import BookSearch.Proofs.Files.ConfigSaved
import BookSearch.Proofs.Service.Listings
import BookSearch.Proofs.Service.KeywordLoop
import BookSearch.Proofs.Page.Partition
import BookSearch.Proofs.Counter.FullRanking
import BookSearch.Proofs.Service.PageSizes
import BookSearch.Proofs.CommandLine.Repetition
import BookSearch.Proofs.Counter.RankBounds
import BookSearch.Proofs.Filter.Satisfiability
import BookSearch.Proofs.Filter.LetterCase
import BookSearch.Proofs.Filter.Displayed
import BookSearch.Proofs.Popularity.FirstEntries
import BookSearch.Proofs.Popularity.DescendingCounts
import BookSearch.Proofs.Counter.History
import BookSearch.Proofs.Catalogue.BookObjects
