import BookSearch.Query

/-!
The answers a caller gets when a request cannot be served: what kind of failure it is, the text for the
user, and the status class that the kind belongs to.
-/
namespace BookSearch

inductive FailureKind where
  | invalidQuery
  | invalidPage
  | notFound
  | store
  | internal
  deriving DecidableEq, Repr

namespace FailureKind

def status : FailureKind → Nat
  | invalidQuery | invalidPage => 400
  | notFound => 404
  | store | internal => 500

def isClient (kind : FailureKind) : Bool := 400 ≤ kind.status && kind.status < 500

def heading : FailureKind → String
  | invalidQuery => "invalid query"
  | invalidPage => "invalid page"
  | notFound => "not found"
  | store => "store error"
  | internal => "internal error"

end FailureKind

structure Failure where
  kind : FailureKind
  message : String
  deriving DecidableEq, Repr

namespace Failure

def display (failure : Failure) : String := failure.kind.heading ++ ": " ++ failure.message

end Failure

namespace QueryError

/-- How a refused query is shown on its own, outside a request. -/
def display (refusal : QueryError) : String := "Invalid query: " ++ refusal.message

def toFailure (refusal : QueryError) : Failure := ⟨.invalidQuery, refusal.message⟩

end QueryError

end BookSearch
