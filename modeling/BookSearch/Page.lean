import BookSearch.Failure

/-!
Page requests, counted from one, and the cut of one page out of a list of matches.
-/
namespace BookSearch

inductive PageError where
  | number (given : UInt32)
  | size (given limit : UInt32)
  deriving DecidableEq, Repr

namespace PageError

def message : PageError → String
  | number given => "page must be at least 1, got " ++ toString given.toNat
  | size given limit =>
    "size must be between 1 and " ++ toString limit.toNat ++ ", got " ++ toString given.toNat

def toFailure (refusal : PageError) : Failure := ⟨.invalidPage, refusal.message⟩

end PageError

structure PageRequest where
  number : UInt32
  size : UInt32
  number_pos : 1 ≤ number
  size_pos : 1 ≤ size
  deriving DecidableEq, Repr

namespace PageRequest

/-- The number is looked at before the size. -/
def of? (number size limit : UInt32) : Except PageError PageRequest :=
  if number_pos : 1 ≤ number then
    if size_fits : 1 ≤ size ∧ size ≤ limit then .ok ⟨number, size, number_pos, size_fits.1⟩
    else .error (.size size limit)
  else .error (.number number)

def offset (request : PageRequest) : Nat := (request.number.toNat - 1) * request.size.toNat

end PageRequest

/-- The totals are over all matches, whichever page was cut. -/
structure Page (α : Type) where
  items : List α
  totalPages : UInt32
  totalElements : UInt64
  deriving DecidableEq, Repr

namespace Page

def cut (found : List α) (request : PageRequest) : Page α where
  items := (found.drop request.offset).take request.size.toNat
  totalPages := UInt32.ofNat ((found.length + request.size.toNat - 1) / request.size.toNat)
  totalElements := UInt64.ofNat found.length

def map (f : α → β) (page : Page α) : Page β := ⟨page.items.map f, page.totalPages, page.totalElements⟩

end Page
end BookSearch
