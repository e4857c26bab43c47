import BookSearch.Failure

/-!
The preferences that a configuration holds, their defaults, and the check of the page sizes.
-/
namespace BookSearch

structure SearchPreferences where
  defaultPageSize : UInt32
  maxPageSize : UInt32
  deriving DecidableEq, Repr

structure PopularityPreferences where
  enabled : Bool
  counterKey : String
  topK : UInt64
  readTimeoutMs : UInt64
  deriving DecidableEq, Repr

structure Config where
  version : String
  search : SearchPreferences
  popularity : PopularityPreferences
  deriving DecidableEq, Repr

inductive PreferenceError where
  | maxPageSize (given : UInt32)
  | defaultPageSize (given limit : UInt32)
  deriving DecidableEq, Repr

namespace SearchPreferences

def pageSizeLimit : UInt32 := 100

/-- The largest size is checked first, since the default is checked against it. -/
def validate (preferences : SearchPreferences) : Except PreferenceError Unit :=
  if preferences.maxPageSize < 1 || pageSizeLimit < preferences.maxPageSize then
    .error (.maxPageSize preferences.maxPageSize)
  else if preferences.defaultPageSize < 1 || preferences.maxPageSize < preferences.defaultPageSize then
    .error (.defaultPageSize preferences.defaultPageSize preferences.maxPageSize)
  else .ok ()

end SearchPreferences

namespace PreferenceError

def message : PreferenceError → String
  | maxPageSize given =>
    "max_page_size must be between 1 and " ++ toString SearchPreferences.pageSizeLimit.toNat ++
      ", got " ++ toString given.toNat
  | defaultPageSize given limit =>
    "default_page_size must be between 1 and " ++ toString limit.toNat ++ ", got " ++
      toString given.toNat

def toFailure (fault : PreferenceError) : Failure := ⟨.internal, fault.message⟩

end PreferenceError

namespace Config

def currentVersion : String := "1.0.0"

def standard : Config where
  version := currentVersion
  search := { defaultPageSize := 20, maxPageSize := 100 }
  popularity :=
    { enabled := true, counterKey := "search:query:popular", topK := 10, readTimeoutMs := 500 }

end Config
end BookSearch
