import BookSearch.Counter
import BookSearch.Text.Basic

/-!
How often terms were searched for. Recording a term adds one to it on a counter, and the ranking reads
the counter back; whatever the counter does, neither of them fails.
-/
namespace BookSearch

inductive Reading where
  | answered (entries : List Entry)
  | failed
  | late
  deriving DecidableEq, Repr

inductive CounterKind where
  | memory
  /-- Every call fails. -/
  | failing
  /-- Increments are accepted and lost, and reads never come back in time. -/
  | slow
  /-- Reads ignore the bounds and return the whole ranking. -/
  | greedy
  deriving DecidableEq, Repr

/-- A counter as popularity meets it; only two kinds ever write to the memory. -/
structure Scoreboard where
  kind : CounterKind
  memory : Counter
  deriving DecidableEq

namespace Scoreboard

def increment (board : Scoreboard) (key member : String) (delta : Binary64) : Scoreboard :=
  match board.kind with
  | .memory | .greedy => { board with memory := board.memory.increment key member delta }
  | .failing | .slow => board

def read (board : Scoreboard) (key : String) (start stop : Int) : Reading :=
  match board.kind with
  | .memory => .answered (board.memory.range key start stop)
  | .greedy => .answered (board.memory.range key 0 (-1))
  | .failing => .failed
  | .slow => .late

end Scoreboard

structure Keyword where
  keyword : String
  count : UInt64
  deriving DecidableEq, Repr

def Entry.toKeyword (entry : Entry) : Keyword := ⟨entry.member, entry.score.toCount⟩

structure Popularity where
  board : Scoreboard
  key : String
  deriving DecidableEq

namespace Popularity

/-- Whether the recording was dispatched, and the popularity when it has finished. A blank term is not
recorded, and nothing is where there is no background to run in. -/
def record (popularity : Popularity) (background : Bool) (term : String) : Bool × Popularity :=
  if Text.isBlank term || !background then (false, popularity)
  else
    (true, { popularity with
      board := popularity.board.increment popularity.key (Text.trim term) Binary64.one })

def firstOf (k : Nat) : Reading → List Entry
  | .answered entries => entries.take k
  | .failed | .late => []

/-- The inclusive rank to read up to, kept within a signed 64-bit word. -/
def lastRead (k : Nat) : Int := min ((k : Int) - 1) 0x7fffffffffffffff

def topFrom (read : (start stop : Int) → Reading) (k : Nat) : List Entry :=
  if k = 0 then [] else firstOf k (read 0 (lastRead k))

def top (popularity : Popularity) (k : Nat) : List Entry :=
  topFrom (popularity.board.read popularity.key) k

def topKeywords (popularity : Popularity) (k : Nat) : List Keyword :=
  (popularity.top k).map Entry.toKeyword

end Popularity
end BookSearch
