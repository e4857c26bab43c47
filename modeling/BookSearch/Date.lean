import BookSearch.Text.Basic

/-!
Calendar days of the proleptic Gregorian calendar, their text, and reading that text back. Reading allows
blanks around each part and is strict about everything else; a failure says what was wrong first.
-/
namespace BookSearch

inductive DateError where
  | incomplete
  | misplaced
  | trailing
  | outOfRange
  deriving DecidableEq, Repr

def DateError.message : DateError → String
  | incomplete => "premature end of input"
  | misplaced => "input contains invalid characters"
  | trailing => "trailing input"
  | outOfRange => "input is out of range"

namespace Date

def isLeap (year : Int) : Bool := year % 4 = 0 && (year % 100 ≠ 0 || year % 400 = 0)

def daysIn (year : Int) (month : Nat) : Nat :=
  if month = 2 then if isLeap year then 29 else 28
  else if month = 4 || month = 6 || month = 9 || month = 11 then 30
  else 31

def minYear : Int := -262143

def maxYear : Int := 262142

abbrev Exists (year : Int) (month day : Nat) : Prop :=
  (minYear ≤ year ∧ year ≤ maxYear) ∧ (1 ≤ month ∧ month ≤ 12) ∧ (1 ≤ day ∧ day ≤ daysIn year month)

end Date

structure Date where
  year : Int
  month : Nat
  day : Nat
  real : Date.Exists year month day
  deriving DecidableEq, Repr

namespace Date

def of? (year : Int) (month day : Nat) : Option Date :=
  if real : Exists year month day then some ⟨year, month, day, real⟩ else none

def padded (width n : Nat) : List Char :=
  let digits := Nat.toDigits 10 n
  List.replicate (width - digits.length) '0' ++ digits

/-- Years of one to four digits have no sign and all others have one. -/
def yearText (year : Int) : List Char :=
  if year < 0 then '-' :: padded 4 year.natAbs
  else if year ≤ 9999 then padded 4 year.natAbs
  else '+' :: padded 4 year.natAbs

def chars (date : Date) : List Char :=
  yearText date.year ++ '-' :: padded 2 date.month ++ '-' :: padded 2 date.day

def toText (date : Date) : String := String.ofList date.chars

/-- At least one digit and at most `limit`; a digit more is left for what follows. -/
def readNumber (limit : Nat) (s : List Char) : Except DateError (Nat × List Char) :=
  if s.isEmpty then .error .incomplete
  else
    let digits := (s.takeWhile Char.isDigit).take limit
    if digits.isEmpty then .error .misplaced
    else .ok (Nat.ofDigitChars 10 digits 0, s.drop digits.length)

def checked (within : Nat → Bool) (read : Except DateError (Nat × List Char)) :
    Except DateError (Nat × List Char) :=
  match read with
  | .error fault => .error fault
  | .ok (n, rest) => if within n then .ok (n, rest) else .error .outOfRange

/-- A signed year has any number of digits. The 32 bits of a year bound it here, before its calendar
does. -/
def readYear : List Char → Except DateError (Int × List Char)
  | '-' :: s =>
    (checked (· ≤ 0x80000000) (readNumber s.length s)).map fun (n, rest) => (-(n : Int), rest)
  | '+' :: s =>
    (checked (· < 0x80000000) (readNumber s.length s)).map fun (n, rest) => ((n : Int), rest)
  | s => (readNumber 4 s).map fun (n, rest) => ((n : Int), rest)

def readHyphen : List Char → Except DateError (List Char)
  | [] => .error .incomplete
  | '-' :: rest => .ok rest
  | _ :: _ => .error .misplaced

def read (s : List Char) : Except DateError Date := do
  let (year, s) ← readYear (Chars.trimStart s)
  let s ← readHyphen (Chars.trimStart s)
  let (month, s) ← checked (fun n => 1 ≤ n && n ≤ 12) (readNumber 2 (Chars.trimStart s))
  let s ← readHyphen (Chars.trimStart s)
  let (day, s) ← checked (fun n => 1 ≤ n && n ≤ 31) (readNumber 2 (Chars.trimStart s))
  if (Chars.trimStart s).isEmpty then
    match of? year month day with
    | some date => .ok date
    | none => .error .outOfRange
  else .error .trailing

def ofText (s : String) : Except DateError Date := read s.toList

end Date
end BookSearch
