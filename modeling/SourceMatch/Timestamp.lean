import SourceMatch.Json.Decoder
import SourceMatch.Text.Blank

/-!
Points in time: a day of the calendar, the second of the day and its parts, in universal time. A
leap second counts as the second before it with more than a whole second of parts.
-/
namespace SourceMatch

/-- A point in time. Days are counted from the first of March of the year zero. -/
structure Timestamp where
  day : Int
  second : Nat
  nanosecond : Nat
deriving DecidableEq, Repr, Inhabited

namespace Timestamp

def cmp (s t : Timestamp) : Ordering :=
  (compare s.day t.day).then <|
    (compare s.second t.second).then (compare s.nanosecond t.nanosecond)

def daysBeforeMonth (month : Nat) : Nat := (153 * month + 2) / 5

def dayNumber (year : Int) (month day : Nat) : Int :=
  let y := if month ≤ 2 then year - 1 else year
  let m := (month + 9) % 12
  y * 365 + y.fdiv 4 - y.fdiv 100 + y.fdiv 400 + daysBeforeMonth m + (day - 1 : Int)

def civil (number : Int) : Int × Nat × Nat :=
  let era := number.fdiv 146097
  let inEra := (number - era * 146097).toNat
  let yearOfEra := (inEra - inEra / 1460 + inEra / 36524 - inEra / 146096) / 365
  let inYear := inEra - (365 * yearOfEra + yearOfEra / 4 - yearOfEra / 100)
  let m := (5 * inYear + 2) / 153
  let month := (m + 2) % 12 + 1
  let year := era * 400 + yearOfEra + (if month ≤ 2 then 1 else 0)
  (year, month, inYear - daysBeforeMonth m + 1)

def isLeapYear (year : Int) : Bool :=
  year % 4 = 0 && (year % 100 ≠ 0 || year % 400 = 0)

def daysInMonth (year : Int) (month : Nat) : Nat :=
  if month = 2 then (if isLeapYear year then 29 else 28)
  else if month = 4 ∨ month = 6 ∨ month = 9 ∨ month = 11 then 30
  else 31

/-- Days of years from -262143 to 262142 can be told. -/
def isInRange (day : Int) : Bool :=
  dayNumber (-262143) 1 1 ≤ day && day ≤ dayNumber 262142 12 31

open Text (trimLeft)

def digits? (width : Nat) (cs : List Char) : Option (Nat × List Char) :=
  let front := (cs.take width).takeWhile Char.isDigit
  if front.isEmpty then none
  else some (front.foldl (fun n c => n * 10 + (c.toNat - '0'.toNat)) 0, cs.drop front.length)

def field? (width : Nat) (cs : List Char) : Option (Nat × List Char) :=
  digits? width (trimLeft cs)

def year? (cs : List Char) : Option (Int × List Char) :=
  match trimLeft cs with
  | '-' :: rest => (digits? rest.length rest).map fun (n, rest) => (-(n : Int), rest)
  | '+' :: rest => (digits? rest.length rest).map fun (n, rest) => ((n : Int), rest)
  | cs => (digits? 4 cs).map fun (n, rest) => ((n : Int), rest)

def mark? (mark : Char) (cs : List Char) : Option (List Char) :=
  match trimLeft cs with
  | c :: rest => if c = mark then some rest else none
  | [] => none

/-- Parts of a second behind a point; of more than nine digits the first nine count. -/
def fraction? (cs : List Char) : Option (Nat × List Char) :=
  match cs with
  | '.' :: rest => do
    let (n, after) ← digits? 9 rest
    let taken := rest.length - after.length
    some (n * Nat.pow 10 (9 - taken), after.dropWhile Char.isDigit)
  | cs => some (0, cs)

def pair? (bound : Nat) (cs : List Char) : Option (Nat × List Char) :=
  match cs with
  | a :: b :: rest =>
    if a.isDigit ∧ b.isDigit ∧ a.toNat - '0'.toNat < bound then
      some ((a.toNat - '0'.toNat) * 10 + (b.toNat - '0'.toNat), rest)
    else none
  | _ => none

/-- The distance from universal time in seconds: a letter `Z`, the word `UTC`, or a sign, hours and
minutes. -/
def offset? (cs : List Char) : Option (Int × List Char) :=
  if (cs.take 3).map Char.toUpper = ['U', 'T', 'C'] then some (0, cs.drop 3)
  else
    match cs with
    | 'Z' :: rest | 'z' :: rest => some (0, rest)
    | '+' :: rest => seconds? rest
    | '-' :: rest | '−' :: rest => (seconds? rest).map fun (n, rest) => (-n, rest)
    | _ => none
where
  seconds? (cs : List Char) : Option (Int × List Char) := do
    let (hours, cs) ← pair? 10 cs
    let (minutes, cs) ← pair? 6 (cs.dropWhile fun c => c = ':' || Text.isBlank c)
    some (hours * 3600 + minutes * 60, cs)

def ofLocal? (day : Int) (second : Nat) (nanosecond : Nat) (offset : Int) : Option Timestamp :=
  let total := (second : Int) - offset
  let shifted := day + total.fdiv 86400
  if isInRange day && isInRange shifted && offset.natAbs < 86400 then
    some ⟨shifted, (total.fmod 86400).toNat, nanosecond⟩
  else none

def parse? (text : String) : Option Timestamp := do
  let (year, cs) ← year? text.toList
  let (month, cs) ← field? 2 (← mark? '-' cs)
  let (day, cs) ← field? 2 (← mark? '-' cs)
  let cs ← match cs with
    | 'T' :: rest | 't' :: rest | ' ' :: rest => some rest
    | _ => none
  let (hour, cs) ← field? 2 cs
  let (minute, cs) ← field? 2 (← mark? ':' cs)
  let (second, cs) ← field? 2 (← mark? ':' cs)
  let (nanosecond, cs) ← fraction? cs
  let (offset, cs) ← offset? (trimLeft cs)
  if !(trimLeft cs).isEmpty then none
  if month < 1 ∨ 12 < month ∨ day < 1 ∨ daysInMonth year month < day then none
  if 23 < hour ∨ 59 < minute ∨ 60 < second then none
  let (second, nanosecond) :=
    if second = 60 then (59, nanosecond + 1000000000) else (second, nanosecond)
  ofLocal? (dayNumber year month day) (hour * 3600 + minute * 60 + second) nanosecond offset

def padded (width n : Nat) : List Char :=
  let digits := Nat.toDigits 10 n
  List.replicate (width - digits.length) '0' ++ digits

def yearText (year : Int) : List Char :=
  if 0 ≤ year ∧ year ≤ 9999 then padded 4 year.toNat
  else (if year < 0 then '-' else '+') :: padded 4 year.natAbs

def fractionText (nanosecond : Nat) : List Char :=
  if nanosecond = 0 then []
  else if nanosecond % 1000000 = 0 then '.' :: padded 3 (nanosecond / 1000000)
  else if nanosecond % 1000 = 0 then '.' :: padded 6 (nanosecond / 1000)
  else '.' :: padded 9 nanosecond

def toText (t : Timestamp) : String :=
  let (year, month, day) := civil t.day
  let leap := 1000000000 ≤ t.nanosecond
  let second := t.second % 60 + (if leap then 1 else 0)
  String.ofList <| yearText year ++ '-' :: padded 2 month ++ '-' :: padded 2 day ++
    'T' :: padded 2 (t.second / 3600) ++ ':' :: padded 2 (t.second / 60 % 60) ++
    ':' :: padded 2 second ++ fractionText (t.nanosecond % 1000000000) ++ ['Z']

def decoder : Json.Decoder Timestamp := fun o doc => do
  match parse? (← Json.Decoder.string o doc) with
  | some t => return t
  | none => throw .wrongShape

end Timestamp

end SourceMatch
