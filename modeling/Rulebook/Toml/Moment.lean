import Rulebook.Json
import Rulebook.Toml.Layout

namespace Rulebook.Toml

-- A number written with some decimal digits, within bounds.
def field? (count low high : Nat) (cs : List Char) : Option (Nat × List Char) :=
  let ds := cs.take count
  let n := Nat.ofDigitChars 10 ds 0
  if ds.length = count && ds.all Char.isDigit && low ≤ n && n ≤ high then some (n, cs.drop count)
  else none

def isLeap (year : Nat) : Bool :=
  year % 4 = 0 && (year % 100 ≠ 0 || year % 400 = 0)

def daysIn (year month : Nat) : Nat :=
  if month = 2 then (if isLeap year then 29 else 28)
  else if month ∈ [4, 6, 9, 11] then 30
  else 31

-- What follows a date, and what follows a time. Their values are not needed.

def date? (cs : List Char) : Option (List Char) := do
  let (year, r) ← field? 4 0 9999 cs
  let (month, r) ← field? 2 1 12 (← expect '-' r)
  let (_, r) ← field? 2 1 (daysIn year month) (← expect '-' r)
  return r

def hourMinute? (cs : List Char) : Option (List Char) := do
  let (_, r) ← field? 2 0 23 cs
  let (_, r) ← field? 2 0 59 (← expect ':' r)
  return r

-- A leap second is allowed, and so are parts of a second.
def time? (cs : List Char) : Option (List Char) := do
  let (_, r) ← field? 2 0 60 (← expect ':' (← hourMinute? cs))
  match r with
  | '.' :: d :: r' => return if d.isDigit then r'.dropWhile Char.isDigit else r
  | _ => return r

-- How far local time is ahead, if that is given.
def offset? : List Char → Option (List Char)
  | 'Z' :: r => some r
  | 'z' :: r => some r
  | '+' :: r => hourMinute? r
  | '-' :: r => hourMinute? r
  | cs => some cs

-- A time after a date, if one follows. A blank between them need not start a time.
def timeOfDay? : List Char → Option (List Char)
  | 'T' :: r => do offset? (← time? r)
  | 't' :: r => do offset? (← time? r)
  | ' ' :: d :: r =>
    if d.isDigit then do offset? (← time? (d :: r)) else some (' ' :: d :: r)
  | cs => some cs

-- A date, a time or both. They have no form in JSON: each becomes an object with a member that no
-- record knows.
def moment? (cs : List Char) : Option (Json × List Char) :=
  let rest := ((date? cs).bind timeOfDay?).orElse fun _ => time? cs
  rest.map fun r =>
    (.object [("date", .string (String.ofList (cs.take (cs.length - r.length))))], r)

end Rulebook.Toml
