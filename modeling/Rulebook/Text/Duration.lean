namespace Rulebook.Text

-- The places after the point, without zeros at the end.
def places (width n : Nat) : List Char :=
  let digits := Nat.toDigits 10 n
  let padded := List.replicate (width - digits.length) '0' ++ digits
  (padded.reverse.dropWhile (· = '0')).reverse

-- A number of units of 10^width, exactly.
def inUnits (width n : Nat) (unit : String) : String :=
  let scale := Nat.pow 10 width
  let fraction := if n % scale = 0 then [] else '.' :: places width (n % scale)
  toString (n / scale) ++ String.ofList fraction ++ unit

-- A time in nanoseconds, shown in the largest unit of which it has at least one.
def duration (nanoseconds : Nat) : String :=
  if 1000000000 ≤ nanoseconds then inUnits 9 nanoseconds "s"
  else if 1000000 ≤ nanoseconds then inUnits 6 nanoseconds "ms"
  else if 1000 ≤ nanoseconds then inUnits 3 nanoseconds "µs"
  else inUnits 0 nanoseconds "ns"

end Rulebook.Text
