import Rulebook.Json.Reader
import Rulebook.Toml.Layout

namespace Rulebook.Toml

-- Digits with single underscores between them, which are left out.
def digits? (isDigit : Char → Bool) (cs : List Char) : Option (List Char × List Char) :=
  let run := cs.takeWhile fun c => isDigit c || c = '_'
  if (run.splitOn '_').any (·.isEmpty) then none
  else some (run.filter (· ≠ '_'), cs.dropWhile fun c => isDigit c || c = '_')

-- Decimal digits without a needless zero in front.
def whole? (cs : List Char) : Option (List Char × List Char) :=
  match digits? Char.isDigit cs with
  | some ('0' :: _ :: _, _) => none
  | found => found

-- Whole numbers have 64 bits.
def integer? (n : Int) : Option Json :=
  if -0x8000000000000000 ≤ n && n < 0x8000000000000000 then some (.number (toString n)) else none

-- A whole number to a base that is a power of two, after its mark.
def based? (base : Nat) (cs : List Char) : Option (Json × List Char) := do
  let isDigit (c : Char) : Bool := (Json.hexDigit? c).any (· < base)
  let (ds, r) ← digits? isDigit cs
  let n := ds.foldl (fun n c => n * base + (Json.hexDigit? c).getD 0) 0
  return (← integer? n, r)

-- The part of a number after its point, if there is one.
def fraction? (cs : List Char) : Option (List Char × List Char) :=
  match cs with
  | '.' :: r => digits? Char.isDigit r
  | _ => some ([], cs)

def signed (negative : Bool) (n : Nat) : Int :=
  if negative then -n else n

-- A sign, if there is one, and whether it is a minus.
def sign (cs : List Char) : Bool × List Char :=
  match cs with
  | '-' :: r => (true, r)
  | '+' :: r => (false, r)
  | _ => (false, cs)

-- The power of ten that follows a number, if one does.
def exponent? (cs : List Char) : Option (Int × List Char) :=
  match cs with
  | c :: r =>
    if c = 'e' || c = 'E' then
      let (negative, r) := sign r
      (digits? Char.isDigit r).map fun (ds, r) => (signed negative (Nat.ofDigitChars 10 ds 0), r)
    else some (0, cs)
  | [] => some (0, [])

-- Whether a decimal number with an exponent rounds to infinity in 64-bit floating point.
def overflows (digits : List Char) (exponent : Int) : Bool :=
  let ds := digits.dropWhile (· = '0')
  let places := ds.length + exponent
  if ds.isEmpty || places < 309 then false
  else if 309 < places then true
  else
    let n := Nat.ofDigitChars 10 ds 0
    (Nat.pow 2 1024 - Nat.pow 2 970) * Nat.pow 10 (-exponent).toNat ≤ n * Nat.pow 10 exponent.toNat

-- The text of a number that is not whole. No record reads its value.
def fractional : Json :=
  .number "0.0"

-- A decimal number after its sign. With a fraction or an exponent it is not whole.
def decimal? (negative : Bool) (cs : List Char) : Option (Json × List Char) := do
  let (ds, r) ← whole? cs
  let (fs, r') ← fraction? r
  let (e, r') ← exponent? r'
  if r'.length = r.length then
    return (← integer? (signed negative (Nat.ofDigitChars 10 ds 0)), r)
  else if !negative && overflows (ds ++ fs) (e - fs.length) then none
  else return (fractional, r')

def unsigned? (negative : Bool) : Reader Json
  | 'i' :: 'n' :: 'f' :: r => some (fractional, r)
  | 'n' :: 'a' :: 'n' :: r => some (fractional, r)
  | cs => decimal? negative cs

-- Only decimal numbers have signs.
def number? : Reader Json
  | '0' :: 'x' :: r => based? 16 r
  | '0' :: 'o' :: r => based? 8 r
  | '0' :: 'b' :: r => based? 2 r
  | cs =>
    let (negative, r) := sign cs
    unsigned? negative r

end Rulebook.Toml
