import Rulebook.Script.Integer

namespace Rulebook.Script

-- Numbers with a fraction, as they are read and written in decimal digits.

-- The exact value of a number that is neither infinite nor undefined: an amount times a power of
-- two, and whether it is negative.
structure Dyadic where
  negative : Bool
  amount : Nat
  exponent : Int
  deriving DecidableEq

namespace Dyadic

def ofFloat? (f : Float) : Option Dyadic :=
  let bits := f.toBits.toNat
  let fraction := bits % 0x10000000000000
  let exponent := bits / 0x10000000000000 % 2048
  let negative := bits / 0x8000000000000000 = 1
  if exponent = 2047 then none
  else if exponent = 0 then some ⟨negative, fraction, -1074⟩
  else some ⟨negative, fraction + 0x10000000000000, (exponent : Int) - 1075⟩

-- A quotient as the nearest whole number, and of two the even one.
def nearest (n d : Nat) : Nat :=
  let q := n / d
  let r := 2 * (n % d)
  if r > d || (r = d && q % 2 = 1) then q + 1 else q

-- A value as a fraction.
def numerator (v : Dyadic) : Nat :=
  if v.exponent ≥ 0 then v.amount * Nat.pow 2 v.exponent.toNat else v.amount

def denominator (v : Dyadic) : Nat :=
  if v.exponent ≥ 0 then 1 else Nat.pow 2 (-v.exponent).toNat

-- A value times a power of ten, as a whole number.
def scaled (v : Dyadic) (power : Int) : Nat :=
  if power ≥ 0 then nearest (v.numerator * Nat.pow 10 power.toNat) v.denominator
  else nearest v.numerator (v.denominator * Nat.pow 10 (-power).toNat)

-- Digits with so many of them behind the point.
def pointed (digits : String) (places : Nat) (keepsPoint : Bool) : String :=
  if places = 0 then (if keepsPoint then digits ++ "." else digits)
  else
    let cs := digits.toList
    let cs := List.replicate (places + 1 - cs.length) '0' ++ cs
    let whole := cs.length - places
    String.ofList (cs.take whole ++ '.' :: cs.drop whole)

def fixed (v : Dyadic) (places : Nat) (keepsPoint : Bool) : String :=
  pointed (toString (v.scaled places)) places keepsPoint

-- Whether a value is at least a power of ten.
def reaches (v : Dyadic) (power : Int) : Bool :=
  if power ≥ 0 then v.numerator ≥ v.denominator * Nat.pow 10 power.toNat
  else v.numerator * Nat.pow 10 (-power).toNat ≥ v.denominator

-- The power of ten of the first digit. It is near what the power of two of the value tells.
def magnitude (v : Dyadic) : Int :=
  if v.amount = 0 then 0
  else
    let near := ((v.amount.log2 : Int) + v.exponent) * 30103 / 100000
    if v.reaches (near + 1) then near + 1
    else if v.reaches near then near
    else near - 1

-- The digits of a value, so many of them behind the first one, and the power of ten of that.
def significant (v : Dyadic) (places : Nat) : String × Int :=
  let power := v.magnitude
  let n := v.scaled (places - power)
  if n ≥ Nat.pow 10 (places + 1) then (toString (n / 10), power + 1)
  else (String.ofList (List.replicate (places + 1 - (toString n).length) '0') ++ toString n, power)

def exponentText (power : Int) : String :=
  let digits := toString power.natAbs
  (if power < 0 then "-" else "+") ++ if digits.length < 2 then "0" ++ digits else digits

def scientific (v : Dyadic) (places : Nat) (keepsPoint : Bool) : String :=
  let (digits, power) := v.significant places
  pointed digits places keepsPoint ++ "e" ++ exponentText power

-- Zeros at the end behind a point do not tell anything.
def withoutZeros (s : String) : String :=
  if s.contains '.' then
    let cs := s.toList.reverse.dropWhile (· = '0')
    String.ofList (if cs.head? = some '.' then cs.tail else cs).reverse
  else s

-- The shorter of the two forms, with so many digits.
def general (v : Dyadic) (digits : Nat) (keepsZeros : Bool) : String :=
  let digits := if digits = 0 then 1 else digits
  let (ds, power) := v.significant (digits - 1)
  let trimmed (s : String) : String := if keepsZeros then s else withoutZeros s
  if power < -4 || power ≥ digits then
    trimmed (pointed ds (digits - 1) keepsZeros) ++ "e" ++ exponentText power
  else trimmed (v.fixed (digits - 1 - power).toNat keepsZeros)

-- Digits to the base sixteen behind the leading one, and a power of two. The leading digit is what
-- lies above so many binary digits, and of the others all that matter are told if no number of them
-- is asked for.
def hexadecimal (v : Dyadic) (below : Nat) (places : Option Nat) (keepsPoint : Bool) : String :=
  let count := below / 4
  let (amount, kept) :=
    match places with
    | some n =>
      if n < count then (nearest v.amount (Nat.pow 16 (count - n)), n) else (v.amount, count)
    | none => (v.amount, count)
  let (amount, power) :=
    if amount ≥ Nat.pow 16 (kept + 1) then (amount / 16, v.exponent + below + 4)
    else (amount, v.exponent + below)
  let ds := (digits 16 (amount % Nat.pow 16 kept)).toList
  let ds := if kept = 0 then [] else List.replicate (kept - ds.length) '0' ++ ds
  let ds :=
    match places with
    | some n => ds ++ List.replicate (n - ds.length) '0'
    | none => (ds.reverse.dropWhile (· = '0')).reverse
  let point := if keepsPoint || !ds.isEmpty then "." else ""
  let power := if v.amount = 0 then 0 else power
  digits 16 (amount / Nat.pow 16 kept) ++ point ++ String.ofList ds ++ "p" ++
    (if power < 0 then "-" else "+") ++ toString power.natAbs

end Dyadic

-- How exactly numbers are kept: with so many binary digits, none of them below one power of two
-- and all of them below another one.
structure Exactness where
  bits : Nat
  lowest : Int
  highest : Int

namespace Exactness

def double : Exactness := ⟨53, -1074, 1024⟩

def extended : Exactness := ⟨64, -16445, 16384⟩

-- The value nearest to a quotient, and whether it is as exact as other ones.
def round (x : Exactness) (negative : Bool) (n d : Nat) : Dyadic × Bool :=
  let size : Int := (n.log2 : Int) - d.log2
  let value (e : Int) : Nat × Nat :=
    if e ≥ 0 then (n, d * Nat.pow 2 e.toNat) else (n * Nat.pow 2 (-e).toNat, d)
  let (above, below) := value size
  let e := max x.lowest (size - x.bits + if above < below then 0 else 1)
  let (above, below) := value e
  let amount := Dyadic.nearest above below
  let v : Dyadic :=
    if amount = Nat.pow 2 x.bits then ⟨negative, amount / 2, e + 1⟩ else ⟨negative, amount, e⟩
  (v, n = 0 || amount ≥ Nat.pow 2 (x.bits - 1) || above % below = 0)

end Exactness

-- A number as it is kept.
inductive Amount
  | finite (v : Dyadic)
  | infinite (negative : Bool)
  | undefined (negative : Bool)
  deriving DecidableEq

def Amount.ofFloat (f : Float) : Amount :=
  let negative := f.toBits.toNat / 0x8000000000000000 = 1
  match Dyadic.ofFloat? f with
  | some v => .finite v
  | none => if f.isNaN then .undefined negative else .infinite negative

-- The amount nearest to a quotient, and whether it could be kept well.
def Amount.ofRatio (x : Exactness) (negative : Bool) (n d : Nat) : Amount × Bool :=
  let (v, fits) := x.round negative n d
  if v.exponent + x.bits > x.highest then (.infinite negative, false) else (.finite v, fits)

-- What a text says that is read as a number: digits and the power of a base they are multiplied by,
-- or something beyond all numbers.
inductive Numeral
  | number (negative : Bool) (digits base : Nat) (power : Int)
  | infinite (negative : Bool)
  | undefined (negative : Bool)
  deriving DecidableEq

namespace Numeral

-- The digits of a number with a point, how many of them are behind it, and what follows.
def pointed? (base : Nat) (cs : List Char) : Option (Nat × Nat × List Char) :=
  let (whole, r1) := cs.span (isDigitOf base)
  let (fraction, r2) :=
    match r1 with
    | '.' :: r => r.span (isDigitOf base)
    | _ => ([], r1)
  if whole.isEmpty && fraction.isEmpty then none
  else some (ofDigits base (whole ++ fraction), fraction.length, r2)

-- The power behind one of two letters, which is zero if there is none.
def power (letters : List Char) (cs : List Char) : Int × List Char :=
  match cs with
  | e :: r =>
    if e ∈ letters then
      let (minus, ds) :=
        match r with
        | '-' :: r => (true, r)
        | '+' :: r => (false, r)
        | r => (false, r)
      let (ds, rest) := ds.span Char.isDigit
      if ds.isEmpty then (0, cs)
      else
        let n : Int := ofDigits 10 ds
        (if minus then -n else n, rest)
    else (0, cs)
  | [] => (0, cs)

-- What may follow the name of what is no number.
def withoutNote (cs : List Char) : List Char :=
  match cs with
  | '(' :: r =>
    match r.dropWhile fun c => c.isAlphanum || c = '_' with
    | ')' :: rest => rest
    | _ => cs
  | _ => cs

-- The numeral in front of a text after white space, and what follows it. Digits to the base sixteen
-- only count where they are known.
def leading? (knowsSixteen : Bool) (cs : List Char) : Option (Numeral × List Char) :=
  let (negative, r) :=
    match cs.dropWhile isSpace with
    | '-' :: r => (true, r)
    | '+' :: r => (false, r)
    | r => (false, r)
  let sixteen :=
    match r with
    | '0' :: x :: r => if knowsSixteen && (x = 'x' || x = 'X') then pointed? 16 r else none
    | _ => none
  match sixteen, pointed? 10 r with
  | some (n, behind, r), _ =>
    let (p, rest) := power ['p', 'P'] r
    some (.number negative n 2 (p - 4 * (behind : Int)), rest)
  | none, some (n, behind, r) =>
    let (p, rest) := power ['e', 'E'] r
    some (.number negative n 10 (p - behind), rest)
  | none, none =>
    let named := lower (String.ofList (r.take 8))
    if named.startsWith "infinity" then some (.infinite negative, r.drop 8)
    else if named.startsWith "inf" then some (.infinite negative, r.drop 3)
    else if named.startsWith "nan" then some (.undefined negative, withoutNote (r.drop 3))
    else none

-- A power that is so large or small that a larger or smaller one does not change anything.
def within (bound : Nat) (power : Int) : Int :=
  max (-(bound : Int)) (min bound power)

-- The amount nearest to what is said, and whether it could be kept well.
def amount (x : Exactness) : Numeral → Amount × Bool
  | number negative n base p =>
    let p := within (20000 + n.log2) p
    if n = 0 then Amount.ofRatio x negative 0 1
    else if p ≥ 0 then Amount.ofRatio x negative (n * Nat.pow base p.toNat) 1
    else Amount.ofRatio x negative n (Nat.pow base (-p).toNat)
  | infinite negative => (.infinite negative, true)
  | undefined negative => (.undefined negative, true)

def toFloat (n : Numeral) : Float :=
  let signed (negative : Bool) (f : Float) : Float := if negative then -f else f
  match n with
  | number negative n 10 p =>
    let p := within (1200 + n.log2) p
    signed negative (if n = 0 then 0.0 else Float.ofScientific n (p < 0) p.natAbs)
  | n =>
    match (n.amount .double).1 with
    | .finite v => signed v.negative ((Float.ofNat v.amount).scaleB v.exponent)
    | .infinite negative => signed negative (1.0 / 0.0)
    | .undefined negative => signed negative (0.0 / 0.0)

end Numeral

-- The number with a fraction in front of a text after white space, and what follows it.
def leadingFloat? (knowsSixteen : Bool) (cs : List Char) : Option (Float × List Char) :=
  (Numeral.leading? knowsSixteen cs).map fun (n, rest) => (n.toFloat, rest)

end Rulebook.Script
