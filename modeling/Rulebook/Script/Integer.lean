import Rulebook.Script.Octets

namespace Rulebook.Script

-- Whole numbers of 64 bits.

def wordSize : Int := 0x10000000000000000

def greatest : Int := 0x7fffffffffffffff

def least : Int := -0x8000000000000000

-- What is left of a number in 64 bits.
def wrap (n : Int) : Int :=
  n.bmod 0x10000000000000000

-- The nearest number of 64 bits.
def clamp (n : Int) : Int :=
  if n > greatest then greatest else if n < least then least else n

def unsigned (n : Int) : Nat :=
  (n % wordSize).toNat

def digitValue (c : Char) : Nat :=
  if c.isDigit then c.toNat - '0'.toNat
  else if 'a' ≤ c && c ≤ 'z' then c.toNat - 'a'.toNat + 10
  else if 'A' ≤ c && c ≤ 'Z' then c.toNat - 'A'.toNat + 10
  else 99

def isDigitOf (base : Nat) (c : Char) : Bool :=
  digitValue c < base

-- The value of digits.
def ofDigits (base : Nat) (ds : List Char) : Nat :=
  ds.foldl (fun n d => n * base + digitValue d) 0

-- The base of a numeral that may tell its own, and its digits.
def radix (base : Nat) (cs : List Char) : Nat × List Char :=
  let hexadecimal (d : Char) (r : List Char) : Nat × List Char :=
    if isDigitOf 16 d then (16, d :: r) else (if base = 0 then 8 else 16, cs)
  match cs with
  | '0' :: 'x' :: d :: r | '0' :: 'X' :: d :: r =>
    if base = 0 || base = 16 then hexadecimal d r else (base, cs)
  | '0' :: _ => (if base = 0 then 8 else base, cs)
  | _ => (if base = 0 then 10 else base, cs)

-- The number in front of a text after white space, and what follows it. With base zero the numeral
-- tells its base.
def leadingInteger? (base : Nat) (cs : List Char) : Option (Int × List Char) :=
  let numeral (cs : List Char) : Option (Nat × List Char) :=
    let (base, cs) := radix base cs
    match cs.span (isDigitOf base) with
    | ([], _) => none
    | (ds, r) => some (ofDigits base ds, r)
  match cs.dropWhile isSpace with
  | '-' :: r => (numeral r).map fun (n, r) => (-n, r)
  | '+' :: r => (numeral r).map fun (n, r) => (n, r)
  | r => (numeral r).map fun (n, r) => (n, r)

-- A text that is a number, with white space around it. Numbers of more than 64 bits do not count.
def integer? (base : Nat) (s : String) : Option Int :=
  match leadingInteger? base s.toList with
  | some (n, r) => if r.all isSpace && clamp n = n then some n else none
  | none => none

-- A text of digits only.
def natural? (s : String) : Option Nat :=
  if s.isEmpty || !s.all Char.isDigit then none else some (ofDigits 10 s.toList)

-- The digits of a number to a base.
def digits (base : Nat) (n : Nat) : String :=
  String.ofList (Nat.toDigits base n)

end Rulebook.Script
