import Rulebook.Script.Decimal

namespace Rulebook.Script

-- Formats with directives, and the escapes in texts that are printed.

-- Which escapes there are. The shell's own commands and the programs differ in this.
inductive Escapes
  -- in a format
  | format
  -- in a text that is printed, where the number of a character may start with an extra zero
  | text
  -- as programs have them
  | programText
  | programFormat
  deriving DecidableEq

namespace Escapes

def isProgram (e : Escapes) : Bool :=
  e = .programText || e = .programFormat

def isText (e : Escapes) : Bool :=
  e = .text || e = .programText

def simple : List (Char × Char) :=
  [('a', '\x07'), ('b', '\x08'), ('e', '\x1b'), ('f', '\x0c'), ('n', '\n'), ('r', '\r'),
   ('t', '\t'), ('v', '\x0b'), ('\\', '\\')]

def byte (n : Nat) : Char :=
  Char.ofNat (n % 256)

-- What a backslash and what follows it stand for, with what comes then. Nothing stands for the end
-- of everything.
def next (e : Escapes) (cs : List Char) : Option (List Char × List Char) :=
  let octal (count : Nat) (r : List Char) : Option (List Char × List Char) :=
    let ds := (r.take count).takeWhile (isDigitOf 8)
    some ([byte (ofDigits 8 ds)], r.drop ds.length)
  match cs with
  | [] => some (['\\'], [])
  | c :: r =>
    match simple.lookup c with
    | some d => some ([d], r)
    | none =>
      if c = '0' && e.isText then octal 3 r
      else if isDigitOf 8 c then octal 3 cs
      else if c = '"' && e = .programFormat then some (['"'], r)
      else if c = 'c' && e ≠ .format then none
      else if c = 'x' && e.isProgram then
        let ds := (r.take 2).takeWhile (isDigitOf 16)
        if ds.isEmpty then some (['\\', 'x'], r)
        else some ([byte (ofDigits 16 ds)], r.drop ds.length)
      else some (['\\', c], r)

-- A text with its escapes replaced, and whether something ended it.
def replace (e : Escapes) : (fuel : Nat) → List Char → List Char × Bool
  | 0, _ => ([], false)
  | _ + 1, [] => ([], false)
  | fuel + 1, '\\' :: r =>
    match e.next r with
    | none => ([], true)
    | some (cs, r) =>
      let (rest, ended) := replace e fuel r
      (cs ++ rest, ended)
  | fuel + 1, c :: r =>
    let (rest, ended) := replace e fuel r
    (c :: rest, ended)

def replaced (e : Escapes) (s : String) : String × Bool :=
  let (cs, ended) := e.replace (s.length + 1) s.toList
  (String.ofList cs, ended)

end Escapes

-- A directive: how the value is written, and what kind of value it is.
structure Directive where
  left : Bool := false
  sign : Bool := false
  space : Bool := false
  other : Bool := false
  zeros : Bool := false
  width : Nat := 0
  precision : Option Nat := none
  kind : Char := 's'
  deriving DecidableEq

namespace Directive

-- A value drawn out to the width. Zeros go between the sign and the digits.
def pad (d : Directive) (sign body : String) (numeric : Bool) : String :=
  let missing := d.width - sign.length - body.length
  if d.left then sign ++ body ++ String.ofList (List.replicate missing ' ')
  else if d.zeros && numeric then sign ++ String.ofList (List.replicate missing '0') ++ body
  else String.ofList (List.replicate missing ' ') ++ sign ++ body

def ofString (d : Directive) (s : String) : String :=
  let s := match d.precision with
    | some n => String.ofList (s.toList.take n)
    | none => s
  d.pad "" s false

def signText (d : Directive) (negative : Bool) : String :=
  if negative then "-" else if d.sign then "+" else if d.space then " " else ""

-- At least as many digits as the precision says. A zero without precision has no digits.
def withDigits (d : Directive) (digits : String) : String :=
  match d.precision with
  | some n =>
    let digits := if n = 0 && digits = "0" then "" else digits
    String.ofList (List.replicate (n - digits.length) '0') ++ digits
  | none => digits

def ofInteger (d : Directive) (n : Int) : String :=
  match d.kind with
  | 'd' | 'i' =>
    d.pad (d.signText (n < 0)) (d.withDigits (toString n.natAbs)) d.precision.isNone
  | kind =>
    let n := unsigned n
    let text :=
      if kind = 'o' then
        let s := d.withDigits (digits 8 n)
        if d.other && !s.startsWith "0" then "0" ++ s else s
      else if kind = 'x' then d.withDigits (digits 16 n)
      else if kind = 'X' then upper (d.withDigits (digits 16 n))
      else d.withDigits (toString n)
    let front := if d.other && n ≠ 0 then
        if kind = 'x' then "0x" else if kind = 'X' then "0X" else ""
      else ""
    d.pad front text d.precision.isNone

def ofAmount (d : Directive) (x : Exactness) (a : Amount) : String :=
  let large := d.kind.isUpper
  let cased (s : String) : String := if large then upper s else s
  match a with
  | .infinite negative => d.pad (d.signText negative) (cased "inf") false
  | .undefined negative => d.pad (d.signText negative) (cased "nan") false
  | .finite v =>
    let places := d.precision.getD 6
    let sign := d.signText v.negative
    match d.kind.toLower with
    | 'f' => d.pad sign (cased (v.fixed places d.other)) true
    | 'e' => d.pad sign (cased (v.scientific places d.other)) true
    | 'a' =>
      let below := (x.bits - 1) / 4 * 4
      d.pad (sign ++ cased "0x") (cased (v.hexadecimal below d.precision d.other)) true
    | _ => d.pad sign (cased (v.general places d.other)) true

def ofFloat (d : Directive) (f : Float) : String :=
  d.ofAmount .double (.ofFloat f)

-- The flags after a percent sign.
def flags : List Char → Directive → Directive × List Char
  | c :: r, d =>
    match c with
    | '-' => flags r { d with left := true }
    | '+' => flags r { d with sign := true }
    | ' ' => flags r { d with space := true }
    | '#' => flags r { d with other := true }
    | '0' => flags r { d with zeros := true }
    | '\'' => flags r d
    | _ => (d, c :: r)
  | [], d => (d, [])

end Directive

-- A format that is being filled: the arguments that are left, what has been written, and the
-- complaints.
structure Filling where
  arguments : List String
  -- the pieces written, the last one first
  output : List String := []
  complaints : List String := []
  -- nothing more is written
  ended : Bool := false
  -- the format is wrong
  failed : Bool := false

namespace Filling

def write (text : String) (s : Filling) : Filling :=
  { s with output := text :: s.output }

def complain (text : String) (s : Filling) : Filling :=
  { s with complaints := text :: s.complaints }

def text (s : Filling) : String :=
  String.join s.output.reverse

-- The next argument, if there is one.
def next (s : Filling) : Option String × Filling :=
  match s.arguments with
  | a :: as => (some a, { s with arguments := as })
  | [] => (none, s)

-- What a number is complained about with, if a part of it is left or it is too large.
def check (argument : String) (taken : Bool) (rest : List Char) (fitting : Bool) (s : Filling) :
    Filling :=
  if !taken then s.complain (argument ++ ": expected numeric value")
  else if !rest.isEmpty then s.complain (argument ++ ": not completely converted")
  else if !fitting then s.complain (argument ++ ": Numerical result out of range")
  else s

-- The number of the character after a quote.
def quotedChar? (argument : String) : Option Int :=
  match argument.toList with
  | '"' :: r | '\'' :: r => some ((r.head?.map fun c => (c.toNat : Int)).getD 0)
  | _ => none

def integer (isUnsigned : Bool) (argument : Option String) (s : Filling) : Int × Filling :=
  match argument with
  | none => (0, s)
  | some a =>
    match quotedChar? a with
    | some n => (n, s)
    | none =>
      if a.isEmpty then (0, s)
      else
        match leadingInteger? 0 a.toList with
        | none => (0, s.check a false [] true)
        | some (n, rest) =>
          if isUnsigned then
            let fitting := n.natAbs < 0x10000000000000000
            (if fitting then n else -1, s.check a true rest fitting)
          else (clamp n, s.check a true rest (clamp n = n))

def amount (x : Exactness) (argument : Option String) (s : Filling) : Amount × Filling :=
  let ofInt (n : Int) : Amount := (Amount.ofRatio x (n < 0) n.natAbs 1).1
  match argument with
  | none => (ofInt 0, s)
  | some a =>
    match quotedChar? a with
    | some n => (ofInt n, s)
    | none =>
      if a.isEmpty then (ofInt 0, s)
      else
        match Numeral.leading? true a.toList with
        | none => (ofInt 0, s.check a false [] true)
        | some (n, rest) =>
          let (v, fits) := n.amount x
          (v, s.check a true rest fits)

-- A width or precision that an argument gives.
def star (s : Filling) : Int × Filling :=
  let (a, s) := s.next
  s.integer false a

-- The width and precision of a directive.
def sizes (cs : List Char) (d : Directive) (s : Filling) : Directive × List Char × Filling :=
  let (d, cs, s) :=
    match cs with
    | '*' :: r =>
      let (n, s) := s.star
      ({ d with width := n.natAbs, left := d.left || n < 0 }, r, s)
    | _ =>
      let (ds, r) := cs.span Char.isDigit
      ({ d with width := ofDigits 10 ds }, r, s)
  match cs with
  | '.' :: '*' :: r =>
    let (n, s) := s.star
    ({ d with precision := if n < 0 then none else some n.toNat }, r, s)
  | '.' :: r =>
    let (ds, r) := r.span Char.isDigit
    ({ d with precision := some (ofDigits 10 ds) }, r, s)
  | _ => (d, cs, s)

-- The value of a directive.
def value (program : Bool) (d : Directive) (s : Filling) : Filling :=
  let (a, s) := s.next
  if d.kind = 's' then s.write (d.ofString (a.getD ""))
  else if d.kind = 'c' then
    let c := (a.getD "").toList.head?
    let text := match c with
      | some c => String.singleton c
      | none => if a.isNone && program then "" else "\x00"
    s.write ({ d with precision := none }.ofString text)
  else if d.kind = 'b' then
    let (text, ended) := (if program then Escapes.programText else .text).replaced (a.getD "")
    { s.write (d.ofString text) with ended := ended }
  else if d.kind ∈ ['d', 'i', 'o', 'u', 'x', 'X'] then
    let (n, s) := s.integer (d.kind ∉ ['d', 'i']) a
    s.write (d.ofInteger n)
  else
    let x := if program then Exactness.extended else .double
    let (v, s) := s.amount x a
    s.write (d.ofAmount x v)

def kinds : List Char :=
  ['s', 'c', 'b', 'd', 'i', 'o', 'u', 'x', 'X', 'a', 'A', 'e', 'E', 'f', 'F', 'g', 'G']

-- Fill a format once.
def fill (program : Bool) : (fuel : Nat) → List Char → Filling → Filling
  | 0, _, s => s
  | _ + 1, [], s => s
  | fuel + 1, '%' :: r, s =>
    if s.ended then s
    else if r.head? = some '%' then fill program fuel r.tail (s.write "%")
    else
      let (d, cs) := Directive.flags r {}
      let (d, cs, s) := s.sizes cs d
      let cs := if program then cs.dropWhile (· ∈ ['h', 'l', 'j', 'z', 't', 'L', 'q']) else cs
      match cs with
      | [] => { s.complain "missing format character" with ended := true, failed := true }
      | kind :: rest =>
        if kind ∈ kinds then fill program fuel rest (s.value program { d with kind := kind })
        else
          let written := String.ofList ('%' :: r.take (r.length - rest.length))
          { s.complain (written ++ ": invalid directive") with ended := true, failed := true }
  | fuel + 1, '\\' :: r, s =>
    if s.ended then s
    else
      match (if program then Escapes.programFormat else .format).next r with
      | none => { s with ended := true }
      | some (cs, rest) => fill program fuel rest (s.write (String.ofList cs))
  | fuel + 1, c :: r, s =>
    if s.ended then s else fill program fuel r (s.write (String.singleton c))

-- A format is used again while it takes arguments and there are some.
def fillAll (program : Bool) (format : List Char) : (fuel : Nat) → Filling → Filling
  | 0, s => s
  | fuel + 1, s =>
    let after := fill program (format.length + 1) format s
    if after.ended || after.arguments.isEmpty ||
        after.arguments.length = s.arguments.length then after
    else fillAll program format fuel after

def ofFormat (program : Bool) (format : String) (arguments : List String) : Filling :=
  fillAll program format.toList (arguments.length + 1) { arguments := arguments }

end Filling

end Rulebook.Script
