import Rulebook.Json

namespace Rulebook.Json

def isSpace (c : Char) : Bool :=
  c = ' ' || c = '\t' || c = '\n' || c = '\r'

def skip (cs : List Char) : List Char :=
  cs.dropWhile isSpace

def hexDigit? (c : Char) : Option Nat :=
  if '0' ≤ c && c ≤ '9' then some (c.toNat - '0'.toNat)
  else if 'a' ≤ c && c ≤ 'f' then some (c.toNat - 'a'.toNat + 10)
  else if 'A' ≤ c && c ≤ 'F' then some (c.toNat - 'A'.toNat + 10)
  else none

-- The number that four hexadecimal digits write.
def hexUnit? (a b c d : Char) : Option Nat := do
  let a ← hexDigit? a
  let b ← hexDigit? b
  let c ← hexDigit? c
  let d ← hexDigit? d
  return ((a * 16 + b) * 16 + c) * 16 + d

def isHighHalf (n : Nat) : Bool :=
  0xd800 ≤ n && n < 0xdc00

def isLowHalf (n : Nat) : Bool :=
  0xdc00 ≤ n && n < 0xe000

-- The second half of a character that is written as two halves.
def lowHalf? : List Char → Option (Nat × List Char)
  | '\\' :: 'u' :: a :: b :: c :: d :: r => do
    let n ← hexUnit? a b c d
    if isLowHalf n then some (n, r) else none
  | _ => none

-- The character after a backslash, or nothing for half a character without its other half.
def escape? : List Char → Option (Option Char × List Char)
  | '"' :: r => some (some '"', r)
  | '\\' :: r => some (some '\\', r)
  | '/' :: r => some (some '/', r)
  | 'b' :: r => some (some '\x08', r)
  | 'f' :: r => some (some '\x0c', r)
  | 'n' :: r => some (some '\n', r)
  | 'r' :: r => some (some '\r', r)
  | 't' :: r => some (some '\t', r)
  | 'u' :: a :: b :: c :: d :: r => do
    let n ← hexUnit? a b c d
    if isHighHalf n then
      match lowHalf? r with
      | some (low, r) =>
        return (some (Char.ofNat (0x10000 + (n - 0xd800) * 0x400 + (low - 0xdc00))), r)
      | none => return (none, r)
    else return (if isLowHalf n then none else some (Char.ofNat n), r)
  | _ => none

-- The string up to the closing quote, with its text if it is one. Every step takes at least one
-- character.
def stringBody? : (fuel : Nat) → (taken : Option (List Char)) → List Char →
    Option (Option String × List Char)
  | 0, _, _ => none
  | _ + 1, _, [] => none
  | fuel + 1, taken, c :: r =>
    if c = '"' then some (taken.map fun cs => String.ofList cs.reverse, r)
    else if c = '\\' then
      match escape? r with
      | some (some c, r) => stringBody? fuel (taken.map (c :: ·)) r
      | some (none, r) => stringBody? fuel none r
      | none => none
    else if c.toNat < 0x20 then none
    else stringBody? fuel (taken.map (c :: ·)) r

-- Digits, at least one.
def digits? (cs : List Char) : Option (List Char × List Char) :=
  match cs.span Char.isDigit with
  | ([], _) => none
  | (ds, r) => some (ds, r)

def sign (cs : List Char) (signs : List Char) : List Char × List Char :=
  match cs with
  | c :: r => if c ∈ signs then ([c], r) else ([], cs)
  | [] => ([], [])

-- Digits without a needless zero in front.
def whole? (cs : List Char) : Option (List Char × List Char) :=
  match digits? cs with
  | some ('0' :: _ :: _, _) => none
  | found => found

def fraction? (cs : List Char) : Option (List Char × List Char) :=
  match cs with
  | '.' :: r => (digits? r).map fun (ds, r) => ('.' :: ds, r)
  | _ => some ([], cs)

def exponent? (cs : List Char) : Option (List Char × List Char) :=
  match cs with
  | c :: r =>
    if c = 'e' || c = 'E' then
      let (s, r) := sign r ['+', '-']
      (digits? r).map fun (ds, r) => (c :: s ++ ds, r)
    else some ([], cs)
  | [] => some ([], [])

def number? (cs : List Char) : Option (String × List Char) := do
  let (s, r) := sign cs ['-']
  let (w, r) ← whole? r
  let (f, r) ← fraction? r
  let (e, r) ← exponent? r
  return (String.ofList (s ++ w ++ f ++ e), r)

-- A word of the language, if the text goes on with it.
def word? (word cs : List Char) : Option (List Char) :=
  if word.isPrefixOf cs then some (cs.drop word.length) else none

-- A value that is no string, array or object.
def scalar (cs : List Char) : Json × Option (List Char) :=
  match word? "null".toList cs, word? "true".toList cs, word? "false".toList cs, number? cs with
  | some r, _, _, _ => (.null, some r)
  | _, some r, _, _ => (.bool true, some r)
  | _, _, some r, _ => (.bool false, some r)
  | _, _, _, some (literal, r) => (.number literal, some r)
  | _, _, _, _ => (.broken, none)

def member (name : Option String) (v : Json) : String × Json :=
  match name with
  | some k => (k, v)
  | none => ("", .misnamed v)

-- Readers give what they read and the text after it, or no text where it stopped being JSON.
mutual

def value : (fuel : Nat) → List Char → Json × Option (List Char)
  | 0, _ => (.broken, none)
  | fuel + 1, cs =>
    match skip cs with
    | '"' :: r =>
      match stringBody? fuel (some []) r with
      | some (some s, r) => (.string s, some r)
      | some (none, r) => (.noText, some r)
      | none => (.broken, none)
    | '[' :: r =>
      match skip r with
      | ']' :: r => (.array [], some r)
      | r =>
        let (vs, r) := items fuel [] r
        (.array vs, r)
    | '\x7b' :: r =>
      match skip r with
      | '\x7d' :: r => (.object [], some r)
      | r =>
        let (ms, r) := members fuel [] r
        (.object ms, r)
    | r => scalar r

-- The items of an array, up to its end.
def items : (fuel : Nat) → (taken : List Json) → List Char → List Json × Option (List Char)
  | 0, taken, _ => ((.broken :: taken).reverse, none)
  | fuel + 1, taken, cs =>
    match value fuel cs with
    | (v, none) => ((v :: taken).reverse, none)
    | (v, some r) =>
      match skip r with
      | ',' :: r => items fuel (v :: taken) r
      | ']' :: r => ((v :: taken).reverse, some r)
      | _ => ((.broken :: v :: taken).reverse, none)

-- The members of an object, up to its end.
def members : (fuel : Nat) → (taken : List (String × Json)) → List Char →
    List (String × Json) × Option (List Char)
  | 0, taken, _ => ((("", .broken) :: taken).reverse, none)
  | fuel + 1, taken, cs =>
    match skip cs with
    | '"' :: r =>
      match stringBody? fuel (some []) r with
      | none => ((("", .broken) :: taken).reverse, none)
      | some (k, r) =>
        match skip r with
        | ':' :: r =>
          match value fuel r with
          | (v, none) => ((member k v :: taken).reverse, none)
          | (v, some r) =>
            match skip r with
            | ',' :: r => members fuel (member k v :: taken) r
            | '\x7d' :: r => ((member k v :: taken).reverse, some r)
            | _ => ((("", .broken) :: member k v :: taken).reverse, none)
        | _ => ((member k .broken :: taken).reverse, none)
    | _ => ((("", .broken) :: taken).reverse, none)

end

-- A text read as one value, and whether nothing but blanks follows it.
structure Reading where
  value : Json
  complete : Bool

-- No more than two steps are taken for each character.
def read (text : String) : Reading :=
  let cs := text.toList
  match value (2 * cs.length + 2) cs with
  | (v, none) => ⟨v, false⟩
  | (v, some r) => ⟨v, (skip r).isEmpty⟩

end Rulebook.Json
