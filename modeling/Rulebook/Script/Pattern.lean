import Rulebook.Script.Octets

namespace Rulebook.Script

-- The patterns of shells, which fit whole texts.

-- One of some characters, or none of them.
structure CharSet where
  excluded : Bool := false
  -- first and last of each range
  ranges : List (Char × Char) := []
  classes : List String := []
  deriving DecidableEq

namespace CharSet

-- The classes of ASCII characters.
def isInClass (name : String) (c : Char) : Bool :=
  match name with
  | "alpha" => c.isAlpha
  | "digit" => c.isDigit
  | "alnum" => c.isAlphanum
  | "upper" => c.isUpper
  | "lower" => c.isLower
  | "space" => isSpace c
  | "blank" => c = ' ' || c = '\t'
  | "punct" => '!' ≤ c && c ≤ '~' && !c.isAlphanum
  | "print" => ' ' ≤ c && c ≤ '~'
  | "graph" => '!' ≤ c && c ≤ '~'
  | "cntrl" => c < ' ' || c = '\x7f'
  | "xdigit" => c.isDigit || ('a' ≤ c && c ≤ 'f') || ('A' ≤ c && c ≤ 'F')
  | _ => false

def classNames : List String :=
  ["alpha", "digit", "alnum", "upper", "lower", "space", "blank", "punct", "print", "graph",
   "cntrl", "xdigit"]

def contains (s : CharSet) (c : Char) : Bool :=
  (s.ranges.any (fun r => r.1 ≤ c && c ≤ r.2) || s.classes.any (isInClass · c)) != s.excluded

def addRange (first last : Char) (s : CharSet) : CharSet :=
  { s with ranges := (first, last) :: s.ranges }

-- The name of a class with its colons, and what follows the bracket after it.
def className? (cs : List Char) : Option (String × List Char) :=
  match cs.span (· ≠ ':') with
  | (name, ':' :: ']' :: r) =>
    if String.ofList name ∈ classNames then some (String.ofList name, r) else none
  | _ => none

end CharSet

inductive PatternPart
  | any
  | one
  | among (set : CharSet)
  | char (c : Char)
  deriving DecidableEq

abbrev Pattern := List PatternPart

namespace Pattern

-- The characters of a pattern. Those that are quoted stand for themselves.
abbrev Source := List (Char × Bool)

-- The set after an opening bracket, up to the bracket that closes it. One that comes first is a
-- member.
def members? : (fuel : Nat) → (first : Bool) → CharSet → Source → Option (CharSet × Source)
  | 0, _, _, _ => none
  | _ + 1, _, _, [] => none
  | fuel + 1, first, set, (c, quoted) :: r =>
    if c = ']' && !quoted && !first then some (set, r)
    else if c = '[' && !quoted then
      match r with
      | (':', false) :: r' =>
        match CharSet.className? (r'.map (·.1)) with
        | some (name, rest) =>
          members? fuel false { set with classes := name :: set.classes }
            (r'.drop (r'.length - rest.length))
        | none => ranged fuel set c r
      | _ => ranged fuel set c r
    else if c = '\\' && !quoted then
      match r with
      | (d, _) :: r => ranged fuel set d r
      | [] => none
    else ranged fuel set c r
where
  -- A member that may start a range.
  ranged (fuel : Nat) (set : CharSet) (c : Char) (r : Source) : Option (CharSet × Source) :=
    match r with
    | ('-', false) :: (d, quoted) :: r' =>
      if d = ']' && !quoted then members? fuel false (set.addRange c c) r
      else members? fuel false (set.addRange c d) r'
    | _ => members? fuel false (set.addRange c c) r

def parse : (fuel : Nat) → Source → Pattern
  | 0, _ => []
  | _ + 1, [] => []
  | fuel + 1, (c, quoted) :: r =>
    if quoted then .char c :: parse fuel r
    else if c = '*' then .any :: parse fuel r
    else if c = '?' then .one :: parse fuel r
    else if c = '\\' then
      match r with
      | (d, _) :: r => .char d :: parse fuel r
      | [] => [.char c]
    else if c = '[' then
      let (excluded, inner) :=
        match r with
        | ('!', false) :: r => (true, r)
        | r => (false, r)
      match members? (r.length + 1) true { excluded := excluded } inner with
      | some (set, rest) => .among set :: parse fuel rest
      | none => .char c :: parse fuel r
    else .char c :: parse fuel r

def ofSource (s : Source) : Pattern :=
  parse (s.length + 1) s

-- A pattern without quotes.
def ofString (s : String) : Pattern :=
  ofSource (s.toList.map fun c => (c, false))

def fits : Pattern → List Char → Bool
  | [], cs => cs.isEmpty
  | .any :: ps, [] => fits ps []
  | .any :: ps, c :: cs => fits ps (c :: cs) || fits (.any :: ps) cs
  | _ :: _, [] => false
  | .one :: ps, _ :: cs => fits ps cs
  | .among set :: ps, c :: cs => set.contains c && fits ps cs
  | .char d :: ps, c :: cs => c = d && fits ps cs
termination_by ps cs => (ps.length, cs.length)

-- A text without what a pattern fits at its front or end. Where it fits several stretches, the
-- shortest or the longest is left out.
def trim (atEnd longest : Bool) (p : Pattern) (cs : List Char) : List Char :=
  let sizes := List.range (cs.length + 1)
  let sizes := if longest then sizes.reverse else sizes
  let rest? := sizes.findSome? fun n =>
    if atEnd then
      let k := cs.length - n
      if p.fits (cs.drop k) then some (cs.take k) else none
    else if p.fits (cs.take n) then some (cs.drop n)
    else none
  rest?.getD cs

-- Texts in a row without what a pattern fits in the first one, or behind what it leaves of the last
-- one whose end it fits. The longest end is looked for in the first one only, and if the longest
-- front is all of the first one, nothing is left.
def trimEach (atEnd longest : Bool) (p : Pattern) (texts : List String) : List String :=
  if atEnd then
    let cut (i : Nat) (s : String) : Option (List String) :=
      let cs := s.toList
      let sizes := List.range (cs.length + 1)
      ((if longest then sizes else sizes.reverse).find? fun k => p.fits (cs.drop k)).map fun k =>
        texts.take i ++ [String.ofList (cs.take k)]
    let places := texts.zipIdx
    ((if longest then places.take 1 else places.reverse).findSome? fun (s, i) => cut i s).getD texts
  else
    match texts with
    | [] => []
    | s :: rest =>
      if longest && p.fits s.toList then [""]
      else String.ofList (p.trim false longest s.toList) :: rest

-- Whether a pattern is more than a text that stands for itself.
def isPattern (p : Pattern) : Bool :=
  p.any fun
    | .char _ => false
    | _ => true

end Pattern

end Rulebook.Script
