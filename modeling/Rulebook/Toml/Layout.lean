namespace Rulebook.Toml

-- A reader takes something from the front of a text and gives the rest, or refuses the text.
abbrev Reader (α : Type) := List Char → Option (α × List Char)

def isBlank (c : Char) : Bool :=
  c = ' ' || c = '\t'

-- What may stand in a comment or between quotes: all but controls. The tab is no control here.
def isPlain (c : Char) : Bool :=
  c = '\t' || (0x20 ≤ c.toNat && c.toNat ≠ 0x7f)

def skipBlanks (cs : List Char) : List Char :=
  cs.dropWhile isBlank

-- A line ends with a line feed, perhaps after a carriage return.
def lineBreak? : List Char → Option (List Char)
  | '\n' :: r => some r
  | '\r' :: '\n' :: r => some r
  | _ => none

def skipComment : List Char → List Char
  | '#' :: r => r.dropWhile isPlain
  | cs => cs

-- After the last thing on a line only a comment may follow. The last line needs no end.
def endLine? (cs : List Char) : Option (List Char) :=
  match skipComment (skipBlanks cs) with
  | [] => some []
  | r => lineBreak? r

-- Blanks, line ends and comments, which may stand between the items of an array. Every step
-- takes at least one character.
def skipGapWithin : (fuel : Nat) → List Char → List Char
  | 0, cs => cs
  | fuel + 1, cs =>
    match skipComment (skipBlanks cs) with
    | r =>
      match lineBreak? r with
      | some r => skipGapWithin fuel r
      | none => r

def skipGap (cs : List Char) : List Char :=
  skipGapWithin cs.length cs

-- A character that has to come next.
def expect (c : Char) : List Char → Option (List Char)
  | d :: r => if c = d then some r else none
  | [] => none

-- Items with separators between them, as long as items come. A separator that no item follows is
-- left alone. Every step takes at least one character.
def separatedWithin {α : Type} (separator : Char) (item : Reader α) :
    (fuel : Nat) → List Char → List α × List Char
  | 0, cs => ([], cs)
  | fuel + 1, cs =>
    match item cs with
    | none => ([], cs)
    | some (a, r) =>
      match expect separator r with
      | none => ([a], r)
      | some next =>
        match separatedWithin separator item fuel next with
        | ([], _) => ([a], r)
        | (as, r) => (a :: as, r)

def separated {α : Type} (separator : Char) (item : Reader α) (cs : List Char) :
    List α × List Char :=
  separatedWithin separator item (cs.length + 1) cs

end Rulebook.Toml
