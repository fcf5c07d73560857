import Rulebook.Script.Pattern

namespace Rulebook.Script

-- What becomes of a word: characters, and marks that tell how it falls into fields.
inductive Cell
  -- a quoted character is not special in patterns, and one that splits may separate fields
  | char (c : Char) (quoted splits : Bool)
  -- there is a field here, though it may be empty
  | mark
  -- one field ends and another one may begin
  | cut
  deriving DecidableEq

namespace Cell

def ofText (quoted splits : Bool) (s : String) : List Cell :=
  s.toList.map (.char · quoted splits)

def char? : Cell → Option Char
  | char c _ _ => some c
  | _ => none

-- The text of cells, where fields do not matter.
def text (cells : List Cell) : String :=
  String.ofList (cells.filterMap char?)

def source? : Cell → Option (Char × Bool)
  | char c quoted _ => some (c, quoted)
  | _ => none

-- The pattern that cells are.
def pattern (cells : List Cell) : Pattern :=
  .ofSource (cells.filterMap source?)

-- What came before the place where a word is being split.
inductive Before
  | nothing
  | field (cells : List Cell)
  -- a field that blanks have ended, so that one more separator may follow them
  | blanks

-- Split cells into fields. Neighbouring blanks separate once, every other separator separates, and
-- nothing follows the last one. The cells of a field come last first.
def split (separators : List Char) : Before → List Cell → List (List Cell)
  | .field f, [] => [f.reverse]
  | _, [] => []
  | .field f, .mark :: r => split separators (.field f) r
  | _, .mark :: r => split separators (.field []) r
  | .field f, .cut :: r => f.reverse :: split separators .nothing r
  | _, .cut :: r => split separators .nothing r
  | before, .char c quoted splits :: r =>
    if splits && c ∈ separators then
      if isSpace c then
        match before with
        | .field f => f.reverse :: split separators .blanks r
        | other => split separators other r
      else
        match before with
        | .field f => f.reverse :: split separators .nothing r
        | .blanks => split separators .nothing r
        | .nothing => [] :: split separators .nothing r
    else
      match before with
      | .field f => split separators (.field (.char c quoted splits :: f)) r
      | _ => split separators (.field [.char c quoted splits]) r

def fields (separators : List Char) (cells : List Cell) : List (List Cell) :=
  split separators .nothing cells

-- Whether a field may fit names of files.
def isPattern (field : List Cell) : Bool :=
  (pattern field).isPattern

-- The parts of a field between slashes.
def segments (field : List Cell) : List (List Cell) :=
  field.splitOnP fun c => c.char? = some '/'

end Cell

end Rulebook.Script
