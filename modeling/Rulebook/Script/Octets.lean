import Rulebook.Bytes

namespace Rulebook.Script

-- Programs read and write bytes. A text of bytes has one character below 256 for each of them.

-- The bytes of a text.
def octets (s : String) : String :=
  String.ofList ((Bytes.ofText s).map fun b => Char.ofNat b.toNat)

-- The text that bytes are, unless they are none.
def text? (bytes : String) : Option String :=
  Bytes.text? (bytes.toList.map fun c => c.toNat.toUInt8)

-- Only the letters of ASCII have two cases.

def lower (s : String) : String :=
  String.ofList (s.toList.map Char.toLower)

def upper (s : String) : String :=
  String.ofList (s.toList.map Char.toUpper)

-- The lines of a text. One that does not end counts too.
def linesOf (s : String) : List String :=
  let parts := (s.toList.splitOn '\n').map String.ofList
  if parts.getLast? = some "" then parts.dropLast else parts

def unlines (lines : List String) : String :=
  String.join (lines.map (· ++ "\n"))

-- White space: blanks, line ends and form feeds.
def isSpace (c : Char) : Bool :=
  c = ' ' || ('\t' ≤ c && c ≤ '\r')

def isNameStart (c : Char) : Bool :=
  c.isAlpha || c = '_'

def isNameChar (c : Char) : Bool :=
  c.isAlphanum || c = '_'

def isName (s : String) : Bool :=
  match s.toList with
  | c :: cs => isNameStart c && cs.all isNameChar
  | [] => false

-- A list in parts of a size, of which the last one may be shorter.
def chunks {α : Type} (size : Nat) : (fuel : Nat) → List α → List (List α)
  | 0, _ => []
  | _ + 1, [] => []
  | fuel + 1, l => l.take size :: chunks size fuel (l.drop size)

-- A text drawn out to a width.

def padLeft (width : Nat) (s : String) : String :=
  String.ofList (List.replicate (width - s.length) ' ') ++ s

def padRight (width : Nat) (s : String) : String :=
  s ++ String.ofList (List.replicate (width - s.length) ' ')

end Rulebook.Script
