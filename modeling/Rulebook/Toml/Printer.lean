import Rulebook.Toml.Quoted

namespace Rulebook.Toml

-- What a setting can be.
inductive Item
  | text (value : String)
  | count (value : Nat)
  | flag (value : Bool)
  | texts (values : List String)
  deriving DecidableEq

-- Named settings below a header.
structure Section where
  name : String
  items : List (String × Item)
  deriving DecidableEq

-- Whole numbers in a document have 64 bits, one of them for the sign.
def Item.fits : Item → Bool
  | .count n => n < 0x8000000000000000
  | _ => true

-- Arrays of several items take a line for each of them.
def arrayText : List String → String
  | [] => "[]"
  | [v] => "[" ++ v ++ "]"
  | vs => "[\n" ++ String.join (vs.map fun v => "    " ++ v ++ ",\n") ++ "]"

def Item.print : Item → String
  | .text s => quotedText s
  | .count n => toString n
  | .flag true => "true"
  | .flag false => "false"
  | .texts l => arrayText (l.map quotedText)

def Section.print (s : Section) : String :=
  "[" ++ s.name ++ "]\n" ++ String.join (s.items.map fun i => i.1 ++ " = " ++ i.2.print ++ "\n")

-- Sections with an empty line between them, if all their numbers can be written.
def print? (sections : List Section) : Option String :=
  if sections.all fun s => s.items.all (·.2.fits) then
    some ("\n".intercalate (sections.map Section.print))
  else none

def Item.toJson : Item → Json
  | .text s => .string s
  | .count n => .ofNat n
  | .flag b => .bool b
  | .texts l => .strings l

def Section.toJson (s : Section) : Json :=
  .object (s.items.map fun i => (i.1, i.2.toJson))

end Rulebook.Toml
