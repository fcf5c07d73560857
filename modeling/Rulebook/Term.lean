import Rulebook.ModelError
import Rulebook.Text.Blank

namespace Rulebook

-- An argument of an atom.
inductive Term
  | constant (name : String)
  | universal (name : String)
  | existential (name : String)
  | langString (value lang : String)
  deriving DecidableEq, Inhabited

inductive TermKind
  | constant
  | universal
  | existential
  | langString
  deriving DecidableEq

def TermKind.text : TermKind → String
  | .constant => "Constant"
  | .universal => "UniversalVariable"
  | .existential => "ExistentialVariable"
  | .langString => "LanguageString"

-- Inside the quotes of a language-tagged string, a quote and a backslash follow a backslash.
def escapeQuotes (cs : List Char) : List Char :=
  cs.flatMap fun c => if c = '\\' || c = '"' then ['\\', c] else [c]

namespace Term

-- A language-tagged string needs a tag that is not blank.
def langString? (value lang : String) : Except ModelError Term :=
  if Text.isBlank lang then .error (.blankLanguageTag value) else .ok (langString value lang)

def kind : Term → TermKind
  | constant _ => .constant
  | universal _ => .universal
  | existential _ => .existential
  | langString _ _ => .langString

-- The name under which a term is handed on: for a language-tagged string its quoted value and
-- its tag.
def name : Term → String
  | constant n => n
  | universal n => n
  | existential n => n
  | langString value lang =>
    String.ofList ('"' :: escapeQuotes value.toList ++ ['"', '@'] ++ lang.toList)

-- How a term is shown: variables carry a mark of their kind.
def text : Term → String
  | universal n => "?" ++ n
  | existential n => "!" ++ n
  | t => t.name

def isVariable : Term → Bool
  | universal _ => true
  | existential _ => true
  | _ => false

-- Constants and language-tagged strings are ground.
def isGround (t : Term) : Bool :=
  !t.isVariable

-- A language-tagged string always has a name, if only its quotes.
def hasEmptyName : Term → Bool
  | constant n => n.isEmpty
  | universal n => n.isEmpty
  | existential n => n.isEmpty
  | langString _ _ => false

-- Terms are ordered by kind, then by their texts.

def rank : Term → Nat
  | constant _ => 0
  | universal _ => 1
  | existential _ => 2
  | langString _ _ => 3

def parts : Term → List String
  | constant n => [n]
  | universal n => [n]
  | existential n => [n]
  | langString value lang => [value, lang]

instance : Ord Term := ⟨compareLex (compareOn rank) (compareOn parts)⟩

instance : Std.TransOrd Term :=
  inferInstanceAs (Std.TransCmp (compareLex (compareOn rank) (compareOn parts)))

theorem eq_of_rank_of_parts {s t : Term} (hr : s.rank = t.rank) (hp : s.parts = t.parts) :
    s = t := by
  cases s <;> cases t <;> simp_all [rank, parts]

instance : Std.LawfulEqOrd Term where
  eq_of_compare {s t} h := by
    obtain ⟨hr, hp⟩ := compareLex_eq_eq.mp h
    exact eq_of_rank_of_parts (Std.compare_eq_iff_eq.mp hr) (Std.compare_eq_iff_eq.mp hp)

end Term

end Rulebook
