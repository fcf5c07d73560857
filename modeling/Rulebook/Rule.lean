import Rulebook.Atom
import Rulebook.Sorted

namespace Rulebook

-- A disjunction of conjunctions, as a list of lists, holds something to choose from and
-- something in each choice.
def hasNoEmptyPart {α : Type} (disjuncts : List (List α)) : Bool :=
  !disjuncts.isEmpty && disjuncts.all (!·.isEmpty)

-- A disjunction of conjunctions in rule syntax.
def disjunctionText {α : Type} (part : α → String) (disjuncts : List (List α)) : String :=
  " | ".intercalate (disjuncts.map fun c => ", ".intercalate (c.map part))

-- An existential rule. The head is a disjunction of conjunctions of atoms, the body one of
-- conjunctions of literals.
structure Rule where
  head : List (List Atom)
  body : List (List Literal)
  head_nonempty : hasNoEmptyPart head = true
  body_nonempty : hasNoEmptyPart body = true
  deriving DecidableEq

namespace Rule

-- Build a rule; the head is looked at first.
def new (head : List (List Atom)) (body : List (List Literal)) : Except ModelError Rule :=
  if hh : hasNoEmptyPart head = true then
    if hb : hasNoEmptyPart body = true then .ok ⟨head, body, hh, hb⟩
    else .error .emptyConjunction
  else .error .emptyHead

-- A rule with one head atom and one positive body atom.
def single (head body : Atom) : Rule where
  head := [[head]]
  body := [[.positive body]]
  head_nonempty := rfl
  body_nonempty := rfl

def headAtoms (r : Rule) : List Atom :=
  r.head.flatten

def bodyLiterals (r : Rule) : List Literal :=
  r.body.flatten

-- The predicates of the head, each once, in order of occurrence.
def headPredicates (r : Rule) : List Predicate :=
  (r.headAtoms.map Atom.predicate).eraseDups

def positiveBody (r : Rule) : List Atom :=
  r.bodyLiterals.filterMap Literal.positive?

def negativeBody (r : Rule) : List Literal :=
  r.bodyLiterals.filter Literal.isNegated

-- The terms of a kind that occur in the rule, in ascending order.
def termsOfKind (kind : TermKind) (r : Rule) : List Term :=
  ((r.headAtoms ++ r.bodyLiterals.map Literal.atom).flatMap Atom.terms).filter (·.kind = kind)
    |>.foldl (fun seen t => Sorted.insert t seen) []

def universalVariables : Rule → List Term :=
  termsOfKind .universal

def existentialVariables : Rule → List Term :=
  termsOfKind .existential

def text (r : Rule) : String :=
  disjunctionText Atom.text r.head ++ " :- " ++ disjunctionText Literal.text r.body ++ " ."

instance : Ord Rule := ⟨compareLex (compareOn head) (compareOn body)⟩

instance : Std.TransOrd Rule :=
  inferInstanceAs (Std.TransCmp (compareLex (compareOn head) (compareOn body)))

instance : Std.LawfulEqOrd Rule where
  eq_of_compare {r s} h := by
    obtain ⟨hh, hb⟩ := compareLex_eq_eq.mp h
    have hh := Std.compare_eq_iff_eq.mp hh
    have hb := Std.compare_eq_iff_eq.mp hb
    cases r
    cases s
    simp_all

end Rule

end Rulebook
