import Rulebook.Predicate
import Rulebook.Term

namespace Rulebook

-- A predicate name applied to terms. The arity of the predicate is the number of terms.
structure Atom where
  name : String
  terms : List Term
  deriving DecidableEq, Inhabited

namespace Atom

-- Build an atom whose names are not empty. The predicate is looked at first.
def new (name : String) (terms : List Term) : Except ModelError Atom :=
  if name.isEmpty then .error (.emptyName .predicate)
  else if terms.any Term.hasEmptyName then .error (.emptyName .term)
  else .ok ⟨name, terms⟩

def predicate (a : Atom) : Predicate :=
  ⟨a.name, a.terms.length⟩

def text (a : Atom) : String :=
  a.name ++ "(" ++ ", ".intercalate (a.terms.map Term.text) ++ ")"

-- The first occurrences of the terms that a test keeps, in order.
def distinctTerms (keep : Term → Bool) (a : Atom) : List Term :=
  (a.terms.filter keep).eraseDups

def allVariables : Atom → List Term :=
  distinctTerms Term.isVariable

def universalVariables : Atom → List Term :=
  distinctTerms (·.kind = .universal)

def existentialVariables : Atom → List Term :=
  distinctTerms (·.kind = .existential)

def constants : Atom → List Term :=
  distinctTerms Term.isGround

def isGround (a : Atom) : Bool :=
  a.terms.all Term.isGround

instance : Ord Atom := ⟨compareLex (compareOn predicate) (compareOn terms)⟩

instance : Std.TransOrd Atom :=
  inferInstanceAs (Std.TransCmp (compareLex (compareOn predicate) (compareOn terms)))

instance : Std.LawfulEqOrd Atom where
  eq_of_compare {a b} h := by
    obtain ⟨hp, ht⟩ := compareLex_eq_eq.mp h
    have hp := Std.compare_eq_iff_eq.mp hp
    cases a
    cases b
    simp only [mk.injEq]
    exact ⟨congrArg Predicate.name hp, Std.compare_eq_iff_eq.mp ht⟩

end Atom

-- An atom as it occurs in a rule body.
inductive Literal
  | positive (atom : Atom)
  | negative (atom : Atom)
  deriving DecidableEq

namespace Literal

def atom : Literal → Atom
  | positive a => a
  | negative a => a

def isNegated : Literal → Bool
  | positive _ => false
  | negative _ => true

def positive? : Literal → Option Atom
  | positive a => some a
  | negative _ => none

def text : Literal → String
  | positive a => a.text
  | negative a => "~" ++ a.text

instance : Ord Literal := ⟨compareLex (compareOn isNegated) (compareOn atom)⟩

instance : Std.TransOrd Literal :=
  inferInstanceAs (Std.TransCmp (compareLex (compareOn isNegated) (compareOn atom)))

instance : Std.LawfulEqOrd Literal where
  eq_of_compare {k l} h := by
    obtain ⟨hn, ha⟩ := compareLex_eq_eq.mp h
    have hn := Std.compare_eq_iff_eq.mp hn
    have ha := Std.compare_eq_iff_eq.mp ha
    cases k <;> cases l <;> simp_all [isNegated, atom]

end Literal

-- A ground atom that holds.
structure Fact where
  atom : Atom
  ground : atom.isGround = true
  deriving DecidableEq

namespace Fact

def new (a : Atom) : Except ModelError Fact :=
  if h : a.isGround = true then .ok ⟨a, h⟩ else .error (.nonGroundFact a.text)

def predicate (f : Fact) : Predicate :=
  f.atom.predicate

def terms (f : Fact) : List Term :=
  f.atom.terms

def text (f : Fact) : String :=
  f.atom.text ++ " ."

instance : Ord Fact := ⟨compareOn atom⟩

end Fact

end Rulebook
