import Rulebook.Declaration.Identifier
import Rulebook.Rule

namespace Rulebook

-- What follows the name of a predicate in the name of a stand-in for one of its sources.
def Declaration.aliasMark (d : Declaration) : String :=
  if d.isLocalFacts then "##FACT" else "##" ++ d.identifier

-- The predicate that stands in for one source of a predicate with several.
def Declaration.alias (d : Declaration) : Predicate :=
  ⟨d.predicate.name ++ d.aliasMark, d.predicate.arity⟩

-- The variables X1, X2 and so on.
def numberedVariables (count : Nat) : List Term :=
  (List.range count).map fun i => .universal ("X" ++ toString (i + 1))

-- The most general atom of a predicate.
def Predicate.generalAtom (p : Predicate) : Atom :=
  ⟨p.name, numberedVariables p.arity⟩

-- The rule that hands the tuples of a stand-in on to the predicate itself.
def importRule (p stand : Predicate) : Rule :=
  Rule.single p.generalAtom stand.generalAtom

theorem Predicate.predicate_generalAtom {p : Predicate} : p.generalAtom.predicate = p := by
  simp [generalAtom, Atom.predicate, numberedVariables]

end Rulebook
