namespace Rulebook

-- A relation symbol. The same name with another arity is another predicate.
structure Predicate where
  name : String
  arity : Nat
  deriving DecidableEq, Inhabited

namespace Predicate

def text (p : Predicate) : String :=
  p.name ++ "[" ++ toString p.arity ++ "]"

-- The name by which an engine knows the predicate.
def engineName (p : Predicate) : String :=
  p.name ++ "-" ++ toString p.arity

instance : Ord Predicate := ⟨compareLex (compareOn name) (compareOn arity)⟩

instance : Std.TransOrd Predicate :=
  inferInstanceAs (Std.TransCmp (compareLex (compareOn name) (compareOn arity)))

instance : Std.LawfulEqOrd Predicate where
  eq_of_compare {p q} h := by
    obtain ⟨hn, ha⟩ := compareLex_eq_eq.mp h
    cases p
    cases q
    simp only [mk.injEq]
    exact ⟨Std.compare_eq_iff_eq.mp hn, Std.compare_eq_iff_eq.mp ha⟩

end Predicate

end Rulebook
