import Rulebook.Proofs.Rendering.Occurrence

namespace Rulebook.Rendering

-- The first universal variable among some terms, as it is rendered.
def firstUniversal (terms : List Term) : Option String :=
  (terms.find? (·.kind = .universal)).map fun u => sanitize u.name

-- The universal variable that an existential one is rendered as a function of, if there is one.
def companion (atoms : List Atom) (z : String) : Option String :=
  (atoms.find? (·.mentions z)).bind fun a => firstUniversal a.terms

theorem skolemTerm_eq (line : Nat) (terms : List Term) :
    skolemTerm line terms =
      "f" ++ toString line ++ ((firstUniversal terms).elim "" fun u => "(" ++ u ++ ")") := by
  unfold skolemTerm firstUniversal
  cases terms.find? (·.kind = .universal) <;> simp [String.append_assoc]

-- On one line nothing but the universal variable makes a difference.
theorem skolemTerm_eq_iff (line : Nat) (terms terms' : List Term) :
    skolemTerm line terms = skolemTerm line terms' ↔
      firstUniversal terms = firstUniversal terms' := by
  rw [skolemTerm_eq, skolemTerm_eq, String.append_right_inj]
  cases firstUniversal terms <;> cases firstUniversal terms' <;>
    simp [← String.toList_inj]

theorem skolemText_of_mentions (line : Nat) {atoms : List Atom} {z : String}
    (hz : ∃ a ∈ atoms, a.mentions z) :
    ∃ a ∈ atoms, a.mentions z ∧ skolemText line atoms z = skolemTerm line a.terms ∧
      companion atoms z = firstUniversal a.terms := by
  cases hfind : atoms.find? (·.mentions z) with
  | none =>
    obtain ⟨a, ha, hz⟩ := hz
    exact absurd hz (List.find?_eq_none.mp hfind a ha)
  | some a =>
    refine ⟨a, List.mem_of_find?_eq_some hfind, List.find?_some hfind, ?_, ?_⟩
    · rw [skolemText, hfind]
    · rw [companion, hfind, Option.bind_some]

-- Two existential variables of a rule are told apart by the first universal variables beside them
-- where they are met first, and by nothing else.
theorem skolemText_ne_iff (solver : Solver) (r : Rule) (index : Nat) :
    rule solver r (.start index) = "\n".intercalate
        ((ruleTexts solver (skolemText (lineNumber index) (visited solver r)) r).map
          LineText.text) ∧
      ∀ y z, (∃ a ∈ visited solver r, a.mentions y) → (∃ a ∈ visited solver r, a.mentions z) →
        (skolemText (lineNumber index) (visited solver r) y ≠
            skolemText (lineNumber index) (visited solver r) z ↔
          companion (visited solver r) y ≠ companion (visited solver r) z) := by
  refine ⟨rule_eq_ruleTexts solver r index, fun y z hy hz => not_congr ?_⟩
  obtain ⟨a, -, -, hskolem, hcompanion⟩ := skolemText_of_mentions (lineNumber index) hy
  obtain ⟨b, -, -, hskolem', hcompanion'⟩ := skolemText_of_mentions (lineNumber index) hz
  rw [hskolem, hskolem', hcompanion, hcompanion']
  exact skolemTerm_eq_iff _ _ _

-- Two existential variables beside the same universal one.

def pairing : Rule :=
  .single ⟨"p", [.universal "X", .existential "Y", .existential "Z"]⟩ ⟨"q", [.universal "X"]⟩

-- Both solvers are told that the two are the same.
theorem skolemText_pairing :
    rule .clingo pairing (.start 0) = "p(X, f1(X), f1(X)) :- q(X) ." ∧
      rule .dlv pairing (.start 0) = "p(X, f1(X), f1(X)) :- q(X) ." ∧
      (∃ a ∈ visited .clingo pairing, a.mentions "Y" ∧ a.mentions "Z") ∧
      skolemText 1 (visited .clingo pairing) "Y" = skolemText 1 (visited .clingo pairing) "Z" ∧
      skolemText 1 (visited .dlv pairing) "Y" = skolemText 1 (visited .dlv pairing) "Z" := by
  decide +kernel

end Rulebook.Rendering
