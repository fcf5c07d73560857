import Rulebook.Alias
import Rulebook.Proofs.Naming
import Rulebook.Reasoner.Backend
import Mathlib.Logic.Function.Basic

namespace Rulebook

-- A rule that Datalog knows: some atoms follow from some others, and all variables are universal.
structure Rule.IsDatalog (r : Rule) : Prop where
  head : r.head.length = 1
  body : r.body.length = 1
  positive : r.negativeBody = []
  universal : r.existentialVariables = []

-- The value of a term under an assignment of values to universal variables. Ground terms stand
-- for their names.
def Term.value (σ : String → String) : Term → String
  | universal n => σ n
  | t => t.name

def Atom.row (σ : String → String) (a : Atom) : Row :=
  a.terms.map (Term.value σ)

def Fact.row (f : Fact) : Row :=
  f.terms.map Term.name

-- What follows from given rows by Datalog rules. Predicates are known by names of some kind.
inductive Derivable {κ : Type} (name : Predicate → κ) (given : κ → Row → Prop)
    (rules : List Rule) : κ → Row → Prop
  | given {k : κ} {row : Row} (h : given k row) : Derivable name given rules k row
  | rule {r : Rule} {head : Atom} (σ : String → String) (hr : r ∈ rules) (hd : r.IsDatalog)
      (hbody : ∀ a ∈ r.positiveBody,
        Derivable name given rules (name a.predicate) (a.row σ))
      (hhead : head ∈ r.headAtoms) :
      Derivable name given rules (name head.predicate) (head.row σ)

-- Some assignment gives any row at all to as many numbered variables.
theorem exists_value_numberedVariables (row : Row) :
    ∃ σ, (numberedVariables row.length).map (Term.value σ) = row := by
  let label (i : Nat) : String := "X" ++ toString (i + 1)
  have hlabel : Function.Injective label := by
    intro i j h
    have h := toString_inj ((String.append_right_inj "X").mp h)
    omega
  refine ⟨Function.extend label (fun i => row.getD i "") fun _ => "", ?_⟩
  apply List.ext_getElem
  · simp [numberedVariables]
  · intro i hi hi'
    have h := hlabel.extend_apply (fun i => row.getD i "") (fun _ => "") i
    simpa [numberedVariables, Term.value, label, hi'] using h

private theorem filter_numberedVariables (n : Nat) :
    (numberedVariables n).filter (·.kind = .existential) = [] := by
  rw [List.filter_eq_nil_iff]
  intro t ht
  obtain ⟨i, -, rfl⟩ := List.mem_map.mp ht
  simp [Term.kind]

theorem importRule_isDatalog (p stand : Predicate) : (importRule p stand).IsDatalog where
  head := rfl
  body := rfl
  positive := by simp [importRule, Rule.single, Rule.negativeBody, Rule.bodyLiterals,
    Literal.isNegated]
  universal := by
    simp [importRule, Rule.single, Rule.existentialVariables, Rule.termsOfKind, Rule.headAtoms,
      Rule.bodyLiterals, Literal.atom, Predicate.generalAtom, filter_numberedVariables]

-- An import rule hands on every row that fits the predicate.
theorem Derivable.import {κ : Type} {name : Predicate → κ} {given : κ → Row → Prop}
    {rules : List Rule} {p stand : Predicate} {row : Row} (hr : importRule p stand ∈ rules)
    (harity : stand.arity = p.arity) (hlength : row.length = p.arity)
    (h : Derivable name given rules (name stand) row) :
    Derivable name given rules (name p) row := by
  obtain ⟨σ, hσ⟩ := exists_value_numberedVariables row
  have hrow (q : Predicate) (hq : q.arity = p.arity) : q.generalAtom.row σ = row := by
    simpa [Atom.row, Predicate.generalAtom, hq, ← hlength] using hσ
  have hhead : p.generalAtom ∈ (importRule p stand).headAtoms := by
    simp [importRule, Rule.single, Rule.headAtoms]
  have hbody : ∀ a ∈ (importRule p stand).positiveBody,
      Derivable name given rules (name a.predicate) (a.row σ) := by
    intro a ha
    simp only [importRule, Rule.single, Rule.positiveBody, Rule.bodyLiterals,
      List.flatten_cons, List.flatten_nil, List.append_nil, List.filterMap_cons,
      Literal.positive?, List.filterMap_nil, List.mem_singleton] at ha
    subst ha
    rwa [Predicate.predicate_generalAtom, hrow stand harity]
  have hd := Derivable.rule σ hr (importRule_isDatalog p stand) hbody hhead
  rwa [Predicate.predicate_generalAtom, hrow p rfl] at hd

end Rulebook
