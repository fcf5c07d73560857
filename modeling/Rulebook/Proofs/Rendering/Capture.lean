import Rulebook.Proofs.Rendering.Skolemization
import Rulebook.Proofs.Rendering.Legibility
import Mathlib.Data.List.Forall2

namespace Rulebook.Rendering

-- The names have equal letters and digits at equal places, and other characters at all others.
def Alike (m n : String) : Prop :=
  List.Forall₂ (fun c d => c = d ∨ c.isAlphanum = false ∧ d.isAlphanum = false) m.toList n.toList

-- A letter or digit stays, and nothing else becomes one.
private theorem isAlphanum_ite (c : Char) :
    (if c.isAlphanum then c else '_').isAlphanum = c.isAlphanum := by
  cases h : c.isAlphanum with
  | true => exact h
  | false => rfl

private theorem ite_eq_ite_iff (c d : Char) :
    (if c.isAlphanum then c else '_') = (if d.isAlphanum then d else '_') ↔
      c = d ∨ c.isAlphanum = false ∧ d.isAlphanum = false := by
  constructor
  · intro h
    have hclass := congrArg Char.isAlphanum h
    rw [isAlphanum_ite, isAlphanum_ite] at hclass
    cases hc : c.isAlphanum with
    | true => exact .inl (by simpa [hc, ← hclass] using h)
    | false => exact .inr ⟨rfl, hclass ▸ hc⟩
  · rintro (rfl | ⟨hc, hd⟩)
    · rfl
    · simp [hc, hd]

theorem sanitize_eq_iff {m n : String} : sanitize m = sanitize n ↔ Alike m n := by
  simp only [← String.toList_inj, sanitize, String.toList_ofList, Alike, ← ite_eq_ite_iff]
  rw [← List.forall₂_eq_eq_eq, List.forall₂_map_left_iff, List.forall₂_map_right_iff]

-- Letters and digits are made of themselves only.
theorem sanitize_eq_iff_eq {n w : String} (hw : ∀ c ∈ w.toList, c.isAlphanum = true) :
    sanitize n = w ↔ n = w := by
  have hself {m : String} (hm : ∀ c ∈ m.toList, c.isAlphanum = true) : sanitize m = m := by
    rw [← String.toList_inj, sanitize, String.toList_ofList,
      List.map_congr_left fun c hc => if_pos (hm c hc), List.map_id']
  constructor
  · intro h
    rw [← h, hself]
    intro c hc
    rw [← isAlphanum_ite]
    exact hw _ (by rw [← h, sanitize, String.toList_ofList]; exact List.mem_map_of_mem hc)
  · rintro rfl
    exact hself hw

-- The parenthesis of a Skolem term is in no name.
theorem sanitize_eq_skolemTerm_iff {n : String} {line : Nat} {terms : List Term} :
    sanitize n = skolemTerm line terms ↔
      n = "f" ++ toString line ∧ firstUniversal terms = none := by
  rw [skolemTerm_eq]
  cases firstUniversal terms with
  | none =>
    rw [Option.elim_none, String.append_empty,
      sanitize_eq_iff_eq fun c hc => isAlphanum_of_mem_function hc, and_iff_left rfl]
  | some u =>
    refine iff_of_false (fun h => ?_) fun h => nomatch h.2
    have hword := isWord_sanitize n '(' (by rw [h]; simp)
    cases hword

theorem termText_of_isGround {t : Term} (ht : t.isGround = true) (value : String → String) :
    termText value t = sanitize t.name := by
  cases t with
  | existential z => cases ht
  | constant | universal | langString => rfl

-- A language-tagged string begins with a quote.
theorem name_eq_function_iff {t : Term} (ht : t.isGround = true) {line : Nat} :
    t.name = "f" ++ toString line ↔ t = .constant ("f" ++ toString line) := by
  cases t with
  | constant n => simp [Term.name]
  | universal | existential => cases ht
  | langString v l =>
    simp [Term.name, ← String.toList_inj]

-- A constant or a language-tagged string is taken for a universal variable where the names are
-- alike, and for an existential one if it has the name of the function and the existential variable
-- is met first without a universal one.
theorem termText_eq_iff (solver : Solver) (r : Rule) (index : UInt64) :
    let value := skolemText (index + 1).toNat (visited solver r)
    statement solver index.toNat (.rule r) =
        "\n".intercalate ((ruleTexts solver value r).map LineText.text) ∧
      ∀ a ∈ visited solver r, ∀ t ∈ a.terms, t.isGround = true →
        (∀ b ∈ visited solver r, ∀ x, .universal x ∈ b.terms →
          (termText value t = termText value (.universal x) ↔ Alike t.name x)) ∧
        ∀ b ∈ visited solver r, ∀ z, .existential z ∈ b.terms →
          (termText value t = termText value (.existential z) ↔
            t = .constant ("f" ++ toString (index + 1).toNat) ∧
              companion (visited solver r) z = none) := by
  rw [← lineNumber_toNat]
  refine ⟨rule_eq_ruleTexts solver r _, fun a ha t ht hground =>
    ⟨fun b hb x hx => ?_, fun b hb z hz => ?_⟩⟩
  · rw [termText_of_isGround hground]
    exact sanitize_eq_iff
  · obtain ⟨c, -, -, hskolem, hcompanion⟩ := skolemText_of_mentions (lineNumber index.toNat)
      ⟨b, hb, Atom.mentions_iff.mpr hz⟩
    rw [termText_of_isGround hground, termText, hskolem, hcompanion, sanitize_eq_skolemTerm_iff,
      name_eq_function_iff hground]

-- A variable with the name that a language-tagged string gets.

def tagged : Rule :=
  .single ⟨"p", [.langString "a" "en", .existential "Z", .universal "X"]⟩
    ⟨"q", [.universal "_a__en", .universal "X"]⟩

theorem termText_tagged :
    let value := skolemText 1 (visited .clingo tagged)
    statement .clingo 0 (.rule tagged) = "p(_a__en, f1(X), X) :- q(_a__en, X) ." ∧
      (Term.langString "a" "en").isGround = true ∧
      termText value (.langString "a" "en") = termText value (.universal "_a__en") ∧
      termText value (.langString "a" "en") ≠ termText value (.existential "Z") := by
  obtain ⟨htext, hground⟩ := termText_eq_iff .clingo tagged 0
  obtain ⟨huniversal, hexistential⟩ := hground _ List.mem_cons_self (.langString "a" "en")
    List.mem_cons_self rfl
  refine ⟨htext.trans (by decide +kernel), rfl, ?_, fun h => ?_⟩
  · exact (huniversal _ (List.mem_cons_of_mem _ List.mem_cons_self) "_a__en" (by decide)).mpr
      (by unfold Alike; decide)
  · cases ((hexistential _ List.mem_cons_self "Z" (by decide)).mp h).1

-- Constants with the names of a variable and of the function of the first line.

def capturing : Rule :=
  .single ⟨"p", [.constant "X", .constant "f1", .existential "Z"]⟩ ⟨"q", [.universal "X"]⟩

-- Both solvers are told that each of them is the variable.
theorem termText_capturing :
    statement .clingo 0 (.rule capturing) = "p(X, f1, f1) :- q(X) ." ∧
      statement .dlv 0 (.rule capturing) = "p(X, f1, f1) :- q(X) ." ∧
      (let value := skolemText 1 (visited .clingo capturing)
      termText value (.constant "X") = termText value (.universal "X") ∧
        termText value (.constant "f1") = termText value (.existential "Z")) ∧
      let value := skolemText 1 (visited .dlv capturing)
      termText value (.constant "X") = termText value (.universal "X") ∧
        termText value (.constant "f1") = termText value (.existential "Z") := by
  decide +kernel

end Rulebook.Rendering
