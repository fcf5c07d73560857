import Rulebook.Proofs.Lines
import Rulebook.Proofs.Naming
import Rulebook.Proofs.Rendering.Distinction

namespace Rulebook.Rendering

-- What stands for an existential variable is told by the first atom with it: a function, named by
-- the line, of the first universal variable there, or the bare name if there is none.
def Skolemized (line : Nat) (atoms : List Atom) (value : String → String) : Prop :=
  ∀ before a after z, atoms = before ++ a :: after → (∀ b ∈ before, b.mentions z = false) →
    a.mentions z = true →
      value z = "f" ++ toString line ++
        (firstUniversal a.terms).elim "" fun u => "(" ++ u ++ ")"

theorem skolemized_skolemText (line : Nat) (atoms : List Atom) :
    Skolemized line atoms (skolemText line atoms) := by
  rintro before a after z rfl hbefore ha
  have hfind : (before ++ a :: after).find? (·.mentions z) = some a := by
    rw [List.find?_append, List.find?_eq_none.mpr fun b hb => by simp [hbefore b hb],
      Option.none_or, List.find?_cons_of_pos ha]
  rw [skolemText, hfind, ← skolemTerm_eq]

theorem lineNumber_toNat (index : UInt64) : lineNumber index.toNat = (index + 1).toNat :=
  (UInt64.toNat_add index 1).symm

-- A rule is rendered atom by atom, without the negated ones, and what stands for its existential
-- variables does not depend on how far the rendering has come. For DLV each atom of a single
-- conjunction comes with the body behind it, and so the body is before the next atom.
theorem statement_rule_eq (r : Rule) (index : UInt64) :
    (∀ solver, solver = .clingo ∨ r.head.length ≠ 1 → ∃ value,
      Skolemized (index + 1).toNat (r.head.flatten ++ (positivePart r.body).flatten) value ∧
        statement solver index.toNat (.rule r) =
          (ruleText value r.head (positivePart r.body)).text) ∧
      ∀ conjunction, r.head = [conjunction] → ∃ value,
        Skolemized (index + 1).toNat
            (conjunction.flatMap fun a => a :: (positivePart r.body).flatten) value ∧
          statement .dlv index.toNat (.rule r) = "\n".intercalate
            (conjunction.map fun a => (ruleText value [[a]] (positivePart r.body)).text) := by
  refine ⟨fun solver h => ⟨_, skolemized_skolemText _ _, ?_⟩,
    fun conjunction hr => ⟨_, skolemized_skolemText _ _, ?_⟩⟩
  · rw [statement, rule_eq_ruleTexts, lineNumber_toNat, visited_eq h, ruleTexts,
      heads_eq_singleton h]
    rfl
  · rw [statement, rule_eq_ruleTexts, lineNumber_toNat, visited_dlv hr, ruleTexts, heads_dlv hr,
      List.map_map, List.map_map]
    rfl

-- A variable that the second head atom and the body share, and a negated atom with it.

def scattered : Rule where
  head := [[⟨"r", [.universal "X"]⟩, ⟨"s", [.universal "X", .existential "Z"]⟩]]
  body := [[.positive ⟨"b", [.universal "Y", .existential "Z"]⟩,
    .negative ⟨"c", [.existential "Z"]⟩]]
  head_nonempty := rfl
  body_nonempty := rfl

theorem statement_scattered :
    scattered.head = [[⟨"r", [.universal "X"]⟩, ⟨"s", [.universal "X", .existential "Z"]⟩]] ∧
      (∃ value : String → String, value "Z" = "f4(X)" ∧
        statement .clingo 3 (.rule scattered) =
          (ruleText value scattered.head (positivePart scattered.body)).text) ∧
      statement .clingo 3 (.rule scattered) = "r(X), s(X, f4(X)) :- b(Y, f4(X)) ." ∧
      (∃ value : String → String, value "Z" = "f4(Y)" ∧
        statement .dlv 3 (.rule scattered) = "\n".intercalate
          [(ruleText value [[⟨"r", [.universal "X"]⟩]] (positivePart scattered.body)).text,
            (ruleText value [[⟨"s", [.universal "X", .existential "Z"]⟩]]
              (positivePart scattered.body)).text]) ∧
      statement .dlv 3 (.rule scattered) =
        "r(X) :- b(Y, f4(Y)) .\ns(X, f4(Y)) :- b(Y, f4(Y)) ." := by
  obtain ⟨hone, hsplit⟩ := statement_rule_eq scattered 3
  obtain ⟨value, hvalue, htext⟩ := hone .clingo (.inl rfl)
  obtain ⟨value', hvalue', htexts⟩ := hsplit _ rfl
  have hz : value "Z" = "f4(X)" := hvalue [_] _ _ "Z" rfl (by decide) (by decide)
  have hz' : value' "Z" = "f4(Y)" := hvalue' [_] _ _ "Z" rfl (by decide) (by decide)
  exact ⟨rfl, ⟨value, hz, htext⟩, by decide +kernel, ⟨value', hz', htexts⟩, by decide +kernel⟩

-- The atoms of a statement in the order in which they are rendered.
def rendered (solver : Solver) : Statement → List Atom
  | .fact f => [f.atom]
  | .rule r => visited solver r
  | .dataSource _ => []

-- The lines of a statement.
def statementTexts (solver : Solver) (value : String → String) : Statement → List LineText
  | .fact f => [.fact (atomText value f.atom)]
  | .rule r => ruleTexts solver value r
  | .dataSource _ => [.blank]

theorem statement_eq_statementTexts (solver : Solver) (index : Nat) (s : Statement) :
    statement solver index s = "\n".intercalate
      ((statementTexts solver (skolemText (lineNumber index) (rendered solver s)) s).map
        LineText.text) := by
  cases s with
  | fact f => exact statement_clingo index (.fact f)
  | rule r => exact rule_eq_ruleTexts solver r index
  | dataSource d => rfl

theorem lineNumber_inj {i j : Nat} (hi : i < UInt64.size) (hj : j < UInt64.size)
    (h : lineNumber i = lineNumber j) : i = j := by
  unfold UInt64.size at hi hj
  unfold lineNumber at h
  omega

-- The number of the line ends where no further digit follows.
theorem line_eq_of_skolemTerm_eq {line line' : Nat} {terms terms' : List Term}
    (h : skolemTerm line terms = skolemTerm line' terms') : line = line' := by
  have hdigits (line : Nat) (terms : List Term) :
      (skolemTerm line terms).toList.tail.takeWhile Char.isDigit = (toString line).toList := by
    rw [skolemTerm_eq, String.append_assoc, String.toList_append, String.toList_append,
      show "f".toList = ['f'] from rfl, List.singleton_append, List.tail_cons]
    refine takeWhile_front (fun c hc => isDigit_of_mem_toString hc) ?_
    cases firstUniversal terms <;> simp
  have hline := hdigits line terms
  rw [h, hdigits] at hline
  exact toString_inj (String.toList_inj.mp hline).symm

-- No two statements of a program share what stands for their existential variables.
theorem program_eq_and_skolemText_ne (statements : List Statement)
    (hlength : statements.length ≤ UInt64.size) :
    (∀ solver, program solver statements = String.join (statements.mapIdx fun i s =>
      "\n".intercalate
        ((statementTexts solver (skolemText (lineNumber i) (rendered solver s)) s).map
          LineText.text) ++ "\n")) ∧
      ∀ i j s t, statements[i]? = some s → statements[j]? = some t → i ≠ j →
        ∀ solver solver' y z, (∃ a ∈ rendered solver s, a.mentions y) →
          (∃ a ∈ rendered solver' t, a.mentions z) →
            skolemText (lineNumber i) (rendered solver s) y ≠
              skolemText (lineNumber j) (rendered solver' t) z := by
  refine ⟨fun solver => ?_, fun i j s t hs ht hij solver solver' y z hy hz heq => hij ?_⟩
  · simp only [program, List.mapIdx_eq_zipIdx_map, statement_eq_statementTexts]
  · obtain ⟨hi, -⟩ := List.getElem?_eq_some_iff.mp hs
    obtain ⟨hj, -⟩ := List.getElem?_eq_some_iff.mp ht
    obtain ⟨a, -, -, ha, -⟩ := skolemText_of_mentions (lineNumber i) hy
    obtain ⟨b, -, -, hb, -⟩ := skolemText_of_mentions (lineNumber j) hz
    rw [ha, hb] at heq
    exact lineNumber_inj (by omega) (by omega) (line_eq_of_skolemTerm_eq heq)

-- Variables that are named by digits, and a rule that is there twice.

def numbered : Statement :=
  .rule (.single ⟨"p", [.universal "1", .existential "1"]⟩ ⟨"q", [.universal "1"]⟩)

theorem program_numbered :
    [numbered, numbered].length ≤ UInt64.size ∧
      program .dlv [numbered, numbered] = "p(1, f1(1)) :- q(1) .\np(1, f2(1)) :- q(1) .\n" ∧
      skolemText 1 (rendered .dlv numbered) "1" ≠ skolemText 2 (rendered .dlv numbered) "1" := by
  have hlength : [numbered, numbered].length ≤ UInt64.size := by decide
  obtain ⟨htext, hne⟩ := program_eq_and_skolemText_ne [numbered, numbered] hlength
  refine ⟨hlength, (htext .dlv).trans (by decide +kernel), ?_⟩
  exact hne 0 1 _ _ rfl rfl (by decide) .dlv .dlv "1" "1" ⟨_, List.mem_cons_self, by decide⟩
    ⟨_, List.mem_cons_self, by decide⟩

end Rulebook.Rendering
