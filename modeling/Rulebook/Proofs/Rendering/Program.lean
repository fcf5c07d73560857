import Rulebook.Proofs.Lines
import Rulebook.Proofs.Rendering.Grammar
import Mathlib.Data.List.Basic

namespace Rulebook.Rendering

-- What a solver reads of the statement at a position, line by line.
def linesOf (solver : Solver) (index : Nat) : Statement → List LineText
  | .fact f => [.fact (atomText (skolemText (lineNumber index) [f.atom]) f.atom)]
  | .rule r => ruleTexts solver (skolemText (lineNumber index) (visited solver r)) r
  | .dataSource _ => [.blank]

theorem linesOf_clingo (index : Nat) (s : Statement) :
    linesOf .clingo index s = [lineText index s] := by
  cases s <;> rfl

theorem linesOf_ne_nil (solver : Solver) (index : Nat) (s : Statement) :
    linesOf solver index s ≠ [] := by
  cases s with
  | fact f | dataSource d => exact List.cons_ne_nil _ _
  | rule r => simpa [linesOf, ruleTexts] using heads_ne_nil solver r

theorem legal_of_mem_linesOf {s : Statement} (h : s.Made) (solver : Solver) (index : Nat) :
    ∀ l ∈ linesOf solver index s, l.Legal := by
  have hs := h.checked
  cases s with
  | fact f =>
    rintro l hl
    obtain rfl := List.mem_singleton.mp hl
    exact legal_of_mem _ List.mem_cons_self hs
  | rule r => exact legal_of_mem_ruleTexts hs _
  | dataSource d =>
    rintro l hl
    obtain rfl := List.mem_singleton.mp hl
    exact trivial

theorem statement_eq_linesOf (solver : Solver) (index : Nat) (s : Statement) :
    statement solver index s = "\n".intercalate ((linesOf solver index s).map LineText.text) := by
  cases s with
  | fact f =>
    have htext : statement solver index (.fact f) = (lineText index (.fact f)).text :=
      statement_clingo index (.fact f)
    rw [htext, linesOf]
    simp [lineText]
  | rule r => exact rule_eq_ruleTexts solver r index
  | dataSource d => rfl

-- What a solver reads of a list of statements, line by line.
def programLines (solver : Solver) (statements : List Statement) : List LineText :=
  (statements.mapIdx (linesOf solver)).flatten

-- For clingo there is one line for each statement.
def lineTexts (statements : List Statement) : List LineText :=
  statements.mapIdx lineText

theorem programLines_clingo (statements : List Statement) :
    programLines .clingo statements = lineTexts statements := by
  rw [programLines, lineTexts, funext₂ linesOf_clingo]
  simp only [List.mapIdx_eq_zipIdx_map, ← List.flatMap_def]
  exact (List.map_eq_flatMap).symm

theorem legal_of_mem_programLines {statements : List Statement} (h : ∀ s ∈ statements, s.Made)
    (solver : Solver) : ∀ l ∈ programLines solver statements, l.Legal := by
  intro l hl
  obtain ⟨ls, hls, hl⟩ := List.mem_flatten.mp hl
  obtain ⟨i, hi, rfl⟩ := List.mem_mapIdx.mp hls
  exact legal_of_mem_linesOf (h _ (List.getElem_mem hi)) solver i l hl

-- A program consists of its lines, with a newline after each.
theorem toList_program (solver : Solver) (statements : List Statement) :
    (program solver statements).toList =
      ((programLines solver statements).map (·.text.toList)).flatMap (· ++ ['\n']) := by
  have hlines (s : Statement × Nat) : (statement solver s.2 s.1 ++ "\n").toList =
      (linesOf solver s.2 s.1).flatMap (·.text.toList ++ ['\n']) := by
    have hne : (linesOf solver s.2 s.1).map (·.text.toList) ≠ [] := by
      simpa using linesOf_ne_nil solver s.2 s.1
    have hjoined := intercalate_append_sep ['\n'] hne
    rw [statement_eq_linesOf, String.toList_append, String.toList_intercalate, List.map_map]
    simpa [List.flatMap_map, Function.comp_def] using hjoined
  simp only [program, String.toList_join, List.flatMap_map, hlines, programLines]
  simp [List.mapIdx_eq_zipIdx_map, ← List.flatMap_def, List.flatMap_assoc]

theorem splitOn_program {statements : List Statement} (h : ∀ s ∈ statements, s.Made)
    (solver : Solver) :
    (program solver statements).toList.splitOn '\n' =
      (programLines solver statements).map (·.text.toList) ++ [[]] := by
  rw [toList_program]
  refine splitOn_flatMap fun line hline => ?_
  obtain ⟨l, hl, rfl⟩ := List.mem_map.mp hline
  exact LineText.newline_not_mem (legal_of_mem_programLines h solver l hl)

theorem eq_of_map_text {k l : List LineText} (hk : ∀ t ∈ k, t.Legal) (hl : ∀ t ∈ l, t.Legal)
    (h : k.map (·.text.toList) = l.map (·.text.toList)) : k = l := by
  have hlength : k.length = l.length := by simpa using congrArg List.length h
  refine List.ext_getElem hlength fun i hi hi' => ?_
  refine LineText.text_inj (hk _ (List.getElem_mem hi)) (hl _ (List.getElem_mem hi')) ?_
  have hget := congrArg (·[i]?) h
  simpa [hi, hi', String.toList_inj] using hget

-- A program can be read in one way only. There is one line for each statement, and equal programs
-- have equal atoms at equal places.
theorem program_eq_iff {A B : List Statement} (hA : ∀ s ∈ A, s.Made) (hB : ∀ s ∈ B, s.Made) :
    (∀ index s, statement .clingo index s = (lineText index s).text) ∧
      (program .clingo A).toList.splitOn '\n' =
        A.mapIdx (fun index s => (statement .clingo index s).toList) ++ [[]] ∧
      (program .clingo A = program .clingo B ↔ lineTexts A = lineTexts B) := by
  have hlegal {C : List Statement} (hC : ∀ s ∈ C, s.Made) := legal_of_mem_programLines hC .clingo
  have hlines := splitOn_program hA .clingo
  simp only [← programLines_clingo]
  refine ⟨statement_clingo, ?_, fun h => ?_, fun h => ?_⟩
  · rw [hlines, programLines_clingo, lineTexts]
    simp [statement_clingo, List.mapIdx_eq_zipIdx_map]
  · rw [h, splitOn_program hB] at hlines
    exact eq_of_map_text (hlegal hA) (hlegal hB) (List.append_cancel_right hlines).symm
  · rw [← String.toList_inj, toList_program, toList_program, h]

-- Names that look like the end of a statement and the beginning of another one. The literal that
-- is left out of the last disjunct keeps its own one apart from the others.

def intrusions : List Statement :=
  [.fact ⟨⟨"p", [.constant "a) .\nq(b"]⟩, rfl⟩,
    .rule ⟨[[⟨"p", [.universal "X"]⟩], [⟨"q", [.universal "X", .existential "Y"]⟩]],
      [[.positive ⟨"r), s(b", [.universal "X"]⟩, .negative ⟨"s", [.universal "X"]⟩],
        [.positive ⟨"t", [.universal "X"]⟩, .positive ⟨"u | v :- w", [.universal "X"]⟩]],
      rfl, rfl⟩]

def harmless : List Statement :=
  [.fact ⟨⟨"p", [.constant "a____q_b"]⟩, rfl⟩,
    .rule ⟨[[⟨"p", [.universal "X"]⟩], [⟨"q", [.universal "X", .existential "Y"]⟩]],
      [[.positive ⟨"r___s_b", [.universal "X"]⟩],
        [.positive ⟨"t", [.universal "X"]⟩, .positive ⟨"u___v____w", [.universal "X"]⟩]],
      rfl, rfl⟩]

theorem program_intruding :
    program .clingo intrusions = program .clingo harmless ∧
      (program .clingo intrusions).toList.splitOn '\n' =
        ["p(a____q_b) .".toList,
          "p(X) | q(X, f2(X)) :- r___s_b(X) | t(X), u___v____w(X) .".toList, []] := by
  have hintrusions : ∀ s ∈ intrusions, s.Made := by
    simp only [Statement.made_iff_checked]
    decide +kernel
  have hharmless : ∀ s ∈ harmless, s.Made := by
    simp only [Statement.made_iff_checked]
    decide +kernel
  obtain ⟨-, hlines, hsame⟩ := program_eq_iff hintrusions hharmless
  exact ⟨hsame.mpr (by decide +kernel), hlines.trans (by decide +kernel)⟩

end Rulebook.Rendering
