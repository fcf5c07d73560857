import Rulebook.Proofs.Rendering.Distinction
import Rulebook.Proofs.Rendering.Legibility

namespace Rulebook.Rendering

-- A colon in a rule is always the one between head and body.
theorem clause_inj {h b h' b' : String} (hh : IsText h'.toList) (hb : IsText b'.toList)
    (he : clause h b = clause h' b') : h = h' ∧ b = b' := by
  have hcolon : ':' ∉ h'.toList ++ [' '] := by simpa using hh.not_mem rfl
  have hcolon' : ':' ∉ '-' :: ' ' :: (b'.toList ++ [' ', '.']) := by simpa using hb.not_mem rfl
  have he := congrArg String.toList he
  rw [toList_clause, toList_clause, List.append_cons, List.append_cons h'.toList] at he
  obtain ⟨hhead, -, hbody⟩ := (List.append_cons_inj_of_notMem hcolon hcolon').mp he.symm
  simpa [String.toList_inj, eq_comm] using And.intro hhead hbody

-- Where a variable is in the body and in the head, but not in the first atom there, clingo's text
-- for it is made at the head and DLV's text at the body.
def Displaced (first : Atom) (rest body : List Atom) (z : String) : Prop :=
  first.mentions z = false ∧ ∃ a ∈ rest.find? (·.mentions z), ∃ b ∈ body.find? (·.mentions z),
    firstUniversal a.terms ≠ firstUniversal b.terms

theorem find?_interleaved {p : Atom → Bool} {rest body : List Atom} (h : body.find? p = none) :
    (rest.flatMap fun a => a :: body).find? p = rest.find? p := by
  induction rest with
  | nil => rfl
  | cons a rest ih =>
    rw [List.flatMap_cons, List.cons_append, List.find?_cons, List.find?_cons, List.find?_append, h,
      Option.none_or, ih]

variable {r : Rule} {first : Atom} {rest : List Atom}

theorem skolemText_eq_iff (line : Nat) (hr : r.head = [first :: rest]) (z : String) :
    skolemText line (visited .clingo r) z = skolemText line (visited .dlv r) z ↔
      ¬Displaced first rest (positivePart r.body).flatten z := by
  have hclingo : visited .clingo r = first :: (rest ++ (positivePart r.body).flatten) := by
    simp [visited_eq (.inl rfl), hr]
  have hdlv : visited .dlv r = first :: ((positivePart r.body).flatten ++
      rest.flatMap fun a => a :: (positivePart r.body).flatten) := by
    rw [visited_dlv hr, List.flatMap_cons, List.cons_append]
  unfold skolemText Displaced
  rw [hclingo, hdlv, List.find?_cons, List.find?_cons, List.find?_append, List.find?_append]
  cases hfirst : first.mentions z with
  | true => simp
  | false =>
    cases hbody : (positivePart r.body).flatten.find? (·.mentions z) with
    | none => simp [find?_interleaved hbody]
    | some b =>
      cases hrest : rest.find? (·.mentions z) with
      | none => simp
      | some a => simp [skolemTerm_eq_iff]

-- The texts of the two sides of a rule.

def headTexts (value : String → String) (conjunction : List Atom) : List String :=
  conjunction.map fun a => (atomText value a).text

def bodyText (value : String → String) (r : Rule) : String :=
  disjunctionText AtomText.text ((positivePart r.body).map (·.map (atomText value)))

theorem rule_clingo (hr : r.head = [first :: rest]) (index : Nat) :
    let value := skolemText (lineNumber index) (visited .clingo r)
    rule .clingo r (.start index) =
      clause (", ".intercalate (headTexts value (first :: rest))) (bodyText value r) := by
  rw [rule_eq_ruleTexts]
  simp [ruleTexts, heads, hr, ruleText, LineText.text, clause, headTexts, bodyText, disjunctionText,
    Function.comp_def]

theorem rule_dlv (hr : r.head = [first :: rest]) (index : Nat) :
    let value := skolemText (lineNumber index) (visited .dlv r)
    rule .dlv r (.start index) =
      "\n".intercalate ((headTexts value (first :: rest)).map (clause · (bodyText value r))) := by
  rw [rule_eq_ruleTexts]
  simp [ruleTexts, heads, hr, ruleText, LineText.text, clause, headTexts, bodyText, disjunctionText,
    Function.comp_def]

theorem isText_bodyText (solver : Solver) (h : r.Checked) (line : Nat) :
    IsText (bodyText (skolemText line (visited solver r)) r).toList :=
  .disjunction (legal_sides solver h line).2

theorem isText_headTexts (solver : Solver) (h : r.Checked) (hr : r.head = [first :: rest])
    (line : Nat) :
    ∀ t ∈ headTexts (skolemText line (visited solver r)) (first :: rest), IsText t.toList := by
  intro t ht
  obtain ⟨a, ha, rfl⟩ := List.mem_map.mp ht
  have hmem : a ∈ visited solver r := mem_visited.mpr (.inl (by simpa [hr] using ha))
  exact .atom (legal_of_mem line hmem (checked_of_mem_visited h hmem))

-- From the text of a body it can be told what stands for its variables.
theorem skolemText_eq_of_bodyText_eq (h : r.Checked) {line : Nat}
    (he : bodyText (skolemText line (visited .clingo r)) r =
      bodyText (skolemText line (visited .dlv r)) r)
    {a : Atom} (ha : a ∈ (positivePart r.body).flatten) {z : String} (hz : a.mentions z = true) :
    skolemText line (visited .clingo r) z = skolemText line (visited .dlv r) z := by
  have hside := disjunctionText_inj (legal_sides .clingo h line).2 (legal_sides .dlv h line).2 he
  obtain ⟨c, hc, ha⟩ := List.mem_flatten.mp ha
  have hatoms := List.map_inj_left.mp (List.map_inj_left.mp hside c hc) a ha
  exact List.map_inj_left.mp (congrArg AtomText.terms hatoms) (.existential z)
    (Atom.mentions_iff.mp hz)

-- The first of some lines ends at the first newline.
theorem clause_eq_of_lines_eq {h b h' b' : String} {lines lines' : List String}
    (hh : IsText h.toList) (hb : IsText b.toList) (hh' : IsText h'.toList) (hb' : IsText b'.toList)
    (he : "\n".intercalate (clause h b :: lines) = "\n".intercalate (clause h' b' :: lines')) :
    clause h b = clause h' b' := by
  have hfirst {h b : String} (lines : List String) (hh : IsText h.toList) (hb : IsText b.toList) :
      ("\n".intercalate (clause h b :: lines)).toList.takeWhile (· ≠ '\n') =
        (clause h b).toList := by
    have hline : '\n' ∉ (clause h b).toList := by
      simp [toList_clause, hh.not_mem (c := '\n') rfl, hb.not_mem (c := '\n') rfl]
    rw [String.toList_intercalate, List.map_cons, intercalate_cons,
      List.takeWhile_append_of_pos fun c hc => by simpa using ne_of_mem_of_not_mem hc hline]
    cases lines with
    | nil => simp
    | cons next lines => simp
  rw [← String.toList_inj, ← hfirst lines hh hb, he, hfirst lines' hh' hb']

-- The solvers are given the same heads, one for each head atom, and the same body.
def Agree (r : Rule) (index : Nat) : Prop :=
  ∃ hs b, hs.length = r.headAtoms.length ∧
    rule .clingo r (.start index) = clause (", ".intercalate hs) b ∧
    rule .dlv r (.start index) = "\n".intercalate (hs.map (clause · b))

-- Whatever the common texts may be, the body is the one that each of the solvers is given.
theorem bodyText_eq_of_agree (h : r.Checked) (hr : r.head = [first :: rest]) {index : Nat}
    (hagree : Agree r index) :
    bodyText (skolemText (lineNumber index) (visited .clingo r)) r =
      bodyText (skolemText (lineNumber index) (visited .dlv r)) r := by
  obtain ⟨_ | ⟨t, hs⟩, b, hlength, hclingo, hdlv⟩ := hagree
  · simp [Rule.headAtoms, hr] at hlength
  have hbody := isText_bodyText .clingo h (lineNumber index)
  have hbody' := isText_bodyText .dlv h (lineNumber index)
  have hheads := isText_headTexts .dlv h hr (lineNumber index)
  have hhead : IsText
      (", ".intercalate (headTexts (skolemText (lineNumber index) (visited .clingo r))
        (first :: rest))).toList :=
    .intercalate (by decide) (isText_headTexts .clingo h hr (lineNumber index))
  rw [rule_clingo hr] at hclingo
  obtain ⟨htexts, rfl⟩ := clause_inj hhead hbody hclingo.symm
  have ht : IsText t.toList := by
    rw [← htexts, String.toList_intercalate, List.map_cons, intercalate_cons] at hhead
    exact fun c hc => hhead c (List.mem_append_left _ hc)
  rw [rule_dlv hr] at hdlv
  have hfirst := clause_eq_of_lines_eq (hheads _ List.mem_cons_self) hbody' ht hbody hdlv
  exact (clause_inj ht hbody hfirst).2.symm

-- Each solver is given one body. It is the same one, behind the same heads, unless some variable is
-- displaced, and for the variables that are not displaced the texts are the same in any case.
theorem agree_iff_not_displaced (r : Rule) (index : Nat) (h : r.Checked) :
    (r.head.length ≠ 1 → rule .dlv r (.start index) = rule .clingo r (.start index)) ∧
      ∀ first rest, r.head = [first :: rest] →
        (∃ hs b, hs.length = r.headAtoms.length ∧
          rule .clingo r (.start index) = clause (", ".intercalate hs) b) ∧
        (∃ (hs : List String) (b : String), hs.length = r.headAtoms.length ∧
          rule .dlv r (.start index) = "\n".intercalate (hs.map (clause · b))) ∧
        (Agree r index ↔ ∀ z, ¬Displaced first rest (positivePart r.body).flatten z) ∧
        ∀ z, skolemText (lineNumber index) (visited .clingo r) z =
            skolemText (lineNumber index) (visited .dlv r) z ↔
          ¬Displaced first rest (positivePart r.body).flatten z := by
  refine ⟨fun hlength => ?_, fun first rest hr => ?_⟩
  · have hheads : heads .dlv r.head = heads .clingo r.head := by
      unfold heads
      split
      next hhead => simp [hhead] at hlength
      next => rfl
    rw [rule, rule, hheads]
  have hcount (value : String → String) :
      (headTexts value (first :: rest)).length = r.headAtoms.length := by
    simp [headTexts, Rule.headAtoms, hr]
  have hvalue := skolemText_eq_iff (lineNumber index) hr
  refine ⟨⟨_, _, hcount _, rule_clingo hr index⟩, ⟨_, _, hcount _, rule_dlv hr index⟩,
    ⟨fun hagree z hz => ?_, fun hnone => ?_⟩, hvalue⟩
  · obtain ⟨-, -, -, b, hb, -⟩ := id hz
    have hmentions := List.find?_some hb
    exact (hvalue z).mp (skolemText_eq_of_bodyText_eq h (bodyText_eq_of_agree h hr hagree)
      (List.mem_of_find?_eq_some hb) hmentions) hz
  · have hsame := funext fun z => (hvalue z).mpr (hnone z)
    refine ⟨_, _, hcount _, rule_clingo hr index, ?_⟩
    rw [rule_dlv hr, hsame]

-- A variable in the second head atom and in the body, beside one universal variable or another.

def straddling (x : String) : Rule where
  head := [[⟨"h1", [.universal "X"]⟩, ⟨"h2", [.universal "X", .existential "Z"]⟩]]
  body := [[.positive ⟨"b", [.universal x, .existential "Z"]⟩]]
  head_nonempty := rfl
  body_nonempty := rfl

theorem checked_straddling {x : String} (hx : x.isEmpty = false) : (straddling x).Checked := by
  constructor <;> simp_all [straddling, Atom.Checked, Atom.new, Term.hasEmptyName, Literal.atom]

theorem agree_straddling : (straddling "X").Checked ∧ Agree (straddling "X") 0 := by
  have h : (straddling "X").Checked := checked_straddling rfl
  refine ⟨h, ((agree_iff_not_displaced (straddling "X") 0 h).2 _ _ rfl).2.2.1.mpr ?_⟩
  rintro z ⟨-, a, ha, b, hb, hne⟩
  obtain rfl := List.mem_singleton.mp (List.mem_of_find?_eq_some ha)
  obtain rfl := List.mem_singleton.mp (List.mem_of_find?_eq_some hb)
  exact hne rfl

-- The solvers are given different rules.
theorem not_agree_straddling :
    (straddling "Y").head.length = 1 ∧
      rule .clingo (straddling "Y") (.start 0) = "h1(X), h2(X, f1(X)) :- b(Y, f1(X)) ." ∧
      rule .dlv (straddling "Y") (.start 0) =
        "h1(X) :- b(Y, f1(Y)) .\nh2(X, f1(Y)) :- b(Y, f1(Y)) ." ∧
      ¬Agree (straddling "Y") 0 := by
  refine ⟨rfl, by decide +kernel, by decide +kernel, fun hagree => ?_⟩
  exact absurd (bodyText_eq_of_agree (checked_straddling rfl) rfl hagree) (by decide +kernel)

end Rulebook.Rendering
