import Rulebook.Proofs.Exchange.WellFormed
import Rulebook.Proofs.Rendering.Distinction
import Rulebook.Proofs.Rendering.Legibility
import Mathlib.Data.List.Forall2

-- The rules that solvers read, as a grammar of texts.

namespace Rulebook.Rendering

namespace Surface

-- One part or more, with a separator between them.
def Joined (sep : String) (Part : List Char → Prop) (u : List Char) : Prop :=
  ∃ parts, parts ≠ [] ∧ (∀ p ∈ parts, Part p) ∧ sep.toList.intercalate parts = u

structure IsIdentifier (u : List Char) : Prop where
  ne_nil : u ≠ []
  word : IsWord u

-- An identifier, or a Skolem function applied to one.
inductive IsArgument : List Char → Prop
  | identifier {u : List Char} (hu : IsIdentifier u) : IsArgument u
  | skolem {digits u : List Char} (hne : digits ≠ []) (hdigits : ∀ c ∈ digits, c.isDigit = true)
      (hu : IsIdentifier u) : IsArgument ('f' :: digits ++ '(' :: (u ++ [')']))

-- An atom may be without arguments, but not without parentheses.
inductive IsAtom : List Char → Prop
  | mk {name arguments : List Char} (hname : IsIdentifier name)
      (harguments : arguments = [] ∨ Joined ", " IsArgument arguments) :
      IsAtom (name ++ '(' :: (arguments ++ [')']))

def IsConjunction : List Char → Prop :=
  Joined ", " IsAtom

def IsDisjunction : List Char → Prop :=
  Joined " | " IsConjunction

inductive IsRule : List Char → Prop
  | mk {head body : List Char} (hhead : IsDisjunction head) (hbody : IsDisjunction body) :
      IsRule (head ++ " :- ".toList ++ body ++ " .".toList)

end Surface

open Surface

-- What solvers read of a rule, if it is in the grammar.

structure AtomText.Proper (a : AtomText) : Prop where
  name : IsIdentifier a.name.toList
  terms : ∀ t ∈ a.terms, IsArgument t.toList

structure ProperSide (d : List (List AtomText)) : Prop where
  ne_nil : d ≠ []
  parts : ∀ c ∈ d, c ≠ [] ∧ ∀ a ∈ c, a.Proper

theorem isTerm_of_isArgument {t : List Char} (h : IsArgument t) : IsTerm t := by
  cases h with
  | identifier hu => exact .word hu.ne_nil hu.word
  | skolem _ hdigits hu =>
    refine .call (List.cons_ne_nil _ _) (List.forall_mem_cons.mpr ⟨rfl, fun c hc => ?_⟩) hu.word
    simp [isWordChar, Char.isAlphanum, hdigits c hc]

theorem AtomText.Proper.legal {a : AtomText} (h : a.Proper) : a.Legal :=
  ⟨h.name.word, fun t ht => isTerm_of_isArgument (h.terms t ht)⟩

theorem ProperSide.legal {d : List (List AtomText)} (h : ProperSide d) : LegalSide d :=
  ⟨h.ne_nil, fun c hc a ha => ((h.parts c hc).2 a ha).legal⟩

private theorem exists_map_eq {α β : Type} {P : α → Prop} {f : α → β} {m : List β}
    (h : ∀ b ∈ m, ∃ a, P a ∧ f a = b) : ∃ l : List α, (∀ a ∈ l, P a) ∧ l.map f = m := by
  induction m with
  | nil => exact ⟨[], by simp, rfl⟩
  | cons b m ih =>
    obtain ⟨a, ha, rfl⟩ := h b List.mem_cons_self
    obtain ⟨l, hl, rfl⟩ := ih fun c hc => h c (List.mem_cons_of_mem _ hc)
    exact ⟨a :: l, List.forall_mem_cons.mpr ⟨ha, hl⟩, rfl⟩

-- Where parts are the texts of something, joined parts are those of a list of it.
theorem joined_iff {α : Type} {P : α → Prop} {f : α → String} {Part : List Char → Prop}
    (h : ∀ p, Part p ↔ ∃ a, P a ∧ (f a).toList = p) (sep : String) (u : List Char) :
    Joined sep Part u ↔
      ∃ l, (l ≠ [] ∧ ∀ a ∈ l, P a) ∧ (sep.intercalate (l.map f)).toList = u := by
  constructor
  · rintro ⟨parts, hne, hparts, rfl⟩
    obtain ⟨l, hl, rfl⟩ := exists_map_eq fun p hp => (h p).mp (hparts p hp)
    refine ⟨l, ⟨by simpa using hne, hl⟩, ?_⟩
    rw [String.toList_intercalate, List.map_map]
    rfl
  · rintro ⟨l, ⟨hne, hl⟩, rfl⟩
    refine ⟨(l.map f).map String.toList, by simpa using hne, ?_, String.toList_intercalate.symm⟩
    simp only [List.map_map, List.forall_mem_map]
    exact fun a ha => (h _).mpr ⟨a, hl a ha, rfl⟩

theorem isAtom_iff (u : List Char) : IsAtom u ↔ ∃ a : AtomText, a.Proper ∧ a.text.toList = u := by
  have harguments := joined_iff (P := fun t : String => IsArgument t.toList) (f := id)
    (fun p => ⟨fun hp => ⟨.ofList p, by simpa using hp, by simp⟩, fun ⟨t, ht, he⟩ => he ▸ ht⟩) ", "
  simp only [List.map_id] at harguments
  constructor
  · rintro @⟨name, arguments, hname, harg⟩
    have hterms : ∃ l : List String, (∀ t ∈ l, IsArgument t.toList) ∧
        (", ".intercalate l).toList = arguments := by
      rcases harg with rfl | harg
      · exact ⟨[], by simp, rfl⟩
      · obtain ⟨l, ⟨-, hl⟩, he⟩ := (harguments arguments).mp harg
        exact ⟨l, hl, he⟩
    obtain ⟨l, hl, rfl⟩ := hterms
    exact ⟨⟨.ofList name, l⟩, ⟨by simpa using hname, hl⟩, by simp [AtomText.toList_text]⟩
  · rintro ⟨⟨name, terms⟩, ha, rfl⟩
    rw [AtomText.toList_text]
    refine .mk ha.name ?_
    by_cases hterms : terms = []
    · exact .inl (by rw [hterms]; rfl)
    · exact .inr ((harguments _).mpr ⟨terms, ⟨hterms, ha.terms⟩, rfl⟩)

theorem isConjunction_iff (u : List Char) :
    IsConjunction u ↔ ∃ c, (c ≠ [] ∧ ∀ a ∈ c, a.Proper) ∧
      (", ".intercalate (c.map AtomText.text)).toList = u :=
  joined_iff isAtom_iff ", " u

theorem isDisjunction_iff (u : List Char) :
    IsDisjunction u ↔ ∃ d, ProperSide d ∧ (disjunctionText AtomText.text d).toList = u := by
  rw [IsDisjunction, joined_iff isConjunction_iff]
  exact exists_congr fun d => and_congr_left' ⟨fun h => ⟨h.1, h.2⟩, fun h => ⟨h.ne_nil, h.parts⟩⟩

-- A line can be read in one way only, and so it is seen from its parts whether it is in the
-- grammar.
theorem isRule_text_iff {head body : List (List AtomText)}
    (hlegal : (LineText.rule head body).Legal) :
    IsRule (LineText.rule head body).text.toList ↔ ProperSide head ∧ ProperSide body := by
  have htext (h b : List (List AtomText)) : (LineText.rule h b).text.toList =
      (disjunctionText AtomText.text h).toList ++ " :- ".toList ++
        (disjunctionText AtomText.text b).toList ++ " .".toList := by
    simp [LineText.text, clause]
  constructor
  · generalize hu : (LineText.rule head body).text.toList = u
    rintro ⟨hhead, hbody⟩
    obtain ⟨h, hh, rfl⟩ := (isDisjunction_iff _).mp hhead
    obtain ⟨b, hb, rfl⟩ := (isDisjunction_iff _).mp hbody
    rw [← htext, String.toList_inj] at hu
    -- Whatever the grammar takes the line apart into are the parts that it was made of.
    obtain ⟨rfl, rfl⟩ := LineText.rule.inj (LineText.text_inj hlegal ⟨hh.legal, hb.legal⟩ hu)
    exact ⟨hh, hb⟩
  · rintro ⟨hhead, hbody⟩
    rw [htext]
    exact .mk ((isDisjunction_iff _).mpr ⟨head, hhead, rfl⟩)
      ((isDisjunction_iff _).mpr ⟨body, hbody, rfl⟩)

-- What atoms are rendered as.

theorem isIdentifier_sanitize {n : String} (h : n ≠ "") : IsIdentifier (sanitize n).toList :=
  ⟨by simpa [sanitize] using h, isWord_sanitize n⟩

theorem isArgument_skolemTerm (line : Nat) {terms : List Term} (h : ∀ t ∈ terms, t.Named) :
    IsArgument (skolemTerm line terms).toList := by
  have hdigits : (toString line).toList ≠ [] := by
    rw [Nat.toString_eq_ofList_toDigits, String.toList_ofList]
    exact Nat.toDigits_ne_nil
  unfold skolemTerm
  split
  next u hu =>
    have hname := Term.name_ne_empty (h u (List.mem_of_find?_eq_some hu))
    have harg := IsArgument.skolem hdigits (fun c hc => isDigit_of_mem_toString hc)
      (isIdentifier_sanitize hname)
    simpa [String.toList_append] using harg
  next =>
    refine .identifier ⟨by simp, fun c hc => ?_⟩
    simp [isWordChar, isAlphanum_of_mem_function hc]

theorem proper_atomText (line : Nat) {atoms : List Atom} (h : ∀ a ∈ atoms, a.Named) {a : Atom}
    (ha : a ∈ atoms) : (atomText (skolemText line atoms) a).Proper := by
  refine ⟨isIdentifier_sanitize (h a ha).name, fun text htext => ?_⟩
  obtain ⟨t, ht, rfl⟩ := List.mem_map.mp htext
  have hnamed := (h a ha).terms t ht
  cases t with
  | existential z =>
    obtain ⟨b, hb, -, hskolem, -⟩ :=
      skolemText_of_mentions line ⟨a, ha, Atom.mentions_iff.mpr ht⟩
    rw [termText, hskolem]
    exact isArgument_skolemTerm line (h b hb).terms
  | constant | universal | langString =>
    exact .identifier (isIdentifier_sanitize (Term.name_ne_empty hnamed))

theorem named_of_mem_visited {solver : Solver} {r : Rule} (h : r.Checked) :
    ∀ a ∈ visited solver r, a.Named :=
  fun _ ha => Atom.checked_iff_named.mp (checked_of_mem_visited h ha)

-- No part of a head gets lost or empty when it is split.
theorem parts_of_mem_heads {solver : Solver} {r : Rule} (h : r.Checked) {head : List (List Atom)}
    (hhead : head ∈ heads solver r.head) :
    head ≠ [] ∧ ∀ c ∈ head, c ≠ [] ∧ ∀ a ∈ c, a ∈ visited solver r := by
  have hsound := Rule.checked_iff_sound.mp h
  have hvisited {c : List Atom} (hc : c ∈ r.head) {a : Atom} (ha : a ∈ c) : a ∈ visited solver r :=
    mem_visited.mpr (.inl (List.mem_flatten.mpr ⟨c, hc, ha⟩))
  unfold heads at hhead
  split at hhead
  next conjunction hr =>
    obtain ⟨a, ha, rfl⟩ := List.mem_map.mp hhead
    simpa using hvisited (hr ▸ List.mem_cons_self) ha
  next =>
    obtain rfl := List.mem_singleton.mp hhead
    exact ⟨hsound.head_ne_nil, fun c hc => ⟨(hsound.head c hc).1, fun a ha => hvisited hc ha⟩⟩

theorem properSide_head {solver : Solver} {r : Rule} (h : r.Checked) (line : Nat)
    {head : List (List Atom)} (hhead : head ∈ heads solver r.head) :
    ProperSide (head.map (·.map (atomText (skolemText line (visited solver r))))) := by
  obtain ⟨hne, hparts⟩ := parts_of_mem_heads h hhead
  refine ⟨by simpa using hne, List.forall_mem_map.mpr fun c hc => ⟨?_, ?_⟩⟩
  · simpa using (hparts c hc).1
  · exact List.forall_mem_map.mpr fun a ha =>
      proper_atomText line (named_of_mem_visited h) ((hparts c hc).2 a ha)

-- What is left of a conjunction when the negated literals are gone.
theorem filterMap_positive?_eq_nil_iff {c : List Literal} :
    c.filterMap Literal.positive? = [] ↔ ∀ b ∈ c, b.isNegated = true := by
  rw [List.filterMap_eq_nil_iff]
  refine forall₂_congr fun b _ => ?_
  cases b <;> simp [Literal.positive?, Literal.isNegated]

theorem mem_visited_of_mem_filterMap {solver : Solver} {r : Rule} {c : List Literal}
    (hc : c ∈ r.body) {a : Atom} (ha : a ∈ c.filterMap Literal.positive?) : a ∈ visited solver r :=
  mem_visited.mpr (.inr (List.mem_flatten.mpr ⟨_, List.mem_map_of_mem hc, ha⟩))

theorem properSide_body_iff {solver : Solver} {r : Rule} (h : r.Checked) (line : Nat) :
    ProperSide ((positivePart r.body).map (·.map (atomText (skolemText line (visited solver r))))) ↔
      ∀ c ∈ r.body, ∃ b ∈ c, b.isNegated = false := by
  have hne : positivePart r.body ≠ [] := by
    simpa [positivePart] using (Rule.checked_iff_sound.mp h).body_ne_nil
  have hparts : (∀ c ∈ r.body, c.filterMap Literal.positive? ≠ []) ↔
      ∀ c ∈ r.body, ∃ b ∈ c, b.isNegated = false := by
    refine forall₂_congr fun c _ => ?_
    rw [ne_eq, filterMap_positive?_eq_nil_iff]
    simp
  rw [← hparts]
  constructor
  · intro hproper c hc
    have hpart := (hproper.parts _ (List.mem_map_of_mem (List.mem_map_of_mem hc))).1
    simpa using hpart
  · intro hpositive
    refine ⟨by simpa using hne, ?_⟩
    simp only [positivePart, List.map_map, List.forall_mem_map]
    refine fun c hc => ⟨by simpa using hpositive c hc, List.forall_mem_map.mpr fun a ha => ?_⟩
    exact proper_atomText line (named_of_mem_visited h) (mem_visited_of_mem_filterMap hc ha)

theorem legal_of_mem_ruleTexts {solver : Solver} {r : Rule} (h : r.Checked) (line : Nat) :
    ∀ l ∈ ruleTexts solver (skolemText line (visited solver r)) r, l.Legal := by
  intro l hl
  obtain ⟨head, hhead, rfl⟩ := List.mem_map.mp hl
  exact ⟨(properSide_head h line hhead).legal, (legal_sides solver h line).2⟩

-- The lines of a rule are the texts of its parts.
theorem splitOn_statement {solver : Solver} {r : Rule} (h : r.Checked) (index : Nat) :
    (statement solver index (.rule r)).toList.splitOn '\n' =
      (ruleTexts solver (skolemText (lineNumber index) (visited solver r)) r).map
        (·.text.toList) := by
  rw [statement, rule_eq_ruleTexts, String.toList_intercalate, List.map_map]
  refine List.splitOn_intercalate '\n' (fun l hl => ?_) ?_
  · obtain ⟨t, ht, rfl⟩ := List.mem_map.mp hl
    exact LineText.newline_not_mem (legal_of_mem_ruleTexts h _ t ht)
  · simpa [ruleTexts] using heads_ne_nil solver r

-- Behind each head there is what is left of the body, conjunction by conjunction.
theorem exists_parts_of_mem_heads {solver : Solver} {r : Rule} (h : r.Checked) (line : Nat)
    {head : List (List Atom)} (hhead : head ∈ heads solver r.head) :
    ∃ u parts, IsDisjunction u ∧
      List.Forall₂ (fun (c : List Literal) p =>
        if c.all Literal.isNegated then p = [] else IsConjunction p) r.body parts ∧
      (ruleText (skolemText line (visited solver r)) head (positivePart r.body)).text.toList =
        u ++ " :- ".toList ++ " | ".toList.intercalate parts ++ " .".toList := by
  let part (c : List Literal) : String := ", ".intercalate (((c.filterMap Literal.positive?).map
    (atomText (skolemText line (visited solver r)))).map AtomText.text)
  refine ⟨_, r.body.map fun c => (part c).toList,
    (isDisjunction_iff _).mpr ⟨_, properSide_head h line hhead, rfl⟩, ?_, ?_⟩
  · rw [List.forall₂_map_right_iff, List.forall₂_same]
    intro c hc
    split
    next hall =>
      have hnil := filterMap_positive?_eq_nil_iff.mpr (List.all_eq_true.mp hall)
      simp [part, hnil]
    next hall =>
      have hne := filterMap_positive?_eq_nil_iff.not.mpr fun hb => hall (List.all_eq_true.mpr hb)
      refine (isConjunction_iff _).mpr ⟨_, ⟨by simpa using hne, List.forall_mem_map.mpr ?_⟩, rfl⟩
      exact fun a ha =>
        proper_atomText line (named_of_mem_visited h) (mem_visited_of_mem_filterMap hc ha)
  · simp [ruleText, LineText.text, clause, disjunctionText, positivePart, part, Function.comp_def]

theorem isRule_ruleText_iff {solver : Solver} {r : Rule} (h : r.Checked) (line : Nat)
    {head : List (List Atom)} (hhead : head ∈ heads solver r.head) :
    IsRule (ruleText (skolemText line (visited solver r)) head (positivePart r.body)).text.toList ↔
      ∀ c ∈ r.body, ∃ b ∈ c, b.isNegated = false := by
  have hlegal := legal_of_mem_ruleTexts h line _ (List.mem_map_of_mem hhead)
  rw [ruleText, isRule_text_iff hlegal, properSide_body_iff h]
  exact and_iff_right (properSide_head h line hhead)

-- A conjunction of negated literals leaves nothing between its separators, and only then a line is
-- no rule of the grammar.
theorem isRule_iff_positive {solver : Solver} {r : Rule} (h : r.Checked) (index : Nat) :
    ∀ line ∈ (statement solver index (.rule r)).toList.splitOn '\n',
      (∃ u parts, IsDisjunction u ∧
        List.Forall₂ (fun (c : List Literal) p =>
          if c.all Literal.isNegated then p = [] else IsConjunction p) r.body parts ∧
        line = u ++ " :- ".toList ++ " | ".toList.intercalate parts ++ " .".toList) ∧
      (IsRule line ↔ ∀ c ∈ r.body, ∃ b ∈ c, b.isNegated = false) := by
  intro line hline
  rw [splitOn_statement h] at hline
  obtain ⟨t, ht, rfl⟩ := List.mem_map.mp hline
  obtain ⟨head, hhead, rfl⟩ := List.mem_map.mp ht
  exact ⟨exists_parts_of_mem_heads h _ hhead, isRule_ruleText_iff h _ hhead⟩

-- A negated literal beside one that is not, below a head that DLV is given in two rules.

def accompanied : Rule where
  head := [[⟨"p", [.universal "X", .existential "Z"]⟩, ⟨"s", [.existential "Z"]⟩]]
  body := [[.negative ⟨"r", [.universal "X"]⟩, .positive ⟨"q", [.universal "X"]⟩]]
  head_nonempty := rfl
  body_nonempty := rfl

theorem isRule_accompanied :
    accompanied.Checked ∧
      statement .dlv 0 (.rule accompanied) = "p(X, f1(X)) :- q(X) .\ns(f1(X)) :- q(X) ." ∧
      ∀ line ∈ (statement .dlv 0 (.rule accompanied)).toList.splitOn '\n', IsRule line := by
  have h : accompanied.Checked := by
    constructor <;> simp [accompanied, Atom.Checked, Atom.new, Term.hasEmptyName, Literal.atom]
  refine ⟨h, by decide +kernel, fun line hline => ?_⟩
  exact (isRule_iff_positive h 0 line hline).2.mpr (by decide)

-- A negated literal that is all of its conjunction.

def forsaken : Rule where
  head := [[⟨"p", [.universal "X"]⟩]]
  body := [[.positive ⟨"q", [.universal "X"]⟩], [.negative ⟨"r", [.universal "X"]⟩]]
  head_nonempty := rfl
  body_nonempty := rfl

-- Solvers are told of a choice with nothing to choose.
theorem not_isRule_forsaken :
    forsaken.Checked ∧ statement .clingo 0 (.rule forsaken) = "p(X) :- q(X) |  ." ∧
      statement .dlv 0 (.rule forsaken) = "p(X) :- q(X) |  ." ∧
      ¬IsRule "p(X) :- q(X) |  .".toList := by
  have h : forsaken.Checked := by
    constructor <;> simp [forsaken, Atom.Checked, Atom.new, Term.hasEmptyName, Literal.atom]
  have htext : (ruleText (skolemText 1 (visited .clingo forsaken)) forsaken.head
      (positivePart forsaken.body)).text = "p(X) :- q(X) |  ." := by decide +kernel
  refine ⟨h, by decide +kernel, by decide +kernel, fun hrule => ?_⟩
  rw [← htext, isRule_ruleText_iff h 1 List.mem_cons_self] at hrule
  exact absurd hrule (by decide)

end Rulebook.Rendering
