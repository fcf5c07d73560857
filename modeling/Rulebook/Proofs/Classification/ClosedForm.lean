import Rulebook.Proofs.Classification.Progress

namespace Rulebook.Classification

open Sorted

-- The classification of a content, told without the order in which it is read.
structure ClosedForm (x : Content) (c : Classification) : Prop where
  mem_idb : ∀ p, p ∈ c.idb ↔ p ∈ x.heads
  mem_edb : ∀ p d, (p, d) ∈ c.edb ↔ p ∉ x.heads ∧ x.sources p = [d]
  mem_aliased : ∀ p, p ∈ c.aliased ↔ x.Aliased p
  mem_aliases : ∀ d q, (d, q) ∈ c.aliases ↔
    x.Aliased d.predicate ∧ d ∈ x.sources d.predicate ∧ q = d.alias
  mem_rules : ∀ r, r ∈ c.rules ↔
    r ∈ x.rules ∨ ∃ p d, x.Aliased p ∧ d ∈ x.sources p ∧ r = importRule p d.alias
  mem_facts : ∀ p fs, (p, fs) ∈ c.facts ↔ fs = x.factsOf p ∧ fs ≠ []
  ordered : Ordered c

variable {x : Content} {c : Classification}

-- A predicate with one source and no rules is not moved at the end of a statement.
theorem closedForm_iff : ClosedForm x c ↔ Progress x x.Aliased c := by
  have hedb (p : Predicate) (d : Declaration) :
      p ∉ x.heads ∧ x.sources p = [d] ↔ ¬x.Aliased p ∧ p ∉ x.heads ∧ x.sources p = [d] := by
    refine ⟨fun ⟨hp, hs⟩ => ⟨?_, hp, hs⟩, fun h => h.2⟩
    simp [Content.Aliased, hp, hs]
  constructor
  · rintro ⟨hidb, hmem, haliased, haliases, hrules, hfacts, hordered⟩
    exact ⟨hidb, fun p d => (hmem p d).trans (hedb p d), haliased, haliases, hrules, hfacts,
      hordered⟩
  · rintro ⟨hidb, hmem, haliased, haliases, hrules, hfacts, hordered⟩
    exact ⟨hidb, fun p d => (hmem p d).trans (hedb p d).symm, haliased, haliases, hrules, hfacts,
      hordered⟩

-- Declaring one more source changes nothing but what is said of its predicate.
private theorem aliased_declare_of_ne {p : Predicate} {d : Declaration} (hp : p ≠ d.predicate) :
    (x.declare d).Aliased p ↔ x.Aliased p := by
  simp only [Content.Aliased, Content.sources_declare_of_ne x hp, Content.heads_declare]

private theorem congr_declare (h : Progress x x.Aliased c) {d : Declaration}
    (hany : (x.sources d.predicate).any d.same = true) :
    Progress (x.declare d) (x.declare d).Aliased c := by
  have hsources (p : Predicate) : (x.declare d).sources p = x.sources p := by
    by_cases hp : p = d.predicate
    · subst hp
      simp [Content.sources_declare_self, hany]
    · exact Content.sources_declare_of_ne x hp
  refine h.congr ?_ (fun _ => Iff.rfl) hsources rfl rfl
  intro p
  simp only [Content.Aliased, hsources, Content.heads_declare]

private theorem congr_moved {y : Content} {moved : Predicate → Prop} (h : Progress y moved c)
    (hmoved : ∀ p, y.Aliased p ↔ moved p) : Progress y y.Aliased c :=
  h.congr hmoved (fun _ => Iff.rfl) (fun _ => rfl) rfl rfl

-- Without rules and without a source of its own, a predicate has several sources or none.
private theorem aliased_iff_of_lookup_eq_none (h : Progress x x.Aliased c) {p : Predicate}
    (hown : lookup p c.edb = none) (hheads : p ∉ x.heads) :
    x.Aliased p ↔ x.sources p ≠ [] := by
  refine ⟨And.left, fun hs => ?_⟩
  match hsources : x.sources p with
  | [] => exact absurd hsources hs
  | [own] =>
    have ha : ¬x.Aliased p := by simp [Content.Aliased, hsources, hheads]
    have hm := (h.mem_edb p own).mpr ⟨ha, hheads, hsources⟩
    exact False.elim (lookup_eq_none_iff.mp hown _ hm Std.ReflOrd.compare_self)
  | _ :: _ :: _ => exact ⟨hs, .inr (by simp [hsources])⟩

-- The cases are those of the predicate: whether it has rules or stand-ins, whether it has a
-- source of its own, and whether the declaration was met before.
theorem progress_register (h : Progress x x.Aliased c) (d : Declaration) :
    Progress (x.declare d) (x.declare d).Aliased (c.register d) := by
  have hself := Content.sources_declare_self d x
  unfold register
  by_cases hin : d.predicate ∈ c.idb ∨ d.predicate ∈ c.aliased
  · have hd : x.sources d.predicate ≠ [] → x.Aliased d.predicate := by
      intro hs
      rcases hin with hin | hin
      · exact ⟨hs, .inl ((h.mem_idb _).mp hin)⟩
      · exact (h.mem_aliased _).mp hin
    simp only [Bool.or_eq_true, decide_eq_true_eq, hin, if_true, h.contains_aliases hd]
    by_cases hany : (x.sources d.predicate).any d.same = true
    · simpa only [hany, if_true] using congr_declare h hany
    · simp only [hany, if_false, Bool.false_eq_true] at hself ⊢
      have hmoved : x.Aliased d.predicate ∨
          d.predicate ∈ x.heads ∧ x.sources d.predicate = [] := by
        by_cases hs : x.sources d.predicate = []
        · refine .inr ⟨(h.mem_idb _).mp (hin.resolve_right ?_), hs⟩
          rw [h.mem_aliased]
          exact fun ha => ha.1 hs
        · exact .inl (hd hs)
      refine congr_moved (h.declare_addAlias hmoved (eq_false_of_ne_true hany)) ?_
      intro p
      by_cases hp : p = d.predicate
      · subst hp
        simp only [Content.Aliased, hself, Content.heads_declare, true_or, iff_true]
        rcases hmoved with ⟨hs, hm⟩ | ⟨hm, -⟩
        · refine ⟨by simp, hm.imp_right fun hl => ?_⟩
          simp only [List.length_append, List.length_singleton]
          omega
        · exact ⟨by simp, .inl hm⟩
      · rw [aliased_declare_of_ne hp]
        exact ⟨.inr, Or.rec (fun he => absurd he hp) id⟩
  · simp only [Bool.or_eq_true, decide_eq_true_eq, hin, if_false]
    obtain ⟨hidb, haliased⟩ := not_or.mp hin
    have hheads : d.predicate ∉ x.heads := (h.mem_idb _).not.mp hidb
    have hmoved : ¬x.Aliased d.predicate := (h.mem_aliased _).not.mp haliased
    cases hown : lookup d.predicate c.edb with
    | none =>
      have hs : x.sources d.predicate = [] := by
        by_contra hs
        exact hmoved ((aliased_iff_of_lookup_eq_none h hown hheads).mpr hs)
      refine congr_moved (h.declare_own hmoved hheads hs) ?_
      intro p
      by_cases hp : p = d.predicate
      · subst hp
        simp [Content.Aliased, hself, hs, hheads]
      · exact aliased_declare_of_ne hp
    | some own =>
      obtain ⟨-, -, hs⟩ := (h.mem_edb _ own).mp ((lookup_eq_some_iff h.ordered.edb).mp hown)
      have hany : (x.sources d.predicate).any d.same = own.same d := by
        simp [hs, Declaration.same_comm d own]
      by_cases hsame : own.same d = true
      · simpa only [hsame, if_true] using congr_declare h (hany.trans hsame)
      · rw [hany, hs] at hself
        simp only [hsame, if_false, Bool.false_eq_true] at hself ⊢
        refine congr_moved ((h.demote hown).declare_addAlias (.inl (.inl rfl))
          (hany.trans (eq_false_of_ne_true hsame))) ?_
        intro p
        by_cases hp : p = d.predicate
        · subst hp
          simp [Content.Aliased, hself]
        · rw [aliased_declare_of_ne hp]
          simp [hp]

-- A predicate in a rule head: its only source, if it has one, moves to a stand-in.
theorem progress_derive (h : Progress x x.Aliased c) (p : Predicate) :
    Progress (x.addHeads [p]) (x.addHeads [p]).Aliased (c.derive p) := by
  have hother {q : Predicate} (hq : q ≠ p) : (x.addHeads [p]).Aliased q ↔ x.Aliased q := by
    simp [Content.Aliased, hq]
  have hself : (x.addHeads [p]).Aliased p ↔ x.sources p ≠ [] := by
    simp [Content.Aliased]
  unfold derive
  by_cases hidb : p ∈ c.idb
  · have hheads := (h.mem_idb p).mp hidb
    simp only [hidb, if_true]
    refine h.congr ?_ ?_ (fun _ => rfl) rfl rfl
    · intro q
      by_cases hq : q = p
      · subst hq
        simp [Content.Aliased, hheads]
      · exact hother hq
    · intro q
      by_cases hq : q = p
      · simp [hq, hheads]
      · simp [hq]
  · have hheads := (h.mem_idb p).not.mp hidb
    simp only [hidb, if_false]
    cases hown : lookup p c.edb with
    | none =>
      have hs := aliased_iff_of_lookup_eq_none h hown hheads
      have hp : x.Aliased p ∨ x.sources p = [] := by
        rw [hs]
        exact (Decidable.em (x.sources p = [])).symm
      refine congr_moved (h.addHead hp) ?_
      intro q
      by_cases hq : q = p
      · subst hq
        rw [hself, hs]
      · exact hother hq
    | some own =>
      obtain ⟨-, -, hs⟩ := (h.mem_edb p own).mp ((lookup_eq_some_iff h.ordered.edb).mp hown)
      refine congr_moved ((h.demote hown).addHead (.inl (.inl rfl))) ?_
      intro q
      by_cases hq : q = p
      · subst hq
        simp [hself, hs]
      · rw [hother hq]
        simp [hq]

theorem progress_derive_all (h : Progress x x.Aliased c) (ps : List Predicate) :
    Progress (x.addHeads ps) (x.addHeads ps).Aliased (ps.foldl (fun c p => c.derive p) c) := by
  induction ps generalizing x c with
  | nil => simpa [Content.addHeads] using h
  | cons p ps ih => simpa [Content.addHeads] using ih (progress_derive h p)

theorem progress_visit {ss : List Statement} (h : Progress (.of ss) (Content.of ss).Aliased c)
    (s : Statement) :
    Progress (.of (ss ++ [s])) (Content.of (ss ++ [s])).Aliased (c.visit s) := by
  cases s with
  | fact f =>
    rw [Content.of_concat_fact]
    exact (progress_register h _).addFact f
  | rule r =>
    rw [Content.of_concat_rule]
    exact progress_derive_all (h.addRule r) _
  | dataSource d =>
    rw [Content.of_concat_dataSource]
    exact progress_register h d

-- The classification of a knowledge base, whatever the order of its statements.
theorem closedForm_build (ss : List Statement) : ClosedForm (.of ss) (build ss) := by
  rw [closedForm_iff]
  induction ss using List.reverseRecOn with
  | nil => exact congr_moved Progress.empty (by simp [Content.Aliased, Content.of, Content.sources])
  | append_singleton ss s ih =>
    unfold build
    rw [List.foldl_append]
    exact progress_visit ih s

theorem ClosedForm.eq {c' : Classification} (h : ClosedForm x c) (h' : ClosedForm x c') :
    c = c' := by
  have hidb := eq_of_mem_iff id (by simpa using h.ordered.idb) (by simpa using h'.ordered.idb)
    fun p => (h.mem_idb p).trans (h'.mem_idb p).symm
  have hedb := eq_of_mem_iff Prod.fst h.ordered.edb h'.ordered.edb
    fun e => (h.mem_edb e.1 e.2).trans (h'.mem_edb e.1 e.2).symm
  have haliased := eq_of_mem_iff id (by simpa using h.ordered.aliased)
    (by simpa using h'.ordered.aliased)
    fun p => (h.mem_aliased p).trans (h'.mem_aliased p).symm
  have haliases := eq_of_mem_iff Prod.fst h.ordered.aliases h'.ordered.aliases
    fun e => (h.mem_aliases e.1 e.2).trans (h'.mem_aliases e.1 e.2).symm
  have hrules := eq_of_mem_iff id (by simpa using h.ordered.rules) (by simpa using h'.ordered.rules)
    fun r => (h.mem_rules r).trans (h'.mem_rules r).symm
  have hfacts := eq_of_mem_iff Prod.fst h.ordered.facts h'.ordered.facts
    fun e => (h.mem_facts e.1 e.2).trans (h'.mem_facts e.1 e.2).symm
  cases c
  cases c'
  simp only at hidb hedb haliased haliases hrules hfacts
  simp only [hidb, hedb, haliased, haliases, hrules, hfacts]

-- A predicate with a source of its own has neither rules nor stand-ins.
theorem ClosedForm.disjoint (h : ClosedForm x c) {p : Predicate} {d : Declaration}
    (hown : (p, d) ∈ c.edb) : p ∉ c.idb ∧ p ∉ c.aliased := by
  obtain ⟨hheads, hs⟩ := (h.mem_edb p d).mp hown
  rw [h.mem_idb, h.mem_aliased]
  exact ⟨hheads, by simp [Content.Aliased, hheads, hs]⟩

-- Reading statements one after the other gives their closed form and nothing else.
theorem closedForm_iff_eq_build (ss : List Statement) :
    (∀ c, ClosedForm (.of ss) c ↔ c = build ss) ∧
      ∀ p d, (p, d) ∈ (build ss).edb → p ∉ (build ss).idb ∧ p ∉ (build ss).aliased := by
  constructor
  · intro c
    constructor
    · intro h
      exact h.eq (closedForm_build ss)
    · rintro rfl
      exact closedForm_build ss
  · intro p d hown
    exact (closedForm_build ss).disjoint hown

end Rulebook.Classification
