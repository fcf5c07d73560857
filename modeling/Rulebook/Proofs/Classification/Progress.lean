import Rulebook.Proofs.Classification.Content
import Rulebook.Proofs.Sorted

namespace Rulebook.Classification

open Sorted

-- The parts of a classification are sets and tables in ascending order.
structure Ordered (c : Classification) : Prop where
  idb : Ascending c.idb
  edb : Ascending (c.edb.map Prod.fst)
  aliased : Ascending c.aliased
  aliases : Ascending (c.aliases.map Prod.fst)
  rules : Ascending c.rules
  facts : Ascending (c.facts.map Prod.fst)

-- What holds while a content is read. A predicate is moved once its sources have stand-ins; in
-- the middle of a statement this can be ahead of the content.
structure Progress (x : Content) (moved : Predicate → Prop) (c : Classification) : Prop where
  mem_idb : ∀ p, p ∈ c.idb ↔ p ∈ x.heads
  mem_edb : ∀ p d, (p, d) ∈ c.edb ↔ ¬moved p ∧ p ∉ x.heads ∧ x.sources p = [d]
  mem_aliased : ∀ p, p ∈ c.aliased ↔ moved p
  mem_aliases : ∀ d q, (d, q) ∈ c.aliases ↔
    moved d.predicate ∧ d ∈ x.sources d.predicate ∧ q = d.alias
  mem_rules : ∀ r, r ∈ c.rules ↔
    r ∈ x.rules ∨ ∃ p d, moved p ∧ d ∈ x.sources p ∧ r = importRule p d.alias
  mem_facts : ∀ p fs, (p, fs) ∈ c.facts ↔ fs = x.factsOf p ∧ fs ≠ []
  ordered : Ordered c

variable {x : Content} {moved : Predicate → Prop} {c : Classification}

namespace Progress

theorem empty : Progress {} (fun _ => False) {} := by
  have hordered : Ordered {} := by constructor <;> exact ascending_nil
  constructor
  case ordered => exact hordered
  all_goals simp [Content.sources, Content.factsOf]

theorem congr {y : Content} {moved' : Predicate → Prop} (h : Progress x moved c)
    (hmoved : ∀ p, moved' p ↔ moved p) (hheads : ∀ p, p ∈ y.heads ↔ p ∈ x.heads)
    (hsources : ∀ p, y.sources p = x.sources p) (hrules : y.rules = x.rules)
    (hfacts : y.facts = x.facts) : Progress y moved' c := by
  obtain ⟨hidb, hmem, haliased, haliases, hmemr, hmemf, hordered⟩ := h
  constructor
  case mem_idb => simpa only [hheads] using hidb
  case mem_edb => simpa only [hheads, hsources, hmoved] using hmem
  case mem_aliased => simpa only [hmoved] using haliased
  case mem_aliases => simpa only [hmoved, hsources] using haliases
  case mem_rules => simpa only [hmoved, hsources, hrules] using hmemr
  case mem_facts => simpa only [Content.factsOf, hfacts] using hmemf
  case ordered => exact hordered

theorem lookup_aliases_eq_none (h : Progress x moved c) {d : Declaration}
    (hd : moved d.predicate → (x.sources d.predicate).any d.same = false) :
    lookup d c.aliases = none := by
  rw [lookup_eq_none_iff]
  rintro ⟨k, q⟩ hm hk
  have hs := Declaration.same_iff.mpr hk
  obtain ⟨hk, hm, -⟩ := (h.mem_aliases k q).mp hm
  rw [← Declaration.predicate_eq_of_same hs] at hk hm
  exact List.any_eq_false.mp (hd hk) k hm hs

-- A source has a stand-in already if an equal one was met before.
theorem contains_aliases (h : Progress x moved c) {d : Declaration}
    (hd : x.sources d.predicate ≠ [] → moved d.predicate) :
    contains d c.aliases = (x.sources d.predicate).any d.same := by
  rw [Bool.eq_iff_iff]
  constructor
  · intro hc
    by_contra hany
    have hnone := h.lookup_aliases_eq_none fun _ => eq_false_of_ne_true hany
    simp [contains, hnone] at hc
  · intro hany
    obtain ⟨k, hk, hs⟩ := List.any_eq_true.mp hany
    have hp := Declaration.predicate_eq_of_same hs
    have hm := (h.mem_aliases k k.alias).mpr
      ⟨hp ▸ hd (List.ne_nil_of_mem hk), hp ▸ hk, rfl⟩
    exact contains_eq_true_iff.mpr ⟨_, hm, Declaration.same_iff.mp hs⟩

-- Give a stand-in to one more source of a predicate, all others of which have theirs.
theorem addAlias {y : Content} {edb : List (Predicate × Declaration)} (h : Progress x moved c)
    {d : Declaration} (hlookup : lookup d c.aliases = none)
    (hself : ∀ e, e ∈ y.sources d.predicate ↔
      e = d ∨ moved d.predicate ∧ e ∈ x.sources d.predicate)
    (hother : ∀ p, p ≠ d.predicate → y.sources p = x.sources p)
    (hedb : ∀ p e, (p, e) ∈ edb ↔ (p, e) ∈ c.edb ∧ p ≠ d.predicate)
    (hascending : Ascending (edb.map Prod.fst))
    (hheads : y.heads = x.heads) (hrules : y.rules = x.rules) (hfacts : y.facts = x.facts) :
    Progress y (fun p => p = d.predicate ∨ moved p)
      (Classification.addAlias d { c with edb := edb }) := by
  obtain ⟨hidb, hmem, haliased, haliases, hmemr, hmemf, hordered⟩ := h
  constructor
  case mem_idb => rwa [hheads]
  case mem_edb =>
    intro p e
    simp only [Classification.addAlias, hedb, hmem, hheads]
    by_cases hp : p = d.predicate
    · simp [hp]
    · simp [hp, hother p hp]
  case mem_aliased =>
    intro p
    simp only [Classification.addAlias, mem_insert, haliased]
  case mem_aliases =>
    intro e q
    simp only [Classification.addAlias, mem_insertNew hlookup, Prod.mk.injEq, haliases]
    by_cases hp : e.predicate = d.predicate
    · simp only [hp, true_or, true_and, hself]
      grind
    · have hne : e ≠ d := fun he => hp (congrArg Declaration.predicate he)
      simp only [hp, hne, false_or, false_and, hother e.predicate hp]
  case mem_rules =>
    intro r
    simp only [Classification.addAlias, mem_insert, hmemr, hrules]
    constructor
    · rintro (rfl | hr | ⟨p, e, hp, he, rfl⟩)
      · exact .inr ⟨d.predicate, d, .inl rfl, (hself d).mpr (.inl rfl), rfl⟩
      · exact .inl hr
      · refine .inr ⟨p, e, .inr hp, ?_, rfl⟩
        by_cases hpd : p = d.predicate
        · subst hpd
          exact (hself e).mpr (.inr ⟨hp, he⟩)
        · rwa [hother p hpd]
    · rintro (hr | ⟨p, e, hp, he, rfl⟩)
      · exact .inr (.inl hr)
      · by_cases hpd : p = d.predicate
        · subst hpd
          rcases (hself e).mp he with rfl | ⟨hm, he⟩
          · exact .inl rfl
          · exact .inr (.inr ⟨_, e, hm, he, rfl⟩)
        · rw [hother p hpd] at he
          exact .inr (.inr ⟨p, e, hp.resolve_left hpd, he, rfl⟩)
  case mem_facts =>
    intro p fs
    simp only [Classification.addAlias, Content.factsOf, hfacts, hmemf]
  case ordered =>
    exact { hordered with
      edb := hascending
      aliased := ascending_insert hordered.aliased
      aliases := ascending_insertNew hordered.aliases
      rules := ascending_insert hordered.rules }

-- The only source of a predicate moves to a stand-in.
theorem demote (h : Progress x moved c) {p : Predicate} {own : Declaration}
    (hown : lookup p c.edb = some own) :
    Progress x (fun q => q = p ∨ moved q)
      (Classification.addAlias own { c with edb := erase p c.edb }) := by
  obtain ⟨hmoved, hheads, hsources⟩ :=
    (h.mem_edb p own).mp ((lookup_eq_some_iff h.ordered.edb).mp hown)
  have hp : own.predicate = p := (Content.mem_of_mem_sources (x := x) (by simp [hsources])).2
  subst hp
  refine h.addAlias (h.lookup_aliases_eq_none fun hm => False.elim (hmoved hm)) ?_
    (fun _ _ => rfl) ?_ (ascending_erase h.ordered.edb) rfl rfl rfl
  · simp [hsources, hmoved]
  · intro q e
    exact mem_erase h.ordered.edb

-- A source of a predicate that has stand-ins, or of one that has rules and no source yet.
theorem declare_addAlias (h : Progress x moved c) {d : Declaration}
    (hd : moved d.predicate ∨ d.predicate ∈ x.heads ∧ x.sources d.predicate = [])
    (hnew : (x.sources d.predicate).any d.same = false) :
    Progress (x.declare d) (fun q => q = d.predicate ∨ moved q) (c.addAlias d) := by
  have hself := Content.sources_declare_self d x
  simp only [hnew, Bool.false_eq_true, if_false] at hself
  have hedb : ∀ p e, (p, e) ∈ c.edb ↔ (p, e) ∈ c.edb ∧ p ≠ d.predicate := by
    intro p e
    refine ⟨fun he => ⟨he, ?_⟩, fun he => he.1⟩
    rintro rfl
    obtain ⟨hmoved, hheads, hsources⟩ := (h.mem_edb _ e).mp he
    rcases hd with hd | hd
    · exact hmoved hd
    · exact hheads hd.1
  refine h.addAlias (h.lookup_aliases_eq_none fun _ => hnew) ?_
    (fun p hp => Content.sources_declare_of_ne x hp) hedb h.ordered.edb rfl rfl rfl
  intro e
  rw [hself, List.mem_append, List.mem_singleton]
  rcases hd with hd | ⟨-, hd⟩ <;> simp [hd, or_comm]

-- A predicate with nothing yet gets a source of its own.
theorem declare_own (h : Progress x moved c) {d : Declaration} (hmoved : ¬moved d.predicate)
    (hheads : d.predicate ∉ x.heads) (hsources : x.sources d.predicate = []) :
    Progress (x.declare d) moved { c with edb := insertNew d.predicate d c.edb } := by
  have hself : (x.declare d).sources d.predicate = [d] := by
    simp [Content.sources_declare_self, hsources]
  have hother {p : Predicate} (hp : p ≠ d.predicate) := Content.sources_declare_of_ne x hp
  have hlookup : lookup d.predicate c.edb = none := by
    rw [lookup_eq_none_iff]
    rintro ⟨p, e⟩ he hp
    obtain rfl := Std.compare_eq_iff_eq.mp hp
    simp [h.mem_edb, hsources] at he
  obtain ⟨hidb, hmem, haliased, haliases, hmemr, hmemf, hordered⟩ := h
  constructor
  case mem_idb => exact hidb
  case mem_edb =>
    intro p e
    simp only [mem_insertNew hlookup, Prod.mk.injEq, hmem]
    by_cases hp : p = d.predicate
    · subst hp
      simp [hself, hmoved, hsources, hheads, eq_comm]
    · simp [hp, hother hp]
  case mem_aliased => exact haliased
  case mem_aliases =>
    intro e q
    rw [haliases]
    refine and_congr_right fun hm => ?_
    rw [hother fun he => hmoved (he ▸ hm)]
  case mem_rules =>
    intro r
    rw [hmemr]
    refine or_congr_right (exists₂_congr fun p e => and_congr_right fun hm => ?_)
    rw [hother fun he => hmoved (he ▸ hm)]
  case mem_facts => exact hmemf
  case ordered => exact { hordered with edb := ascending_insertNew hordered.edb }

-- A predicate that has no source, or none of its own any more, becomes derived.
theorem addHead (h : Progress x moved c) {p : Predicate} (hp : moved p ∨ x.sources p = []) :
    Progress (x.addHeads [p]) moved { c with idb := Sorted.insert p c.idb } := by
  obtain ⟨hidb, hmem, haliased, haliases, hmemr, hmemf, hordered⟩ := h
  constructor
  case mem_idb => simp [mem_insert, hidb, or_comm]
  case mem_edb =>
    intro q e
    simp only [hmem, Content.heads_addHeads, Content.sources_addHeads, List.mem_append,
      List.mem_singleton]
    refine and_congr_right fun hm => ?_
    by_cases hq : q = p
    · subst hq
      simp [hp.resolve_left hm]
    · simp [hq]
  case mem_aliased => exact haliased
  case mem_aliases => exact haliases
  case mem_rules => exact hmemr
  case mem_facts => exact hmemf
  case ordered => exact { hordered with idb := ascending_insert hordered.idb }

theorem addRule (h : Progress x moved c) (r : Rule) :
    Progress (x.addRule r) moved { c with rules := Sorted.insert r c.rules } := by
  obtain ⟨hidb, hmem, haliased, haliases, hmemr, hmemf, hordered⟩ := h
  constructor
  case mem_rules =>
    intro s
    simp only [mem_insert, hmemr, Content.addRule, List.mem_append, List.mem_singleton]
    exact or_assoc.symm.trans (or_congr_left or_comm)
  case ordered => exact { hordered with rules := ascending_insert hordered.rules }
  all_goals assumption

theorem addFact (h : Progress x moved c) (f : Fact) :
    Progress (x.addFact f) moved
      { c with facts := alter (fun fs => fs.getD [] ++ [f]) f.predicate c.facts } := by
  obtain ⟨hidb, hmem, haliased, haliases, hmemr, hmemf, hordered⟩ := h
  have hlookup : (lookup f.predicate c.facts).getD [] = x.factsOf f.predicate := by
    cases hl : lookup f.predicate c.facts with
    | some fs => exact ((hmemf _ fs).mp ((lookup_eq_some_iff hordered.facts).mp hl)).1
    | none =>
      by_contra hne
      have hm := (hmemf f.predicate _).mpr ⟨rfl, Ne.symm hne⟩
      exact lookup_eq_none_iff.mp hl _ hm Std.ReflOrd.compare_self
  constructor
  case mem_facts =>
    intro p fs
    simp only [mem_alter hordered.facts, hlookup, hmemf, Prod.mk.injEq, Content.factsOf,
      Content.addFact, List.filter_append]
    by_cases hp : p = f.predicate
    · subst hp
      simp only [true_and, ne_eq, not_true_eq_false, and_false, or_false, decide_true,
        List.filter_cons_of_pos, List.filter_nil]
      constructor
      · rintro rfl
        simp
      · exact And.left
    · simp [hp, Ne.symm hp]
  case ordered => exact { hordered with facts := ascending_alter hordered.facts }
  all_goals assumption

end Progress

end Rulebook.Classification
