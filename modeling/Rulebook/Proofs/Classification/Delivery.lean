import Rulebook.Proofs.Classification.ClosedForm
import Rulebook.Proofs.Datalog

namespace Rulebook.Classification

open Sorted

-- The rows of facts, predicate by predicate, with the name that each list is loaded under.
def deliver (c : Classification) (facts : List (Predicate × List Fact)) :
    List (String × List Row) :=
  facts.filterMap fun e =>
    (c.factTarget e.1).map fun target => (target.engineName, e.2.map Fact.row)

def deliveries (c : Classification) : List (String × List Row) :=
  c.deliver c.facts

-- All rows that are loaded under a name.
def delivered (k : String) (c : Classification) : List Row :=
  (c.deliveries.filter (·.1 = k)).flatMap Prod.snd

theorem mem_delivered {c : Classification} {k : String} {row : Row} :
    row ∈ c.delivered k ↔ ∃ p fs t, (p, fs) ∈ c.facts ∧ c.factTarget p = some t ∧
      t.engineName = k ∧ ∃ f ∈ fs, f.row = row := by
  simp only [delivered, deliveries, deliver, List.mem_flatMap, List.mem_filter, List.mem_filterMap,
    Option.map_eq_some_iff, decide_eq_true_eq]
  constructor
  · rintro ⟨_, ⟨⟨⟨p, fs⟩, hp, t, ht, rfl⟩, hk⟩, hrow⟩
    exact ⟨p, fs, t, hp, ht, hk, List.mem_map.mp hrow⟩
  · rintro ⟨p, fs, t, hp, ht, hk, hrow⟩
    exact ⟨_, ⟨⟨(p, fs), hp, t, ht, rfl⟩, hk⟩, List.mem_map.mpr hrow⟩

-- Data with all rows that are loaded under the names that they are loaded under, and no others.
def Delivers (c : Classification) (data : List (String × List Row)) : Prop :=
  ∀ k row, (∃ rows, (k, rows) ∈ data ∧ row ∈ rows) ↔ row ∈ c.delivered k

theorem Delivers.of_mem_iff {c : Classification} {data : List (String × List Row)}
    (h : ∀ k rows, (k, rows) ∈ data ↔ k ∈ c.deliveries.map Prod.fst ∧ rows = c.delivered k) :
    c.Delivers data := by
  intro k row
  constructor
  · rintro ⟨rows, hk, hrow⟩
    rwa [← ((h k rows).mp hk).2]
  · intro hrow
    obtain ⟨e, he, -⟩ := List.mem_flatMap.mp hrow
    obtain ⟨he, hk⟩ := List.mem_filter.mp he
    exact ⟨_, (h k _).mpr ⟨List.mem_map.mpr ⟨e, he, of_decide_eq_true hk⟩, rfl⟩, hrow⟩

-- An external source is listed for a declaration, with the predicate that it is loaded into: the
-- declared one, or the stand-in.
structure Lists (c : Classification) (q : Predicate) (d : Declaration) : Prop where
  listed : ∃ s, d.source = some s ∧ (q, s) ∈ c.external
  place : (q, d) ∈ c.edb ∨ (d, q) ∈ c.aliases

theorem mem_external {c : Classification} {q : Predicate} {s : DataSource} :
    (q, s) ∈ c.external ↔
      ∃ d, d.source = some s ∧ ((q, d) ∈ c.edb ∨ (d, q) ∈ c.aliases) := by
  simp only [external, List.mem_append, List.mem_filterMap, Option.map_eq_some_iff, Prod.mk.injEq]
  constructor
  · rintro (⟨⟨p, d⟩, hd, s', hs, rfl, rfl⟩ | ⟨⟨d, p⟩, hd, s', hs, rfl, rfl⟩)
    · exact ⟨d, hs, .inl hd⟩
    · exact ⟨d, hs, .inr hd⟩
  · rintro ⟨d, hs, hd | hd⟩
    · exact .inl ⟨(q, d), hd, s, hs, rfl, rfl⟩
    · exact .inr ⟨(d, q), hd, s, hs, rfl, rfl⟩

theorem lists_iff {c : Classification} {q : Predicate} {d : Declaration} :
    c.Lists q d ↔ ((q, d) ∈ c.edb ∨ (d, q) ∈ c.aliases) ∧ d.isLocalFacts = false := by
  have hlocal : d.isLocalFacts = false ↔ ∃ s, d.source = some s := by
    rw [Declaration.isLocalFacts, Option.isNone_eq_false_iff, Option.isSome_iff_exists]
  constructor
  · rintro ⟨⟨s, hs, -⟩, hplace⟩
    exact ⟨hplace, hlocal.mpr ⟨s, hs⟩⟩
  · rintro ⟨hplace, h⟩
    obtain ⟨s, hs⟩ := hlocal.mp h
    exact ⟨⟨s, hs, mem_external.mpr ⟨d, hs, hplace⟩⟩, hplace⟩

-- Every external source is listed for some declaration.
theorem exists_lists {c : Classification} {q : Predicate} {s : DataSource}
    (h : (q, s) ∈ c.external) : ∃ d, d.source = some s ∧ c.Lists q d := by
  obtain ⟨d, hs, hplace⟩ := mem_external.mp h
  exact ⟨d, hs, ⟨s, hs, h⟩, hplace⟩

theorem factTarget_of_mem_edb {c : Classification} {p : Predicate} {d : Declaration}
    (hd : (p, d) ∈ c.edb) : c.factTarget p = some p := by
  have hc : contains p c.edb = true :=
    contains_eq_true_iff.mpr ⟨_, hd, Std.ReflOrd.compare_self⟩
  simp [factTarget, hc]

namespace ClosedForm

variable {x : Content} {c : Classification}

-- Every source is the own one of its predicate, or has a stand-in with an import rule.
theorem placed (h : ClosedForm x c) {p : Predicate} {d : Declaration} (hd : d ∈ x.sources p) :
    (p, d) ∈ c.edb ∨ (d, d.alias) ∈ c.aliases ∧ importRule p d.alias ∈ c.rules := by
  have hp := (Content.mem_of_mem_sources hd).2
  by_cases ha : x.Aliased p
  · refine .inr ⟨(h.mem_aliases d _).mpr ?_, (h.mem_rules _).mpr (.inr ⟨p, d, ha, hd, rfl⟩)⟩
    rw [hp]
    exact ⟨ha, hd, rfl⟩
  · refine .inl ((h.mem_edb p d).mpr ?_)
    have hs := List.ne_nil_of_mem hd
    simp only [Content.Aliased, hs, ne_eq, not_false_eq_true, true_and, not_or, Nat.not_le] at ha
    refine ⟨ha.1, ?_⟩
    have hone : (x.sources p).length = 1 := by
      have hpos := List.length_pos_iff.mpr hs
      omega
    obtain ⟨e, he⟩ := List.length_eq_one_iff.mp hone
    simpa [he, eq_comm] using hd

theorem factTarget_of_mem_aliases (h : ClosedForm x c) {p q : Predicate}
    (hq : (.localFacts p, q) ∈ c.aliases) : c.factTarget p = some q := by
  have hc : contains p c.edb = false := by
    rw [Bool.eq_false_iff]
    intro hc
    obtain ⟨⟨p', d⟩, hm, hp⟩ := contains_eq_true_iff.mp hc
    obtain rfl := Std.compare_eq_iff_eq.mp hp
    have ha := ((h.mem_aliases _ _).mp hq).1
    exact (h.disjoint hm).2 ((h.mem_aliased _).mpr ha)
  have hl := lookup_eq_some_of_mem h.ordered.aliases Std.ReflOrd.compare_self hq
  simpa [factTarget, hc, aliasFor] using hl

-- The facts over a predicate go to the predicate itself or to the stand-in for them.
theorem factTarget_cases (h : ClosedForm x c) {p q : Predicate} (hq : c.factTarget p = some q) :
    q = p ∨ ∃ d ∈ x.sources p, q = d.alias := by
  unfold factTarget at hq
  split at hq
  · exact .inl (Option.some.inj hq).symm
  · obtain ⟨d, hd, hm⟩ := exists_of_lookup_eq_some hq
    have hp := Declaration.predicate_eq_of_same (Declaration.same_iff.mpr hd)
    obtain ⟨-, hs, hq⟩ := (h.mem_aliases d q).mp hm
    rw [← hp] at hs
    exact .inr ⟨d, hs, hq⟩

end ClosedForm

variable {ss : List Statement} {c : Classification}

theorem factTarget_eq_some_iff (hc : ClosedForm (.of ss) c) {p t : Predicate} :
    c.factTarget p = some t ↔
      ((∃ d, (p, d) ∈ c.edb) ∧ t = p) ∨ (.localFacts p, t) ∈ c.aliases := by
  constructor
  · intro h
    unfold factTarget at h
    split at h
    next hown =>
      obtain ⟨⟨_, d⟩, hd, hp⟩ := Sorted.contains_eq_true_iff.mp hown
      obtain rfl := Std.compare_eq_iff_eq.mp hp
      exact .inl ⟨⟨d, hd⟩, (Option.some.inj h).symm⟩
    next =>
      obtain ⟨d, hsame, hd⟩ := Sorted.exists_of_lookup_eq_some h
      obtain rfl := Declaration.eq_of_same_of_isLocalFacts (Declaration.same_iff.mpr hsame) rfl
      exact .inr hd
  · rintro (⟨⟨d, hd⟩, rfl⟩ | h)
    · exact factTarget_of_mem_edb hd
    · exact hc.factTarget_of_mem_aliases h

-- The facts over a predicate are loaded into something.
theorem exists_factTarget (hc : ClosedForm (.of ss) c) {f : Fact} (hf : .fact f ∈ ss) :
    ∃ t, c.factTarget f.predicate = some t := by
  obtain ⟨d, hd, hsame⟩ := Content.exists_mem_sources (Content.mem_declared_of_fact hf)
  obtain rfl := Declaration.eq_of_same_of_isLocalFacts hsame rfl
  rcases hc.placed hd with hd | ⟨hd, -⟩
  · exact ⟨_, factTarget_of_mem_edb hd⟩
  · exact ⟨_, hc.factTarget_of_mem_aliases hd⟩

-- Facts that were gathered are over predicates with a target.
theorem exists_factTarget_of_facts {ss : List Statement} {p : Predicate}
    {fs : List Fact} (h : (p, fs) ∈ (build ss).facts) :
    ∃ target, (build ss).factTarget p = some target := by
  have hc := closedForm_build ss
  obtain ⟨rfl, hne⟩ := (hc.mem_facts p fs).mp h
  obtain ⟨f, hf⟩ := List.exists_mem_of_ne_nil _ hne
  obtain ⟨hf, hp⟩ := List.mem_filter.mp hf
  rw [← of_decide_eq_true hp]
  exact exists_factTarget hc (Content.mem_facts_of.mp hf)

end Rulebook.Classification
