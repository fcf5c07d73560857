import Rulebook.Proofs.Classification.ClosedForm

namespace Rulebook

namespace Content

theorem sources_ne_nil_iff {p : Predicate} {x : Content} :
    x.sources p ≠ [] ↔ ∃ d ∈ x.declared, d.predicate = p := by
  constructor
  · intro hs
    obtain ⟨d, hd⟩ := List.exists_mem_of_ne_nil _ hs
    exact ⟨d, mem_of_mem_sources hd⟩
  · rintro ⟨d, hd, rfl⟩
    obtain ⟨e, he, -⟩ := exists_mem_sources hd
    exact List.ne_nil_of_mem he

-- Several sources are declarations that differ in more than their spelling.
theorem two_le_length_sources_iff {p : Predicate} {x : Content} :
    2 ≤ (x.sources p).length ↔
      ∃ d ∈ x.declared, ∃ e ∈ x.declared,
        d.predicate = p ∧ e.predicate = p ∧ d.same e = false := by
  constructor
  · intro hlength
    obtain ⟨d, e, l, hs⟩ : ∃ d e l, x.sources p = d :: e :: l := by
      match x.sources p, hlength with
      | d :: e :: l, _ => exact ⟨d, e, l, rfl⟩
    have hd : d ∈ x.sources p := by simp [hs]
    have he : e ∈ x.sources p := by simp [hs]
    refine ⟨d, (mem_of_mem_sources hd).1, e, (mem_of_mem_sources he).1, (mem_of_mem_sources hd).2,
      (mem_of_mem_sources he).2, eq_false_of_ne_true fun hsame => ?_⟩
    have hpair := x.pairwise_sources p
    obtain rfl := eq_of_same_of_mem_sources hd he hsame
    simp [hs] at hpair
  · rintro ⟨d, hd, e, he, rfl, hp, hsame⟩
    obtain ⟨d', hd', hdd'⟩ := exists_mem_sources hd
    obtain ⟨e', he', hee'⟩ := exists_mem_sources he
    rw [hp] at he'
    by_contra hlength
    have heq : d' = e' := by
      match x.sources d.predicate, hd', he', hlength with
      | [_], hd', he', _ =>
        rw [List.mem_singleton.mp hd', List.mem_singleton.mp he']
      | _ :: _ :: _, _, _, hlength => simp at hlength
    subst heq
    rw [Declaration.same_comm] at hee'
    simp [Declaration.same_trans hdd' hee'] at hsame

-- What is declared first is kept as it is spelled.
theorem mem_sources_of_cons (d : Declaration) (ss : List Statement) :
    d ∈ (of (.dataSource d :: ss)).sources d.predicate := by
  simp [sources, of, Statement.declared?, List.eraseDupsBy_cons]

-- The same facts in the same order, and everything else in any.
structure Agree (x y : Content) : Prop where
  facts : x.facts = y.facts
  rules : ∀ r, r ∈ x.rules ↔ r ∈ y.rules
  declared : ∀ d, d ∈ x.declared ↔ d ∈ y.declared
  heads : ∀ p, p ∈ x.heads ↔ p ∈ y.heads

namespace Agree

variable {x y : Content}

theorem symm (h : Agree x y) : Agree y x where
  facts := h.facts.symm
  rules r := (h.rules r).symm
  declared d := (h.declared d).symm
  heads p := (h.heads p).symm

theorem aliased_iff (h : Agree x y) (p : Predicate) : x.Aliased p ↔ y.Aliased p := by
  simp only [Aliased, sources_ne_nil_iff, two_le_length_sources_iff, h.heads, h.declared]

-- A predicate with one source here has one there, perhaps spelled differently.
theorem exists_sources_eq (h : Agree x y) {p : Predicate} {d : Declaration}
    (hs : x.sources p = [d]) : ∃ e, y.sources p = [e] := by
  have hne : y.sources p ≠ [] := by
    rw [sources_ne_nil_iff]
    simp only [← h.declared]
    rw [← sources_ne_nil_iff, hs]
    simp
  have hlength : ¬2 ≤ (y.sources p).length := by
    rw [two_le_length_sources_iff]
    simp only [← h.declared]
    rw [← two_le_length_sources_iff, hs]
    simp
  have hpos := List.length_pos_iff.mpr hne
  exact List.length_eq_one_iff.mp (by omega)

theorem exists_mem_sources (h : Agree x y) {p : Predicate} {d : Declaration}
    (hd : d ∈ x.sources p) : ∃ e ∈ y.sources p, d.same e = true := by
  obtain ⟨hm, rfl⟩ := mem_of_mem_sources hd
  exact Content.exists_mem_sources ((h.declared d).mp hm)

end Agree

end Content

-- The same statements, with the facts in the same order and all others in any.
structure Reordered (ss ts : List Statement) : Prop where
  perm : ss.Perm ts
  facts : ss.filterMap Statement.fact? = ts.filterMap Statement.fact?

theorem Reordered.agree {ss ts : List Statement} (h : Reordered ss ts) :
    Content.Agree (.of ss) (.of ts) where
  facts := h.facts
  rules _ := (h.perm.filterMap Statement.rule?).mem_iff
  declared _ := (h.perm.filterMap Statement.declared?).mem_iff
  heads _ := ((h.perm.filterMap Statement.rule?).flatMap_right _).mem_iff

private theorem filterMap_erase {α β : Type} [DecidableEq α] {f : α → Option β} {a : α}
    (ha : f a = none) (l : List α) : (l.erase a).filterMap f = l.filterMap f := by
  induction l with
  | nil => rfl
  | cons b l ih =>
    by_cases hb : b = a
    · simp [hb, ha]
    · have hbeq : (b == a) = false := beq_false_of_ne hb
      simp only [List.erase_cons, hbeq, Bool.false_eq_true, if_false, List.filterMap_cons, ih]

-- A declaration can be moved to the front.
theorem Reordered.front {ss : List Statement} {d : Declaration} (hd : .dataSource d ∈ ss) :
    Reordered ss (.dataSource d :: ss.erase (.dataSource d)) where
  perm := List.perm_cons_erase hd
  facts := (filterMap_erase (a := Statement.dataSource d) rfl ss).symm

namespace Classification

open Sorted

theorem ClosedForm.mem_standIns {x : Content} {c : Classification} (h : ClosedForm x c)
    {q : Predicate} :
    q ∈ c.aliases.map Prod.snd ↔
      ∃ d, x.Aliased d.predicate ∧ d ∈ x.sources d.predicate ∧ q = d.alias := by
  simp [h.mem_aliases]

-- Of a predicate with stand-ins, equal declarations have the same one.
def OneStandIn (x : Content) : Prop :=
  ∀ d ∈ x.declared, ∀ e ∈ x.declared,
    x.Aliased d.predicate → d.same e = true → d.alias = e.alias

-- Of such a predicate, declarations that are not equal have different ones.
def StandInsApart (x : Content) : Prop :=
  ∀ d ∈ x.declared, ∀ e ∈ x.declared,
    x.Aliased d.predicate → d.alias = e.alias → d.same e = true

section Agree

variable {x y : Content} {c c' : Classification}

private theorem exists_edb (hxy : Content.Agree x y) (hc : ClosedForm x c)
    (hc' : ClosedForm y c') {p : Predicate} (hp : p ∈ c.edb.map Prod.fst) :
    p ∈ c'.edb.map Prod.fst := by
  obtain ⟨⟨p, d⟩, hd, rfl⟩ := List.mem_map.mp hp
  obtain ⟨hheads, hs⟩ := (hc.mem_edb p d).mp hd
  obtain ⟨e, he⟩ := hxy.exists_sources_eq hs
  exact List.mem_map.mpr ⟨(p, e), (hc'.mem_edb p e).mpr ⟨(hxy.heads p).not.mp hheads, he⟩, rfl⟩

-- Which predicates have what kind of source, and the facts, do not depend on the order.
theorem partition_eq (hxy : Content.Agree x y) (hc : ClosedForm x c) (hc' : ClosedForm y c') :
    c.edb.map Prod.fst = c'.edb.map Prod.fst ∧ c.idb = c'.idb ∧ c.aliased = c'.aliased ∧
      c.facts = c'.facts := by
  refine ⟨?_, ?_, ?_, ?_⟩
  · refine eq_of_mem_iff id (by simpa using hc.ordered.edb) (by simpa using hc'.ordered.edb) ?_
    exact fun p => ⟨exists_edb hxy hc hc', exists_edb hxy.symm hc' hc⟩
  · refine eq_of_mem_iff id (by simpa using hc.ordered.idb) (by simpa using hc'.ordered.idb) ?_
    intro p
    rw [hc.mem_idb, hc'.mem_idb, hxy.heads]
  · refine eq_of_mem_iff id (by simpa using hc.ordered.aliased)
      (by simpa using hc'.ordered.aliased) ?_
    intro p
    rw [hc.mem_aliased, hc'.mem_aliased, hxy.aliased_iff]
  · refine eq_of_mem_iff Prod.fst hc.ordered.facts hc'.ordered.facts ?_
    rintro ⟨p, fs⟩
    simp only [hc.mem_facts, hc'.mem_facts, Content.factsOf, hxy.facts]

theorem OneStandIn.of_agree (hone : OneStandIn x) (hxy : Content.Agree x y) : OneStandIn y := by
  intro d hd e he hp
  exact hone d ((hxy.declared d).mpr hd) e ((hxy.declared e).mpr he) ((hxy.aliased_iff _).mpr hp)

-- A source and the equal one of the other content have the same stand-in.
private theorem exists_alias_eq (hone : OneStandIn x) (hxy : Content.Agree x y) {p : Predicate}
    {d : Declaration} (hp : x.Aliased p) (hd : d ∈ x.sources p) :
    ∃ e ∈ y.sources p, d.alias = e.alias := by
  obtain ⟨e, he, hsame⟩ := hxy.exists_mem_sources hd
  obtain ⟨hm, rfl⟩ := Content.mem_of_mem_sources hd
  have hm' := (hxy.declared e).mpr (Content.mem_of_mem_sources he).1
  exact ⟨e, he, hone d hm e hm' hp hsame⟩

private theorem mem_rules_of_agree (hone : OneStandIn x) (hxy : Content.Agree x y)
    (hc : ClosedForm x c) (hc' : ClosedForm y c') {r : Rule} (hr : r ∈ c.rules) :
    r ∈ c'.rules := by
  rcases (hc.mem_rules r).mp hr with hr | ⟨p, d, hp, hd, rfl⟩
  · exact (hc'.mem_rules r).mpr (.inl ((hxy.rules r).mp hr))
  · obtain ⟨e, he, halias⟩ := exists_alias_eq hone hxy hp hd
    rw [halias]
    exact (hc'.mem_rules _).mpr (.inr ⟨p, e, (hxy.aliased_iff p).mp hp, he, rfl⟩)

private theorem mem_standIns_of_agree (hone : OneStandIn x) (hxy : Content.Agree x y)
    (hc : ClosedForm x c) (hc' : ClosedForm y c') {q : Predicate}
    (hq : q ∈ c.aliases.map Prod.snd) : q ∈ c'.aliases.map Prod.snd := by
  obtain ⟨d, hp, hd, rfl⟩ := hc.mem_standIns.mp hq
  obtain ⟨e, he, halias⟩ := exists_alias_eq hone hxy hp hd
  have hpe := (Content.mem_of_mem_sources he).2
  rw [← hpe] at he hp
  exact hc'.mem_standIns.mpr ⟨e, (hxy.aliased_iff _).mp hp, he, halias⟩

-- With one stand-in for equal declarations, the order does not matter to rules and stand-ins.
theorem rules_eq (hone : OneStandIn x) (hxy : Content.Agree x y) (hc : ClosedForm x c)
    (hc' : ClosedForm y c') :
    c.rules = c'.rules ∧ ∀ q, q ∈ c.aliases.map Prod.snd ↔ q ∈ c'.aliases.map Prod.snd := by
  have hone' := hone.of_agree hxy
  constructor
  · refine eq_of_mem_iff id (by simpa using hc.ordered.rules) (by simpa using hc'.ordered.rules) ?_
    intro r
    exact ⟨mem_rules_of_agree hone hxy hc hc', mem_rules_of_agree hone' hxy.symm hc' hc⟩
  · intro q
    exact ⟨mem_standIns_of_agree hone hxy hc hc', mem_standIns_of_agree hone' hxy.symm hc' hc⟩

end Agree

-- Moving a declaration to the front gives its predicate the stand-in that it spells.
theorem alias_mem_of_front {ss : List Statement} {d : Declaration} (hd : .dataSource d ∈ ss)
    (hp : (Content.of ss).Aliased d.predicate) :
    d.alias ∈ (build (.dataSource d :: ss.erase (.dataSource d))).aliases.map Prod.snd := by
  have hfront := (Reordered.front hd).agree
  exact (closedForm_build _).mem_standIns.mpr
    ⟨d, (hfront.aliased_iff _).mp hp, Content.mem_sources_of_cons d _, rfl⟩

-- Two spellings of one declaration with different stand-ins: with the one in front there is no
-- stand-in for the other.
theorem exists_reordered (ss : List Statement) (happart : StandInsApart (.of ss))
    (hone : ¬OneStandIn (.of ss)) :
    ∃ ts, Reordered ss ts ∧
      ¬∀ q, q ∈ (build ss).aliases.map Prod.snd ↔ q ∈ (build ts).aliases.map Prod.snd := by
  by_contra hsame
  push Not at hsame
  refine hone fun d hd e he hp hde => ?_
  cases hlocal : d.isLocalFacts with
  | true => rw [Declaration.eq_of_same_of_isLocalFacts hde hlocal]
  | false =>
    have hpe := Declaration.predicate_eq_of_same hde
    have hd' := Content.dataSource_mem_of_mem_declared hd hlocal
    have he' := Content.dataSource_mem_of_mem_declared he
      ((Declaration.isLocalFacts_of_same hde).symm.trans hlocal)
    have hagree := (Reordered.front he').agree
    have hmem := (hsame _ (.front hd') d.alias).mpr (alias_mem_of_front hd' hp)
    obtain ⟨f, hf, hs, halias⟩ := (closedForm_build _).mem_standIns.mp
      ((hsame _ (.front he') d.alias).mp hmem)
    have hdf := happart d hd f ((hagree.declared f).mpr (Content.mem_of_mem_sources hs).1) hp halias
    rw [← Declaration.predicate_eq_of_same hdf, hpe] at hs
    have hef : e.same f = true := Declaration.same_trans (Declaration.same_comm e d ▸ hde) hdf
    rw [halias, Content.eq_of_same_of_mem_sources (Content.mem_sources_of_cons e _) hs hef]

-- Reading the statements in another order gives the same kinds of predicates and the same facts.
-- Rules and stand-ins are the same if equal declarations have the same stand-in, whose name
-- depends on how they are spelled. If they have not, some order gives others.
theorem build_reordered (ss : List Statement) :
    (∀ ts, Reordered ss ts →
      (build ss).edb.map Prod.fst = (build ts).edb.map Prod.fst ∧
        (build ss).idb = (build ts).idb ∧ (build ss).aliased = (build ts).aliased ∧
        (build ss).facts = (build ts).facts) ∧
    (OneStandIn (.of ss) → ∀ ts, Reordered ss ts →
      (build ss).rules = (build ts).rules ∧
        ∀ q, q ∈ (build ss).aliases.map Prod.snd ↔ q ∈ (build ts).aliases.map Prod.snd) ∧
    (StandInsApart (.of ss) → ¬OneStandIn (.of ss) → ∃ ts, Reordered ss ts ∧
      ¬∀ q, q ∈ (build ss).aliases.map Prod.snd ↔ q ∈ (build ts).aliases.map Prod.snd) := by
  refine ⟨?_, ?_, exists_reordered ss⟩
  · intro ts h
    exact partition_eq h.agree (closedForm_build ss) (closedForm_build ts)
  · intro hone ts h
    exact rules_eq hone h.agree (closedForm_build ss) (closedForm_build ts)

-- One file under two spellings, and another one.

def spelled (path : String) : Declaration :=
  ⟨⟨"p", 1⟩, some (.csvFile (.ofText path))⟩

def shortFirst : List Statement :=
  [.dataSource (spelled "a/b.csv"), .dataSource (spelled "a//b.csv"), .dataSource (spelled "c.csv")]

def longFirst : List Statement :=
  [.dataSource (spelled "a//b.csv"), .dataSource (spelled "a/b.csv"), .dataSource (spelled "c.csv")]

-- The spelling that comes first names the stand-in.
theorem standIns_of_spelling :
    Reordered shortFirst longFirst ∧
      (build shortFirst).rules ≠ (build longFirst).rules ∧
      (spelled "a/b.csv").alias ∈ (build shortFirst).aliases.map Prod.snd ∧
      (spelled "a/b.csv").alias ∉ (build longFirst).aliases.map Prod.snd := by
  refine ⟨⟨.swap _ _ _, rfl⟩, ?_, ?_, ?_⟩
  · decide +kernel
  · decide +kernel
  · decide +kernel

end Classification

end Rulebook
