import Rulebook.Classification
import Mathlib.Data.List.Induction

namespace Rulebook

-- The declaration that a statement makes. A fact makes that of the facts over its predicate.
def Statement.declared? : Statement → Option Declaration
  | fact f => some (.localFacts f.predicate)
  | rule _ => none
  | dataSource d => some d

theorem Statement.fact?_eq_some_iff {s : Statement} {f : Fact} :
    s.fact? = some f ↔ s = .fact f := by
  cases s <;> simp [fact?]

theorem Statement.rule?_eq_some_iff {s : Statement} {r : Rule} :
    s.rule? = some r ↔ s = .rule r := by
  cases s <;> simp [rule?]

-- What there is to classify: facts, rules, declarations and the predicates of rule heads, each
-- kind in the order of the statements.
structure Content where
  facts : List Fact := []
  rules : List Rule := []
  declared : List Declaration := []
  heads : List Predicate := []

namespace Content

def of (ss : List Statement) : Content where
  facts := ss.filterMap Statement.fact?
  rules := ss.filterMap Statement.rule?
  declared := ss.filterMap Statement.declared?
  heads := (ss.filterMap Statement.rule?).flatMap Rule.headPredicates

def factsOf (p : Predicate) (x : Content) : List Fact :=
  x.facts.filter (·.predicate = p)

-- The sources of a predicate. Of equal declarations only the first is kept, as it is spelled.
def sources (p : Predicate) (x : Content) : List Declaration :=
  (x.declared.filter (·.predicate = p)).eraseDupsBy Declaration.same

-- A predicate whose sources go to stand-ins: there are rules for it, or several sources.
def Aliased (p : Predicate) (x : Content) : Prop :=
  x.sources p ≠ [] ∧ (p ∈ x.heads ∨ 2 ≤ (x.sources p).length)

theorem mem_facts_of {ss : List Statement} {f : Fact} : f ∈ (of ss).facts ↔ .fact f ∈ ss := by
  simp [of, List.mem_filterMap, Statement.fact?_eq_some_iff]

theorem mem_rules_of {ss : List Statement} {r : Rule} : r ∈ (of ss).rules ↔ .rule r ∈ ss := by
  simp [of, List.mem_filterMap, Statement.rule?_eq_some_iff]

theorem mem_declared_of_fact {ss : List Statement} {f : Fact} (hf : .fact f ∈ ss) :
    .localFacts f.predicate ∈ (of ss).declared :=
  List.mem_filterMap.mpr ⟨_, hf, rfl⟩

theorem mem_declared_of_dataSource {ss : List Statement} {d : Declaration}
    (hd : .dataSource d ∈ ss) : d ∈ (of ss).declared :=
  List.mem_filterMap.mpr ⟨_, hd, rfl⟩

-- Only a statement of its own declares a source outside the knowledge base.
theorem dataSource_mem_of_mem_declared {ss : List Statement} {d : Declaration}
    (hd : d ∈ (of ss).declared) (hs : d.isLocalFacts = false) : .dataSource d ∈ ss := by
  obtain ⟨s, hm, hd⟩ := List.mem_filterMap.mp hd
  cases s with
  | fact f =>
    obtain rfl := Option.some.inj hd
    simp [Declaration.localFacts, Declaration.isLocalFacts] at hs
  | rule r => simp [Statement.declared?] at hd
  | dataSource e =>
    obtain rfl := Option.some.inj hd
    exact hm

-- Contents grow at the end.

def addFact (f : Fact) (x : Content) : Content :=
  { x with facts := x.facts ++ [f] }

def addRule (r : Rule) (x : Content) : Content :=
  { x with rules := x.rules ++ [r] }

def declare (d : Declaration) (x : Content) : Content :=
  { x with declared := x.declared ++ [d] }

def addHeads (ps : List Predicate) (x : Content) : Content :=
  { x with heads := x.heads ++ ps }

@[simp] theorem heads_declare (d : Declaration) (x : Content) : (x.declare d).heads = x.heads :=
  rfl

@[simp] theorem heads_addHeads (ps : List Predicate) (x : Content) :
    (x.addHeads ps).heads = x.heads ++ ps :=
  rfl

@[simp] theorem sources_addHeads (p : Predicate) (ps : List Predicate) (x : Content) :
    (x.addHeads ps).sources p = x.sources p :=
  rfl

theorem of_concat_fact (ss : List Statement) (f : Fact) :
    of (ss ++ [.fact f]) = ((of ss).declare (.localFacts f.predicate)).addFact f := by
  simp [of, declare, addFact, Statement.fact?, Statement.rule?, Statement.declared?]

theorem of_concat_rule (ss : List Statement) (r : Rule) :
    of (ss ++ [.rule r]) = ((of ss).addRule r).addHeads r.headPredicates := by
  simp [of, addRule, addHeads, Statement.fact?, Statement.rule?, Statement.declared?]

theorem of_concat_dataSource (ss : List Statement) (d : Declaration) :
    of (ss ++ [.dataSource d]) = (of ss).declare d := by
  simp [of, declare, Statement.fact?, Statement.rule?, Statement.declared?]

end Content

namespace Declaration

theorem same_iff {d e : Declaration} : d.same e = true ↔ compare d e = .eq := by
  simp [same]

@[simp] theorem same_self (d : Declaration) : d.same d = true := by
  simp [same]

theorem same_comm (d e : Declaration) : d.same e = e.same d := by
  have h : compare d e = (compare e d).swap := Std.OrientedCmp.eq_swap
  simp only [same, h]
  cases compare e d <;> rfl

theorem same_trans {d e f : Declaration} (hde : d.same e = true) (hef : e.same f = true) :
    d.same f = true :=
  same_iff.mpr (Std.TransCmp.eq_trans (same_iff.mp hde) (same_iff.mp hef))

theorem predicate_eq_of_same {d e : Declaration} (h : d.same e = true) :
    d.predicate = e.predicate := by
  have h := (compareLex_eq_eq.mp (same_iff.mp h)).1
  exact Std.compare_eq_iff_eq.mp h

theorem isLocalFacts_of_same {d e : Declaration} (h : d.same e = true) :
    d.isLocalFacts = e.isLocalFacts := by
  have hsource := (compareLex_eq_eq.mp (same_iff.mp h)).2
  cases hd : d.source <;> cases he : e.source <;>
    simp_all [compareOn, isLocalFacts]

-- There is only one way to spell that a predicate has facts in the knowledge base.
theorem eq_of_same_of_isLocalFacts {d e : Declaration} (h : d.same e = true)
    (hd : d.isLocalFacts = true) : d = e := by
  have hp := predicate_eq_of_same h
  have he := isLocalFacts_of_same h
  rw [hd] at he
  cases d
  cases e
  simp_all [isLocalFacts]

end Declaration

namespace Content

-- A loop that leaves out repetitions has kept some elements already.
section Distinct

variable {α : Type} (r : α → α → Bool)

private theorem loop_concat (l kept : List α) (a : α) :
    List.eraseDupsBy.loop r (l ++ [a]) kept =
      if (List.eraseDupsBy.loop r l kept).any (r a) then List.eraseDupsBy.loop r l kept
      else List.eraseDupsBy.loop r l kept ++ [a] := by
  induction l generalizing kept with
  | nil =>
    cases h : kept.any (r a) <;> simp [List.eraseDupsBy.loop, h]
  | cons b l ih =>
    by_cases hb : kept.any (r b) = true
    · simpa only [List.cons_append, List.eraseDupsBy.loop, hb] using ih kept
    · simpa only [List.cons_append, List.eraseDupsBy.loop, hb] using ih (b :: kept)

private theorem mem_of_mem_loop {l kept : List α} {a : α}
    (h : a ∈ List.eraseDupsBy.loop r l kept) : a ∈ l ∨ a ∈ kept := by
  induction l generalizing kept with
  | nil => simpa [List.eraseDupsBy.loop] using h
  | cons b l ih =>
    by_cases hb : kept.any (r b) = true
    · simp only [List.eraseDupsBy.loop, hb] at h
      exact (ih h).imp_left (List.mem_cons_of_mem b)
    · simp only [List.eraseDupsBy.loop, hb] at h
      rcases ih h with h | h
      · exact .inl (List.mem_cons_of_mem b h)
      · exact (List.mem_cons.mp h).imp_left fun he => by simp [he]

private theorem mem_loop_of_mem_kept {l kept : List α} {a : α} (h : a ∈ kept) :
    a ∈ List.eraseDupsBy.loop r l kept := by
  induction l generalizing kept with
  | nil => simpa [List.eraseDupsBy.loop] using h
  | cons b l ih =>
    by_cases hb : kept.any (r b) = true
    · simpa only [List.eraseDupsBy.loop, hb] using ih h
    · simpa only [List.eraseDupsBy.loop, hb] using ih (List.mem_cons_of_mem b h)

private theorem exists_mem_loop (hr : ∀ a, r a a = true) {l kept : List α} {a : α} (h : a ∈ l) :
    ∃ b ∈ List.eraseDupsBy.loop r l kept, r a b = true := by
  induction l generalizing kept with
  | nil => simp at h
  | cons b l ih =>
    by_cases hb : kept.any (r b) = true
    · simp only [List.eraseDupsBy.loop, hb]
      rcases List.mem_cons.mp h with rfl | h
      · obtain ⟨k, hk, hs⟩ := List.any_eq_true.mp hb
        exact ⟨k, mem_loop_of_mem_kept r hk, hs⟩
      · exact ih h
    · simp only [List.eraseDupsBy.loop, hb]
      rcases List.mem_cons.mp h with rfl | h
      · exact ⟨a, mem_loop_of_mem_kept r (by simp), hr a⟩
      · exact ih h

private theorem pairwise_loop {l kept : List α} (h : kept.Pairwise fun a b => r a b = false) :
    (List.eraseDupsBy.loop r l kept).Pairwise fun a b => r b a = false := by
  induction l generalizing kept with
  | nil => simpa [List.eraseDupsBy.loop, List.pairwise_reverse] using h
  | cons b l ih =>
    by_cases hb : kept.any (r b) = true
    · simpa only [List.eraseDupsBy.loop, hb] using ih h
    · simp only [List.eraseDupsBy.loop, hb]
      refine ih (List.pairwise_cons.mpr ⟨fun k hk => ?_, h⟩)
      exact eq_false_of_ne_true fun hs => hb (List.any_eq_true.mpr ⟨k, hk, hs⟩)

end Distinct

-- A further declaration adds a source unless its predicate has an equal one.

theorem sources_declare_self (d : Declaration) (x : Content) :
    (x.declare d).sources d.predicate =
      if (x.sources d.predicate).any d.same then x.sources d.predicate
      else x.sources d.predicate ++ [d] := by
  have h := loop_concat Declaration.same (x.declared.filter (·.predicate = d.predicate)) [] d
  simpa [sources, declare, List.filter_append, List.eraseDupsBy] using h

theorem sources_declare_of_ne {p : Predicate} {d : Declaration} (x : Content)
    (hp : p ≠ d.predicate) : (x.declare d).sources p = x.sources p := by
  simp [sources, declare, List.filter_append, Ne.symm hp]

-- The sources are the declarations over the predicate, up to their spelling.

theorem mem_of_mem_sources {p : Predicate} {x : Content} {d : Declaration}
    (h : d ∈ x.sources p) : d ∈ x.declared ∧ d.predicate = p := by
  have hm := mem_of_mem_loop Declaration.same h
  simpa using hm

theorem exists_mem_sources {x : Content} {d : Declaration} (h : d ∈ x.declared) :
    ∃ e ∈ x.sources d.predicate, d.same e = true :=
  exists_mem_loop Declaration.same Declaration.same_self (by simpa using h)

-- No two sources are equal.

theorem pairwise_sources (x : Content) (p : Predicate) :
    (x.sources p).Pairwise fun d e => e.same d = false :=
  pairwise_loop Declaration.same .nil

theorem eq_of_same_of_mem_sources {p : Predicate} {x : Content} {d e : Declaration}
    (hd : d ∈ x.sources p) (he : e ∈ x.sources p) (hs : d.same e = true) : d = e := by
  refine List.Pairwise.forall_of_forall_of_flip (R := fun d e => d.same e = true → d = e)
    (fun _ _ _ => rfl) ((x.pairwise_sources p).imp ?_) ((x.pairwise_sources p).imp ?_) hd he hs
  · intro d e hne hs
    simp [Declaration.same_comm d e, hne] at hs
  · intro d e hne hs
    simp [hne] at hs

end Content

end Rulebook
