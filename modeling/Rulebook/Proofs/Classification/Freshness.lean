import Rulebook.Proofs.Compilation
import Rulebook.Proofs.Naming

namespace Rulebook

-- What stand-ins have behind the names of their predicates: the mark of inline facts, or an
-- identifier of sixteen hexadecimal digits.
inductive AliasMark : String → Prop
  | facts : AliasMark "##FACT"
  | source {digits : String} (hlength : digits.length = 16)
      (hdigits : ∀ c ∈ digits.toList, c ∈ "0123456789abcdef".toList) : AliasMark ("##" ++ digits)

theorem Declaration.aliasMark_spec (d : Declaration) : AliasMark d.aliasMark := by
  unfold aliasMark
  split
  · exact .facts
  · refine .source d.length_identifier fun c hc => ?_
    rw [identifier, String.toList_ofList] at hc
    exact Bytes.mem_digits_of_mem_hex hc

-- No predicate of the statements has the name of another one with such a mark.
def Unmarked (ss : List Statement) : Prop :=
  ∀ p q mark, Occurs p ss → Occurs q ss → AliasMark mark → q.arity = p.arity →
    q.name ≠ p.name ++ mark

namespace Classification

open Content

-- A predicate has rows that are loaded under a name.
inductive Feeds (c : Classification) : String → Predicate → Prop
  | facts {p target : Predicate} {fs : List Fact} (hp : (p, fs) ∈ c.facts)
      (ht : c.factTarget p = some target) : Feeds c target.engineName p
  | source {target : Predicate} {d : Declaration} (hd : c.Lists target d) :
      Feeds c target.engineName d.predicate

-- The stand-in of a declaration is a predicate that has a source of its own.
def Taken (c : Classification) (p : Predicate) (e : Declaration) : Prop :=
  (∃ d, (p, d) ∈ c.edb) ∧ (e, p) ∈ c.aliases

-- The predicates that the rows of a predicate are loaded into.
inductive Lodges (c : Classification) : Predicate → Predicate → Prop
  | own {p : Predicate} {d : Declaration} (h : (p, d) ∈ c.edb) : Lodges c p p
  | standIn {d : Declaration} {q : Predicate} (h : (d, q) ∈ c.aliases) : Lodges c d.predicate q

variable {ss : List Statement} {c : Classification}

-- Sources with one stand-in are sources of one predicate.
theorem predicate_eq_of_mem_aliases (hc : ClosedForm (.of ss) c) {d e : Declaration} {t : Predicate}
    (hd : (d, t) ∈ c.aliases) (he : (e, t) ∈ c.aliases) : d.predicate = e.predicate := by
  obtain ⟨-, -, htarget⟩ := (hc.mem_aliases d t).mp hd
  obtain ⟨-, -, htarget'⟩ := (hc.mem_aliases e t).mp he
  exact Declaration.predicate_eq_of_alias (htarget.symm.trans htarget')

namespace Lodges

theorem of_factTarget (hc : ClosedForm (.of ss) c) {p t : Predicate}
    (h : c.factTarget p = some t) : Lodges c p t := by
  rcases (factTarget_eq_some_iff hc).mp h with ⟨⟨d, hd⟩, rfl⟩ | hd
  · exact .own hd
  · exact .standIn hd

theorem of_feeds (hc : ClosedForm (.of ss) c) {k : String} {p : Predicate} (h : Feeds c k p) :
    ∃ t, t.engineName = k ∧ Lodges c p t := by
  cases h with
  | facts _ ht => exact ⟨_, rfl, of_factTarget hc ht⟩
  | source hd =>
    refine ⟨_, rfl, ?_⟩
    rcases hd.place with hd | hd
    · have hs := ((hc.mem_edb _ _).mp hd).2
      rw [(Content.mem_of_mem_sources (hs ▸ List.mem_singleton_self _)).2]
      exact .own hd
    · exact .standIn hd

-- Two predicates are loaded into one only if that is one of the two and the other's stand-in.
theorem taken (hc : ClosedForm (.of ss) c) {p q t : Predicate} (h : Lodges c p t)
    (h' : Lodges c q t) (hne : p ≠ q) :
    ∃ e, Taken c p e ∧ e.predicate = q ∨ Taken c q e ∧ e.predicate = p := by
  cases h with
  | own hd =>
    cases h' with
    | own _ => exact absurd rfl hne
    | standIn he => exact ⟨_, .inl ⟨⟨⟨_, hd⟩, he⟩, rfl⟩⟩
  | standIn he =>
    cases h' with
    | own hd => exact ⟨_, .inr ⟨⟨⟨_, hd⟩, he⟩, rfl⟩⟩
    | standIn he' => exact absurd (predicate_eq_of_mem_aliases hc he he') hne

end Lodges

-- A stand-in is called like a predicate that occurs, with a mark.
theorem not_occurs_of_mem_aliases (hc : ClosedForm (.of ss) c) (hss : Unmarked ss)
    {d : Declaration} {q : Predicate} (hq : (d, q) ∈ c.aliases) : ¬Occurs q ss := by
  intro hoccurs
  obtain ⟨-, hd, rfl⟩ := (hc.mem_aliases d q).mp hq
  have hdeclared := (Content.mem_of_mem_sources hd).1
  exact hss d.predicate d.alias d.aliasMark (Compilation.occurs_of_mem_declared hdeclared) hoccurs
    d.aliasMark_spec rfl rfl

theorem not_taken (hc : ClosedForm (.of ss) c) (hss : Unmarked ss) (p : Predicate)
    (e : Declaration) : ¬Taken c p e := by
  rintro ⟨⟨d, hd⟩, he⟩
  have hs := ((hc.mem_edb p d).mp hd).2
  obtain ⟨hdeclared, rfl⟩ := Content.mem_of_mem_sources (hs ▸ List.mem_singleton_self d)
  exact not_occurs_of_mem_aliases hc hss he (Compilation.occurs_of_mem_declared hdeclared)

-- A row that an engine has under a name is stated of a predicate with rows under that name.
theorem feeds_of_handed (hc : ClosedForm (.of ss) c) {data : List (String × List Row)}
    (hdata : c.Delivers data) {held : Declaration → Row → Prop} {k : String} {row : Row}
    (h : Handed held c data k row) : ∃ p, Feeds c k p ∧ Stated held ss p row := by
  cases h with
  | @loaded _ rows _ hk hrow =>
    obtain ⟨p, fs, t, hm, htarget, rfl, f, hf, rfl⟩ :=
      mem_delivered.mp ((hdata k row).mp ⟨_, hk, hrow⟩)
    refine ⟨p, .facts hm htarget, ?_⟩
    obtain ⟨rfl, -⟩ := (hc.mem_facts p fs).mp hm
    obtain ⟨hmem, hp⟩ := List.mem_filter.mp hf
    obtain rfl : f.predicate = p := by simpa using hp
    exact .fact (Content.mem_facts_of.mp hmem)
  | @source t d _ hd hrow =>
    refine ⟨d.predicate, .source hd, ?_⟩
    obtain ⟨hd, hs⟩ := lists_iff.mp hd
    have hdeclared : d ∈ (Content.of ss).declared := by
      rcases hd with hd | hd
      · have hsources := ((hc.mem_edb t d).mp hd).2
        exact (Content.mem_of_mem_sources (hsources ▸ List.mem_singleton_self d)).1
      · exact (Content.mem_of_mem_sources ((hc.mem_aliases d t).mp hd).2.1).1
    exact .source (dataSource_mem_of_mem_declared hdeclared hs) hs hrow

-- The facts of two predicates are loaded into one just when it is one of the two and the stand-in
-- for the facts of the other.
theorem engineName_eq_iff_taken (hc : ClosedForm (.of ss) c) {p q s t : Predicate}
    (hs : c.factTarget p = some s) (ht : c.factTarget q = some t) (hne : p ≠ q) :
    s.engineName = t.engineName ↔ Taken c p (.localFacts q) ∨ Taken c q (.localFacts p) := by
  constructor
  · intro h
    obtain rfl := Predicate.engineName_inj h
    rcases (factTarget_eq_some_iff hc).mp hs with ⟨hown, rfl⟩ | hp
    · rcases (factTarget_eq_some_iff hc).mp ht with ⟨-, rfl⟩ | hq
      · exact absurd rfl hne
      · exact .inl ⟨hown, hq⟩
    · rcases (factTarget_eq_some_iff hc).mp ht with ⟨hown, rfl⟩ | hq
      · exact .inr ⟨hown, hp⟩
      · exact absurd (predicate_eq_of_mem_aliases hc hp hq) hne
  · rintro (⟨⟨d, hown⟩, halias⟩ | ⟨⟨d, hown⟩, halias⟩)
    · rw [factTarget_of_mem_edb hown] at hs
      rw [hc.factTarget_of_mem_aliases halias] at ht
      rw [← Option.some.inj hs, ← Option.some.inj ht]
    · rw [hc.factTarget_of_mem_aliases halias] at hs
      rw [factTarget_of_mem_edb hown] at ht
      rw [← Option.some.inj hs, ← Option.some.inj ht]

theorem Feeds.taken (hc : ClosedForm (.of ss) c) {k : String} {p q : Predicate} (hp : Feeds c k p)
    (hq : Feeds c k q) (hne : p ≠ q) :
    ∃ e, Taken c p e ∧ e.predicate = q ∨ Taken c q e ∧ e.predicate = p := by
  obtain ⟨s, rfl, hs⟩ := Lodges.of_feeds hc hp
  obtain ⟨t, ht, hlodges⟩ := Lodges.of_feeds hc hq
  obtain rfl := Predicate.engineName_inj ht
  exact hs.taken hc hlodges hne

-- Stand-ins keep clear of the predicates that occur, and the rows of two predicates are kept
-- apart, as long as nothing is called like a stand-in. Otherwise two predicates get in each other's
-- way where one of them is loaded as it is and is the other's stand-in, and nowhere else.
theorem aliases_fresh (ss : List Statement) :
    (Unmarked ss →
      (∀ d q, (d, q) ∈ (build ss).aliases → ¬Occurs q ss) ∧
      (∀ f g, .fact f ∈ ss → .fact g ∈ ss → f.predicate ≠ g.predicate →
        ∃ s t, (build ss).factTarget f.predicate = some s ∧
          (build ss).factTarget g.predicate = some t ∧ s.engineName ≠ t.engineName) ∧
      ∀ k p q, Feeds (build ss) k p → Feeds (build ss) k q → p = q) ∧
    (∀ b : Recorder, b.active = true → b.data = [] → ∃ b',
      Reasoner.addFacts (build ss) (build ss).facts b = (.ok (), b') ∧
        ∀ held k row, Handed held (build ss) b'.data k row →
          ∃ p, Feeds (build ss) k p ∧ Stated held ss p row) ∧
    (∀ f g, .fact f ∈ ss → .fact g ∈ ss → f.predicate ≠ g.predicate →
      ∃ s t, (build ss).factTarget f.predicate = some s ∧
        (build ss).factTarget g.predicate = some t ∧
        (s.engineName = t.engineName ↔
          Taken (build ss) f.predicate (.localFacts g.predicate) ∨
            Taken (build ss) g.predicate (.localFacts f.predicate))) ∧
    ∀ k p q, Feeds (build ss) k p → Feeds (build ss) k q → p ≠ q →
      ∃ e, Taken (build ss) p e ∧ e.predicate = q ∨ Taken (build ss) q e ∧ e.predicate = p := by
  have hc := closedForm_build ss
  refine ⟨fun hss => ⟨fun d q => not_occurs_of_mem_aliases hc hss, fun f g hf hg hne => ?_,
    fun k p q hp hq => ?_⟩, fun b hb hdata => ?_, fun f g hf hg hne => ?_,
    fun k p q => Feeds.taken hc⟩
  · obtain ⟨s, hs⟩ := exists_factTarget hc hf
    obtain ⟨t, ht⟩ := exists_factTarget hc hg
    refine ⟨s, t, hs, ht, fun h => ?_⟩
    rcases (engineName_eq_iff_taken hc hs ht hne).mp h with h | h
    · exact not_taken hc hss _ _ h
    · exact not_taken hc hss _ _ h
  · by_contra hne
    obtain ⟨e, ⟨h, -⟩ | ⟨h, -⟩⟩ := hp.taken hc hq hne
    · exact not_taken hc hss _ _ h
    · exact not_taken hc hss _ _ h
  · refine ⟨_, Prod.ext (Reasoner.addFacts_build hb ss) rfl, fun held k row => ?_⟩
    exact feeds_of_handed hc (Reasoner.delivers_addFacts hb hdata ss)
  · obtain ⟨s, hs⟩ := exists_factTarget hc hf
    obtain ⟨t, ht⟩ := exists_factTarget hc hg
    exact ⟨s, t, hs, ht, engineName_eq_iff_taken hc hs ht hne⟩

-- A predicate with a fact and a rule, so with a stand-in, and another predicate that is called like
-- the stand-in.

def ruled : Fact :=
  ⟨⟨"p", [.constant "c"]⟩, rfl⟩

def ruling : Rule :=
  .single ⟨"p", [.universal "X"]⟩ ⟨"q", [.universal "X"]⟩

def lookalike : Fact :=
  ⟨⟨"p##FACT", [.constant "b"]⟩, rfl⟩

def clashing : List Statement :=
  [.fact ruled, .rule ruling, .fact lookalike]

-- The rows of both predicates are loaded under one name.
theorem delivered_clashing :
    (∃ e ∈ (build clashing).aliases, e.2 = lookalike.predicate) ∧
      Occurs lookalike.predicate clashing ∧ ruled.predicate ≠ lookalike.predicate ∧
      (build clashing).factTarget ruled.predicate = some lookalike.predicate ∧
      (build clashing).factTarget lookalike.predicate = some lookalike.predicate ∧
      ((Reasoner.new ({} : Recorder)).load ⟨clashing, 1⟩).2.backend.data =
        [("p##FACT-1", [["c"], ["b"]])] := by
  refine ⟨by decide +kernel, ⟨.fact lookalike, by simp [clashing], List.mem_singleton_self _⟩, ?_⟩
  decide +kernel

end Classification

end Rulebook
