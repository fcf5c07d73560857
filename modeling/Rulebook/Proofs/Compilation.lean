import Rulebook.Proofs.Reasoner.Mirror

namespace Rulebook

-- The predicates that occur in a statement.
def Statement.predicates : Statement → List Predicate
  | fact f => [f.predicate]
  | rule r => (r.headAtoms ++ r.bodyLiterals.map Literal.atom).map Atom.predicate
  | dataSource d => [d.predicate]

def Occurs (p : Predicate) (ss : List Statement) : Prop :=
  ∃ s ∈ ss, p ∈ s.predicates

-- No predicate of the statements is called like a stand-in for one of their sources.
def FreshAliases (ss : List Statement) : Prop :=
  ∀ d ∈ (Content.of ss).declared, ¬Occurs d.alias ss

-- The rows that statements give to a predicate: facts, and what its declared sources hold.
inductive Stated (held : Declaration → Row → Prop) (ss : List Statement) : Predicate → Row → Prop
  | fact {f : Fact} (hf : .fact f ∈ ss) : Stated held ss f.predicate f.row
  | source {d : Declaration} {row : Row} (hd : .dataSource d ∈ ss)
      (hs : d.isLocalFacts = false) (hrow : held d row) : Stated held ss d.predicate row

-- The rows that an engine has under a name: those that were loaded into it, and those that it reads
-- from the external sources that it is told of.
inductive Handed (held : Declaration → Row → Prop) (c : Classification)
    (data : List (String × List Row)) : String → Row → Prop
  | loaded {k : String} {rows : List Row} {row : Row} (hk : (k, rows) ∈ data)
      (hrow : row ∈ rows) : Handed held c data k row
  | source {q : Predicate} {d : Declaration} {row : Row} (hd : c.Lists q d)
      (hrow : held d row) : Handed held c data q.engineName row

namespace Compilation

open Content

variable {ss : List Statement} {held : Declaration → Row → Prop}

theorem occurs_of_mem_declared {d : Declaration} (hd : d ∈ (Content.of ss).declared) :
    Occurs d.predicate ss := by
  obtain ⟨s, hs, hd⟩ := List.mem_filterMap.mp hd
  refine ⟨s, hs, ?_⟩
  cases s with
  | fact f =>
    obtain rfl := Option.some.inj hd
    simp [Statement.predicates, Declaration.localFacts]
  | rule r => simp [Statement.declared?] at hd
  | dataSource e =>
    obtain rfl := Option.some.inj hd
    simp [Statement.predicates]

-- The predicate whose rows an engine has under a name: an occurring one under its own, and that
-- of a declaration under the name of its stand-in.
inductive StandsFor (ss : List Statement) : Predicate → Predicate → Prop
  | itself {p : Predicate} (hp : Occurs p ss) : StandsFor ss p p
  | standIn {d : Declaration} (hd : d ∈ (Content.of ss).declared) : StandsFor ss d.alias d.predicate

theorem StandsFor.unique (hfresh : FreshAliases ss) {q p p' : Predicate}
    (h : StandsFor ss q p) (h' : StandsFor ss q p') : p = p' := by
  cases h with
  | itself hp =>
    cases h' with
    | itself _ => rfl
    | standIn hd => exact absurd hp (hfresh _ hd)
  | @standIn d hd =>
    generalize hq : d.alias = q at h'
    cases h' with
    | itself hp => exact absurd (hq ▸ hp) (hfresh _ hd)
    | standIn _ => exact Declaration.predicate_eq_of_alias hq

theorem occurs_of_mem_headAtoms {r : Rule} (hr : .rule r ∈ ss) {a : Atom}
    (ha : a ∈ r.headAtoms) : Occurs a.predicate ss :=
  ⟨_, hr, List.mem_map_of_mem (List.mem_append_left _ ha)⟩

theorem occurs_of_mem_positiveBody {r : Rule} (hr : .rule r ∈ ss) {a : Atom}
    (ha : a ∈ r.positiveBody) : Occurs a.predicate ss := by
  obtain ⟨l, hl, hp⟩ := List.mem_filterMap.mp ha
  have hatom : l.atom = a := by
    cases l with
    | positive b => exact Option.some.inj hp
    | negative b => simp [Literal.positive?] at hp
  refine ⟨_, hr, List.mem_map_of_mem (List.mem_append_right _ ?_)⟩
  exact hatom ▸ List.mem_map_of_mem hl

open Classification

variable {c : Classification} {data : List (String × List Row)} {k : String} {row : Row}

theorem mem_rules_of_rule (hc : ClosedForm (.of ss) c) {r : Rule} (hr : .rule r ∈ ss) :
    r ∈ c.rules :=
  (hc.mem_rules r).mpr (.inl (Content.mem_rules_of.mpr hr))

-- What is handed to an engine under a name is stated of the predicate behind the name.
theorem stated_of_handed (hc : ClosedForm (.of ss) c) (hdata : c.Delivers data)
    (h : Handed held c data k row) :
    ∃ q p, q.engineName = k ∧ StandsFor ss q p ∧ Stated held ss p row := by
  cases h with
  | @loaded _ rows _ hk hrow =>
    obtain ⟨p, fs, q, hm, hq, rfl, f, hf, rfl⟩ := mem_delivered.mp ((hdata k row).mp ⟨_, hk, hrow⟩)
    obtain ⟨rfl, -⟩ := (hc.mem_facts p fs).mp hm
    obtain ⟨hmem, hp⟩ := List.mem_filter.mp hf
    obtain rfl : f.predicate = p := by simpa using hp
    have hf := Content.mem_facts_of.mp hmem
    refine ⟨q, f.predicate, rfl, ?_, .fact hf⟩
    rcases hc.factTarget_cases hq with rfl | ⟨d, hd, rfl⟩
    · exact .itself (occurs_of_mem_declared (mem_declared_of_fact hf))
    · obtain ⟨hd, hp⟩ := Content.mem_of_mem_sources hd
      change d.predicate = f.predicate at hp
      exact hp ▸ .standIn hd
  | @source q d _ hd hrow =>
    obtain ⟨hd, hs⟩ := lists_iff.mp hd
    rcases hd with hd | hd
    · obtain ⟨-, hsources⟩ := (hc.mem_edb q d).mp hd
      obtain ⟨hm, rfl⟩ := Content.mem_of_mem_sources (hsources ▸ List.mem_singleton_self d)
      exact ⟨_, _, rfl, .itself (occurs_of_mem_declared hm),
        .source (dataSource_mem_of_mem_declared hm hs) hs hrow⟩
    · obtain ⟨-, hm, rfl⟩ := (hc.mem_aliases d q).mp hd
      obtain ⟨hm, -⟩ := Content.mem_of_mem_sources hm
      exact ⟨_, _, rfl, .standIn hm, .source (dataSource_mem_of_mem_declared hm hs) hs hrow⟩

-- Induction on the derivation. A user's rule is its own counterpart; an import rule needs none,
-- for its stand-in has the rows of the predicate already.
theorem direct_of_compiled (hc : ClosedForm (.of ss) c) (hdata : c.Delivers data)
    (hfresh : FreshAliases ss)
    (h : Derivable Predicate.engineName (Handed held c data) c.rules k row) :
    ∃ q p, q.engineName = k ∧ StandsFor ss q p ∧
      Derivable id (Stated held ss) (ss.filterMap Statement.rule?) p row := by
  induction h with
  | given h =>
    obtain ⟨q, p, hq, hp, h⟩ := stated_of_handed hc hdata h
    exact ⟨q, p, hq, hp, .given h⟩
  | @rule r head σ hr hd _ hhead ih =>
    rcases (hc.mem_rules r).mp hr with hr | ⟨p, d, -, hs, rfl⟩
    · have hm := Content.mem_rules_of.mp hr
      refine ⟨_, _, rfl, .itself (occurs_of_mem_headAtoms hm hhead), .rule σ hr hd ?_ hhead⟩
      intro a ha
      obtain ⟨q, p, hq, hp, h⟩ := ih a ha
      obtain rfl := Predicate.engineName_inj hq
      obtain rfl := hp.unique hfresh (.itself (occurs_of_mem_positiveBody hm ha))
      exact h
    · obtain ⟨hm, rfl⟩ := Content.mem_of_mem_sources hs
      obtain rfl : head = d.predicate.generalAtom := by
        simpa [importRule, Rule.single, Rule.headAtoms] using hhead
      obtain ⟨q, p, hq, hp, h⟩ := ih d.alias.generalAtom
        (by simp [importRule, Rule.single, Rule.positiveBody, Rule.bodyLiterals,
          Literal.positive?])
      rw [Predicate.predicate_generalAtom] at hq
      obtain rfl := Predicate.engineName_inj hq
      obtain rfl := hp.unique hfresh (.standIn hm)
      rw [Predicate.predicate_generalAtom]
      exact ⟨_, _, rfl, .itself (occurs_of_mem_declared hm), h⟩

-- A row of a stand-in reaches its predicate.
theorem derivable_of_alias {d : Declaration} (hr : importRule d.predicate d.alias ∈ c.rules)
    (hlength : row.length = d.predicate.arity)
    (h : Handed held c data d.alias.engineName row) :
    Derivable Predicate.engineName (Handed held c data) c.rules d.predicate.engineName row :=
  .import hr rfl hlength (.given h)

theorem compiled_of_fact (hc : ClosedForm (.of ss) c) (hdata : c.Delivers data) {f : Fact}
    (hf : .fact f ∈ ss) :
    Derivable Predicate.engineName (Handed held c data) c.rules f.predicate.engineName f.row := by
  obtain ⟨d, hd, hsame⟩ := Content.exists_mem_sources (mem_declared_of_fact hf)
  have hp : d.predicate = f.predicate := (Declaration.predicate_eq_of_same hsame).symm
  obtain rfl : d = .localFacts f.predicate := by
    have hs := Declaration.isLocalFacts_of_same hsame
    rcases d with ⟨p, source⟩
    cases source with
    | none => exact congrArg (Declaration.mk · none) hp
    | some s => simp [Declaration.localFacts, Declaration.isLocalFacts] at hs
  have hfacts : f ∈ (Content.of ss).factsOf f.predicate :=
    List.mem_filter.mpr ⟨Content.mem_facts_of.mpr hf, by simp⟩
  have hm := (hc.mem_facts _ _).mpr ⟨rfl, List.ne_nil_of_mem hfacts⟩
  have hloaded {q : Predicate} (hq : c.factTarget f.predicate = some q) :
      Handed held c data q.engineName f.row := by
    obtain ⟨rows, hk, hrow⟩ :=
      (hdata q.engineName f.row).mpr (mem_delivered.mpr ⟨_, _, q, hm, hq, rfl, f, hfacts, rfl⟩)
    exact .loaded hk hrow
  rcases hc.placed hd with hd | ⟨hd, hr⟩
  · exact .given (hloaded (factTarget_of_mem_edb hd))
  · refine derivable_of_alias hr ?_ (hloaded (hc.factTarget_of_mem_aliases hd))
    simp [Fact.row, Fact.terms, Fact.predicate, Atom.predicate, Declaration.localFacts]

theorem compiled_of_dataSource (hc : ClosedForm (.of ss) c)
    (harity : ∀ d, .dataSource d ∈ ss → d.isLocalFacts = false →
      ∀ row, held d row → row.length = d.predicate.arity)
    (hsame : ∀ d e, .dataSource d ∈ ss → .dataSource e ∈ ss → d.same e = true → held d = held e)
    {d : Declaration} (hd : .dataSource d ∈ ss) (hs : d.isLocalFacts = false)
    (hrow : held d row) :
    Derivable Predicate.engineName (Handed held c data) c.rules d.predicate.engineName row := by
  obtain ⟨e, he, hde⟩ := Content.exists_mem_sources (mem_declared_of_dataSource hd)
  obtain ⟨hm, hp⟩ := Content.mem_of_mem_sources he
  have hes : e.isLocalFacts = false := Declaration.isLocalFacts_of_same hde ▸ hs
  have hes' := dataSource_mem_of_mem_declared hm hes
  rw [hsame d e hd hes' hde] at hrow
  have hread {q : Predicate} (hq : (q, e) ∈ c.edb ∨ (e, q) ∈ c.aliases) :
      Handed held c data q.engineName row :=
    .source (lists_iff.mpr ⟨hq, hes⟩) hrow
  rw [← hp] at he ⊢
  rcases hc.placed he with hown | ⟨halias, hr⟩
  · exact .given (hread (.inl hown))
  · exact derivable_of_alias hr (harity e hes' hes _ hrow) (hread (.inr halias))

theorem compiled_of_direct (hc : ClosedForm (.of ss) c) (hdata : c.Delivers data)
    (harity : ∀ d, .dataSource d ∈ ss → d.isLocalFacts = false →
      ∀ row, held d row → row.length = d.predicate.arity)
    (hsame : ∀ d e, .dataSource d ∈ ss → .dataSource e ∈ ss → d.same e = true → held d = held e)
    {p : Predicate}
    (h : Derivable id (Stated held ss) (ss.filterMap Statement.rule?) p row) :
    Derivable Predicate.engineName (Handed held c data) c.rules p.engineName row := by
  induction h with
  | given h =>
    cases h with
    | fact hf => exact compiled_of_fact hc hdata hf
    | source hd hs hrow => exact compiled_of_dataSource hc harity hsame hd hs hrow
  | rule σ hr hd _ hhead ih =>
    exact .rule σ (mem_rules_of_rule hc (Content.mem_rules_of.mp hr)) hd ih hhead

theorem derivable_iff_of_delivers (hdata : (build ss).Delivers data)
    (harity : ∀ d, .dataSource d ∈ ss → d.isLocalFacts = false →
      ∀ row, held d row → row.length = d.predicate.arity)
    (hsame : ∀ d e, .dataSource d ∈ ss → .dataSource e ∈ ss → d.same e = true → held d = held e)
    (hfresh : FreshAliases ss) {p : Predicate} (hp : Occurs p ss) :
    Derivable Predicate.engineName (Handed held (build ss) data) (build ss).rules p.engineName row ↔
      Derivable id (Stated held ss) (ss.filterMap Statement.rule?) p row := by
  have hc := closedForm_build ss
  constructor
  · intro h
    obtain ⟨q, p', hq, hp', hd⟩ := direct_of_compiled hc hdata hfresh h
    obtain rfl := Predicate.engineName_inj hq
    obtain rfl := hp'.unique hfresh (.itself hp)
    exact hd
  · exact compiled_of_direct hc hdata harity hsame

end Compilation

open Compilation

-- A row follows for a predicate from what an engine is handed just when it follows from the
-- statements. What is handed are the facts that a started engine is loaded with, the external
-- sources, each of which belongs to a declaration, and the rules. It is what the recorder behind an
-- engine holds when a load has succeeded, whatever was done before. Rules that Datalog does not
-- know derive nothing on either side.
theorem derivable_compiled_iff {ss : List Statement} {held : Declaration → Row → Prop}
    (harity : ∀ d, .dataSource d ∈ ss → d.isLocalFacts = false →
      ∀ row, held d row → row.length = d.predicate.arity)
    (hsame : ∀ d e, .dataSource d ∈ ss → .dataSource e ∈ ss → d.same e = true → held d = held e)
    (hfresh : FreshAliases ss) {p : Predicate} (hp : Occurs p ss) (row : Row) :
    (∀ q s, (q, s) ∈ (Classification.build ss).external →
      ∃ d, d.source = some s ∧ (Classification.build ss).Lists q d) ∧
    (∀ b : Recorder, b.active = true → b.data = [] → ∃ b',
      Reasoner.addFacts (.build ss) (Classification.build ss).facts b = (.ok (), b') ∧
      (Derivable Predicate.engineName (Handed held (.build ss) b'.data)
          (Classification.build ss).rules p.engineName row ↔
        Derivable id (Stated held ss) (ss.filterMap Statement.rule?) p row)) ∧
    ∀ (β : Type) [Backend β] (view : β → Recorder), Shadows view →
      ∀ (b : β) (r : Reasoner β) (kb : KnowledgeBase) (steps : List (Workspace β × Action))
        (w : Workspace β) (r' : Reasoner β), (view b).Idle → Opened b r →
        Run (fun b b' => view b' = view b) ⟨kb, r⟩ steps w → w.kb.statements = ss →
        w.reasoner.load w.kb = (.ok (), r') →
        (Derivable Predicate.engineName (Handed held r'.index (view r'.backend).data)
            (view r'.backend).rules p.engineName row ↔
          Derivable id (Stated held ss) (ss.filterMap Statement.rule?) p row) := by
  refine ⟨fun q s => Classification.exists_lists, fun b hb hdata => ?_, ?_⟩
  · refine ⟨_, Prod.ext (Reasoner.addFacts_build hb ss) rfl, ?_⟩
    exact derivable_iff_of_delivers (Reasoner.delivers_addFacts hb hdata ss) harity hsame hfresh hp
  · rintro β _ view hview b r kb steps w r' hidle hopened hrun rfl hload
    have hr' : (w.reasoner.load w.kb).2 = r' := by rw [hload]
    have hok : (w.reasoner.load w.kb).1 = .ok () := by rw [hload]
    have hstate := Reasoner.state_of_load_ok hok
    have hindex := Reasoner.index_of_load_ok hok
    have hm : Mirrored view (w.perform .load).2 := (hrun.action .load).mirrored hview hidle hopened
    have hholds := hm.holds (show (w.reasoner.load w.kb).2.state.Loaded by
      simp [hstate, ReasonerState.Loaded])
    change (view (w.reasoner.load w.kb).2.backend).Holds (w.reasoner.load w.kb).2.index _ at hholds
    rw [hr'] at hindex hholds
    rw [hindex] at hholds ⊢
    rw [hholds.rules]
    exact derivable_iff_of_delivers (.of_mem_iff hholds.mem_data) harity hsame hfresh hp

namespace Compilation

-- A predicate with a fact and a source, so with two stand-ins, and another that takes its rows.

def queried : Declaration :=
  ⟨⟨"p", 1⟩, some (.sparqlQuery "e" "x" "b")⟩

def taking : Rule :=
  .single ⟨"q", [.universal "X"]⟩ ⟨"p", [.universal "X"]⟩

def mixed : List Statement :=
  [.fact ⟨⟨"p", [.constant "a"]⟩, rfl⟩, .dataSource queried, .rule taking]

-- The names of stand-ins are longer than those that occur.
theorem freshAliases_mixed : FreshAliases mixed := by
  rintro d - ⟨s, hs, hp⟩
  have hlength := d.length_aliasMark
  have hname : d.alias.name.toList.length = 1 := by
    simp only [mixed, List.mem_cons, List.not_mem_nil, or_false] at hs
    rcases hs with rfl | rfl | rfl
    · obtain hp := List.mem_singleton.mp hp
      rw [hp]
      rfl
    · obtain hp := List.mem_singleton.mp hp
      rw [hp]
      rfl
    · have hp : d.alias = ⟨"q", 1⟩ ∨ d.alias = ⟨"p", 1⟩ := by
        simpa [Statement.predicates, taking, Rule.single, Rule.headAtoms, Rule.bodyLiterals,
          Literal.atom, Atom.predicate] using hp
      rcases hp with hp | hp <;> rw [hp] <;> rfl
  simp only [Declaration.alias, String.toList_append, List.length_append] at hname
  split at hlength <;> omega

def withMixed : Workspace Recorder :=
  ⟨.ofStatements mixed, .new {}⟩

-- Once loaded, a row of the source reaches the other predicate.
theorem derivable_mixed :
    ∃ r, withMixed.reasoner.load withMixed.kb = (.ok (), r) ∧
      Derivable Predicate.engineName (Handed (fun _ row => row = ["b"]) r.index r.backend.data)
        r.backend.rules (Predicate.mk "q" 1).engineName ["b"] := by
  have honly {d : Declaration} (hd : .dataSource d ∈ mixed) : d = queried := by
    simpa [mixed] using hd
  have hload : (withMixed.reasoner.load withMixed.kb).1 = .ok () := by decide +kernel
  refine ⟨_, Prod.ext hload rfl, ?_⟩
  refine ((derivable_compiled_iff ?_ (fun _ _ _ _ _ => rfl) freshAliases_mixed
    ⟨.rule taking, by simp [mixed], by simp [Statement.predicates, taking, Rule.single,
      Rule.headAtoms, Rule.bodyLiterals, Atom.predicate]⟩ ["b"]).2.2 Recorder id
    Recorder.shadows_id _ _ _ [] withMixed _ ⟨rfl, rfl, rfl⟩ .new .start rfl
    (Prod.ext hload rfl)).mpr ?_
  · rintro d hd - row rfl
    rw [honly hd]
    rfl
  · have hhead : ⟨"q", [.universal "X"]⟩ ∈ taking.headAtoms := by decide
    refine .rule (fun _ => "b") (by simp [mixed, Statement.rule?]) ⟨rfl, rfl, rfl, rfl⟩ ?_ hhead
    intro a ha
    obtain rfl : a = ⟨"p", [.universal "X"]⟩ := by
      simpa [taking, Rule.single, Rule.positiveBody, Rule.bodyLiterals, Literal.positive?] using ha
    exact .given (.source (d := queried) (by simp [mixed]) rfl rfl)

end Compilation

end Rulebook
