import Rulebook.Proofs.Reasoner.LoadOutcome

namespace Rulebook

-- The facts whose rows are loaded under a name.
def factsUnder (k : String) (ss : List Statement) : List Fact :=
  (ss.filterMap Statement.fact?).filter fun g =>
    ((Classification.build ss).factTarget g.predicate).map Predicate.engineName = some k

-- The terms of a fact have the names of those of a query, where these are ground.
def Fact.Agrees (query : Atom) (g : Fact) : Prop :=
  ∀ e ∈ g.terms.zip query.terms, e.2.isGround = true → e.1.name = e.2.name

instance (query : Atom) : DecidablePred (Fact.Agrees query) := fun g =>
  inferInstanceAs (Decidable (∀ e ∈ g.terms.zip query.terms, _))

-- What there is to find for a query.
def factsFor (query : Atom) (ss : List Statement) : List Fact :=
  (factsUnder query.predicate.engineName ss).filter (·.Agrees query)

namespace Classification

variable {k : String} {ss : List Statement} {c : Classification}

theorem delivered_eq_map (k : String) (c : Classification) :
    c.delivered k =
      ((c.facts.filter fun e => (c.factTarget e.1).map Predicate.engineName = some k).flatMap
        Prod.snd).map Fact.row := by
  unfold delivered deliveries deliver
  induction c.facts with
  | nil => rfl
  | cons e facts ih =>
    obtain ⟨p, fs⟩ := e
    cases htarget : c.factTarget p with
    | none => simpa [htarget] using ih
    | some target =>
      by_cases hk : target.engineName = k
      · simpa [htarget, hk] using ih
      · simpa [htarget, hk] using ih

-- Facts are gathered by their predicates, and go where their predicate goes.
theorem delivered_perm (k : String) (ss : List Statement) :
    ((build ss).delivered k).Perm ((factsUnder k ss).map Fact.row) := by
  have hc := closedForm_build ss
  rw [delivered_eq_map]
  exact (Sorted.flatMap_filter_perm hc.ordered.facts.nodup hc.mem_facts
    fun p => ((build ss).factTarget p).map Predicate.engineName = some k).map Fact.row

-- Where facts go has their arity.
theorem arity_factTarget {p t : Predicate} (ht : (build ss).factTarget p = some t) :
    t.arity = p.arity := by
  rcases (closedForm_build ss).factTarget_cases ht with rfl | ⟨d, hd, rfl⟩
  · rfl
  · rw [← (Content.mem_of_mem_sources hd).2]
    rfl

theorem length_terms_of_mem_factsUnder {query : Atom} {g : Fact}
    (hg : g ∈ factsUnder query.predicate.engineName ss) :
    g.terms.length = query.terms.length := by
  obtain ⟨-, hk⟩ := List.mem_filter.mp hg
  obtain ⟨t, ht, hname⟩ := Option.map_eq_some_iff.mp (of_decide_eq_true hk)
  have harity := arity_factTarget ht
  rw [Predicate.engineName_inj hname] at harity
  exact harity.symm

end Classification

namespace Recorder

-- The rows that there are for a query.
def rowsFor (query : Atom) (b : Recorder) : List Row :=
  ((Sorted.lookup query.predicate.engineName b.data).getD []).filter (matchesRow query.terms)

variable {k : String} {query : Atom} {c : Classification} {settings : ReasonerSettings}
  {b : Recorder} {ss : List Statement} {g : Fact}

theorem matching_of_knows (hb : b.active = true)
    (hk : b.knows query.predicate.engineName = true) :
    b.matching query.predicate.engineName query.terms = .ok (b.rowsFor query) := by
  simp [matching, hb, hk, rowsFor]

theorem matchesRow_row (hlength : g.terms.length = query.terms.length) :
    matchesRow query.terms g.row = true ↔ g.Agrees query := by
  have hterm (e : Term × Term) :
      matchesTerm e.1.name e.2 = true ↔ e.2.isGround = true → e.1.name = e.2.name := by
    cases hvariable : e.2.isVariable <;>
      simp [matchesTerm, Term.isGround, hvariable, eq_comm]
  simp [matchesRow, Fact.row, Fact.Agrees, hlength, List.zip_map_left, ← hterm]

-- All rows under a name are found there.
theorem Holds.lookup_data (h : b.Holds c settings) (k : String) :
    (Sorted.lookup k b.data).getD [] = c.delivered k := by
  cases hlookup : Sorted.lookup k b.data with
  | some rows =>
    exact ((h.mem_data k rows).mp ((Sorted.lookup_eq_some_iff h.ascending).mp hlookup)).2
  | none =>
    have hnone : c.deliveries.filter (·.1 = k) = [] := by
      refine List.filter_eq_nil_iff.mpr fun e he hk => ?_
      obtain rfl := of_decide_eq_true hk
      have hm := (h.mem_data e.1 _).mpr ⟨List.mem_map_of_mem he, rfl⟩
      exact Sorted.lookup_eq_none_iff.mp hlookup _ hm Std.ReflOrd.compare_self
    simp [Classification.delivered, hnone]

-- They are those of the facts that there are to find.
theorem Holds.rowsFor_perm (h : b.Holds (.build ss) settings) (query : Atom) :
    (b.rowsFor query).Perm ((factsFor query ss).map Fact.row) := by
  have hfacts : factsFor query ss =
      (factsUnder query.predicate.engineName ss).filter (matchesRow query.terms ·.row) := by
    refine List.filter_congr fun g hg => ?_
    rw [Bool.eq_iff_iff, matchesRow_row (Classification.length_terms_of_mem_factsUnder hg),
      decide_eq_true_eq]
  rw [rowsFor, h.lookup_data, hfacts]
  have hperm := (Classification.delivered_perm query.predicate.engineName ss).filter
    (matchesRow query.terms)
  rwa [List.filter_map] at hperm

-- A name with rows is known.
theorem Holds.knows (h : b.Holds (.build ss) settings) (hk : factsUnder k ss ≠ []) :
    b.knows k = true := by
  have hrows : (Sorted.lookup k b.data).getD [] ≠ [] := by
    rw [h.lookup_data]
    intro hnil
    have hperm := Classification.delivered_perm k ss
    rw [hnil] at hperm
    exact hk (List.map_eq_nil_iff.mp hperm.nil_eq.symm)
  have hcontains : Sorted.contains k b.data = true := by
    rw [Sorted.contains, Option.isSome_iff_ne_none]
    intro hnone
    simp [hnone] at hrows
  simp [Recorder.knows, hcontains]

end Recorder

namespace Reasoner

variable {r : Reasoner Recorder} {kb : KnowledgeBase} {query : Atom} {nulls : Bool}

theorem answerQuery_of_knows (hl : r.state.Loaded) (hb : r.backend.active = true)
    (hk : r.backend.knows query.predicate.engineName = true) :
    r.answerQuery kb query nulls =
      .ok ⟨(r.backend.rowsFor query).map (·.map Term.constant), r.shownMaterialisation kb⟩ := by
  have hquery : Backend.query query.predicate.engineName query.terms nulls r.backend = _ :=
    Recorder.matching_of_knows hb hk
  rw [answerQuery, whenQueryable, whenLoaded_of_loaded hl, hquery]

theorem knows_of_answerQuery {a : QueryAnswers} (hb : r.backend.active = true)
    (h : r.answerQuery kb query nulls = .ok a) :
    r.backend.knows query.predicate.engineName = true := by
  obtain ⟨-, h⟩ := whenQueryable_eq_ok h
  by_contra hk
  have hquery : Backend.query query.predicate.engineName query.terms nulls r.backend =
      .error (.unknownPredicate query.predicate.engineName) := by
    change r.backend.matching _ _ = _
    simp [Recorder.matching, hb, hk]
  rw [hquery] at h
  cases h

theorem exportQueryAnswers_of_knows (hl : r.state.Loaded) (hb : r.backend.active = true)
    (hk : r.backend.knows query.predicate.engineName = true) {file : OutputFile}
    (hcsv : file.path.extensionText? = some "csv") (hfile : file.refusal = none) :
    r.exportQueryAnswers kb query nulls file =
      .ok ⟨Recorder.csv (r.backend.rowsFor query), r.shownMaterialisation kb⟩ := by
  have hwrite : Backend.writeCsv query.predicate.engineName query.terms nulls file r.backend =
      .ok (Recorder.csv (r.backend.rowsFor query)) := by
    change r.backend.writeCsv _ _ file = _
    simp [Recorder.writeCsv, Recorder.matching_of_knows hb hk, hfile]
  rw [exportQueryAnswers, whenQueryable, whenLoaded_of_loaded hl, if_neg (by simp [hcsv]), hwrite]

end Reasoner

variable {β : Type} [Backend β]

namespace Workspace

-- The answers to a query are the facts there are to find, however they are asked for.
structure Finds (ss : List Statement) (w : Workspace β) (query : Atom) (nulls : Bool)
    (a : QueryAnswers) : Prop where
  rows : a.rows.Perm ((factsFor query ss).map fun g => g.row.map Term.constant)
  counted : w.reasoner.countQueryAnswers w.kb query nulls =
    .ok ⟨(factsFor query ss).length, a.correctness⟩
  exported : ∀ file : OutputFile, file.path.extensionText? = some "csv" → file.refusal = none →
    w.reasoner.exportQueryAnswers w.kb query nulls file =
      .ok ⟨String.join (a.rows.map fun ts => ",".intercalate (ts.map Term.name) ++ "\n"),
        a.materialisation⟩

-- Every query is answered from the facts of some statements, if there are facts under its
-- predicate. Nothing else is answered in any case.
def Answers (ss : List Statement) (w : Workspace β) : Prop :=
  ∀ query nulls,
    (factsUnder query.predicate.engineName ss ≠ [] →
      ∃ a, w.reasoner.answerQuery w.kb query nulls = .ok a) ∧
    ∀ a, w.reasoner.answerQuery w.kb query nulls = .ok a → w.Finds ss query nulls a

theorem answers_of_holds {w : Workspace Recorder} {ss : List Statement}
    {settings : ReasonerSettings} (hl : w.reasoner.state.Loaded)
    (h : w.reasoner.backend.Holds (.build ss) settings) : w.Answers ss := by
  refine fun query nulls => ⟨fun hfacts => ?_, fun a ha => ?_⟩
  · exact ⟨_, Reasoner.answerQuery_of_knows hl h.active (h.knows hfacts)⟩
  · have hk := Reasoner.knows_of_answerQuery h.active ha
    have hrows := h.rowsFor_perm query
    have hanswer := ha
    rw [Reasoner.answerQuery_of_knows hl h.active hk] at ha
    obtain rfl := Except.ok.inj ha
    refine ⟨?_, ?_, fun file hcsv hfile => ?_⟩
    · simpa [Function.comp_def] using hrows.map (·.map Term.constant)
    · have hcount := hrows.length_eq
      rw [List.length_map] at hcount
      rw [Reasoner.countQueryAnswers, hanswer, ← hcount]
      simp [Except.map]
    · rw [Reasoner.exportQueryAnswers_of_knows hl h.active hk hcsv hfile]
      simp [Recorder.csv, Function.comp_def, Term.name]

-- What is loaded stays as it is. A run loads anew if there was a run or a change since loading.
def Keeps (w : Workspace β) : Action → Prop
  | .load | .reset | .close => False
  | .reason | .supervise _ _ => w.reasoner.shownState w.kb = .afterLoading
  | _ => True

end Workspace

namespace Reasoner

-- A reasoner with something loaded.
structure Retains (c : Classification) (r : Reasoner β) : Prop where
  loaded : r.state.Loaded
  index : r.index = c

namespace Retains

variable {c : Classification} {kb : KnowledgeBase} {r : Reasoner β}

omit [Backend β] in
theorem markChanged (h : r.Retains c) : r.markChanged.Retains c := by
  refine ⟨?_, r.markChanged_index.trans h.index⟩
  rcases r.state_markChanged with ⟨-, hs⟩ | ⟨-, hr⟩
  · simp [hs, ReasonerState.Loaded]
  · rw [hr]
    exact h.loaded

omit [Backend β] in
theorem observe (h : r.Retains c) : (r.observe kb).Retains c := by
  unfold Reasoner.observe
  split
  · exact h.markChanged
  · exact h

theorem of_load (h : (r.load kb).1 = .ok ()) : (r.load kb).2.Retains (.build kb.statements) := by
  exact ⟨by simp [state_of_load_ok h, ReasonerState.Loaded], index_of_load_ok h⟩

theorem finish (h : r.Retains c) (counts : Bool) : (r.finish counts).Retains c := by
  have hrunning := r.running_finish counts
  generalize r.runEvents counts = events at hrunning
  generalize r.finish counts = r' at hrunning ⊢
  cases hrunning with
  | ended _ => exact ⟨trivial, h.index⟩
  | failed _ => exact ⟨trivial, h.index⟩

-- A run right after loading loads nothing.
theorem reasoned (h : r.Retains c) (hs : r.shownState kb = .afterLoading) (counts : Bool) :
    (r.reasoned counts kb).Retains c := by
  have hprepare : r.prepare kb = (.ok (), r.observe kb) := by
    simp only [Reasoner.prepare, state_observe, hs]
  simpa only [Reasoner.reasoned, hprepare] using h.observe.finish counts

theorem perform {w : Workspace β} (h : w.reasoner.Retains c) {a : Action} (ha : w.Keeps a) :
    (w.perform a).2.reasoner.Retains c := by
  cases a with
  | load | reset | close => exact ha.elim
  | reason =>
    change (w.reasoner.reason w.kb).2.Retains c
    rw [reason_eq_reasoned]
    exact h.reasoned ha true
  | supervise limit pace =>
    change (w.reasoner.superviseReason w.kb limit pace).2.Retains c
    rw [superviseReason_eq_reasoned]
    exact h.reasoned ha _
  | add | addMany | remove | query | count | exportCsv | checkNotion | checkForCycles => exact h
  | notify => exact h.markChanged
  | setAlgorithm algorithm => exact ⟨h.loaded, h.index⟩
  | setTimeout seconds =>
    change (w.reasoner.setTimeout seconds).2.Retains c
    unfold Reasoner.setTimeout
    split
    · exact h
    · exact ⟨h.loaded, h.index⟩
  | setHeadStrategy strategy =>
    change (w.reasoner.setHeadStrategy w.kb strategy).2.Retains c
    have hobserve : (w.reasoner.observe w.kb).Retains c := h.observe
    unfold Reasoner.setHeadStrategy
    simp only
    split
    · exact ⟨hobserve.loaded, hobserve.index⟩
    · exact hobserve
  | setLogLevel level =>
    change (w.reasoner.setLogLevel level).2.Retains c
    unfold Reasoner.setLogLevel
    split
    · exact h
    · exact ⟨h.loaded, h.index⟩
  | setLogFile path =>
    change (w.reasoner.setLogFile path).2.Retains c
    unfold Reasoner.setLogFile
    split
    · exact h
    · split <;> exact ⟨h.loaded, h.index⟩

theorem run {drift : β → β → Prop} {start w : Workspace β}
    {steps : List (Workspace β × Action)} (h : start.reasoner.Retains c)
    (hrun : Run drift start steps w) (hkeeps : ∀ step ∈ steps, step.1.Keeps step.2) :
    w.reasoner.Retains c := by
  induction hrun with
  | start => exact h
  | action a _ ih =>
    obtain ⟨ha, hsteps⟩ := List.forall_mem_cons.mp hkeeps
    exact (ih hsteps).perform ha
  | drift _ _ ih => exact ⟨(ih hkeeps).loaded, (ih hkeeps).index⟩

end Retains

end Reasoner

-- In every run a reasoner with something loaded answers queries from the facts of the knowledge
-- base that was loaded last, as it was then. From a load that succeeds on, these are those of the
-- knowledge base of that moment, until it is loaded anew, reset or closed.
theorem answers_of_run {answers : FixedAnswers} {r : Reasoner Recorder} {kb : KnowledgeBase}
    {steps : List (Workspace Recorder × Action)} {w : Workspace Recorder}
    (hopened : Opened ({ answers := answers } : Recorder) r)
    (hrun : Run (fun _ _ => False) ⟨kb, r⟩ steps w) :
    (w.reasoner.state.Loaded →
      ∃ loaded, lastLoad (Run.history steps) = some loaded ∧ w.Answers loaded.statements) ∧
    ((w.reasoner.load w.kb).1 = .ok () →
      ∀ steps' w', Run (fun _ _ => False) (w.perform .load).2 steps' w' →
        (∀ step ∈ steps', step.1.Keeps step.2) → w'.Answers w.kb.statements) := by
  have hview {start w : Workspace Recorder} {steps : List (Workspace Recorder × Action)}
      (hm : Mirrored id start) (hrun : Run (fun _ _ => False) start steps w) : Mirrored id w :=
    (hrun.mono fun _ _ => False.elim).moves.invariant (I := fun _ w => Mirrored id w)
      (.move Recorder.shadows_id) [] hm
  have hstart : Mirrored id (⟨kb, r⟩ : Workspace Recorder) := by
    refine ⟨fun hl => ?_, fun _ => hopened.idle Recorder.shadows_id ⟨rfl, rfl, rfl⟩⟩
    simp [hopened.state_eq, ReasonerState.Loaded] at hl
  have hm := hview hstart hrun
  refine ⟨fun hl => ?_, fun hload steps' w' hrun' hkeeps => ?_⟩
  · obtain ⟨loaded, hr⟩ := (hrun.tracks hopened.state_eq).remembers hl
    exact ⟨loaded, hr.loaded, Workspace.answers_of_holds hl (hr.index ▸ hm.holds hl)⟩
  · have hretains' := (Reasoner.Retains.of_load hload).run hrun' hkeeps
    have hm' := hview (hview hstart (.action .load hrun)) hrun'
    exact Workspace.answers_of_holds hretains'.loaded
      (hretains'.index ▸ hm'.holds hretains'.loaded)

-- Facts before and after a rule for their predicate, one of them twice. After loading there is a
-- run, and then another fact.

def letter (name : String) : Fact :=
  ⟨⟨"p", [.constant name]⟩, rfl⟩

def Workspace.withLetters : Workspace Recorder :=
  ⟨⟨[.fact (letter "a"), .rule Classification.ruling, .fact (letter "b"), .fact (letter "a")], 4⟩,
    .new ({} : Recorder)⟩

def Workspace.withLettersReasoned : Workspace Recorder :=
  ((withLetters.perform .load).2.perform .reason).2

def Workspace.withLettersAdded : Workspace Recorder :=
  (withLettersReasoned.perform (.add (.fact (letter "c")))).2

theorem answers_withLettersAdded :
    Workspace.withLettersAdded.Answers Workspace.withLetters.kb.statements ∧
      factsFor ⟨"p##FACT", [.universal "X"]⟩ Workspace.withLetters.kb.statements =
        [letter "a", letter "b", letter "a"] ∧
      Workspace.withLettersAdded.reasoner.answerQuery Workspace.withLettersAdded.kb
          ⟨"p##FACT", [.universal "X"]⟩ true =
        .ok ⟨[[.constant "a"], [.constant "b"], [.constant "a"]], .wrong⟩ := by
  have hopened : Opened ({ answers := {} } : Recorder) Workspace.withLetters.reasoner := .new
  have hrun : Run (fun _ _ => False) (Workspace.withLetters.perform .load).2
      [(Workspace.withLettersReasoned, .add (.fact (letter "c"))),
        ((Workspace.withLetters.perform .load).2, .reason)] Workspace.withLettersAdded :=
    .action (.add (.fact (letter "c"))) (.action .reason .start)
  refine ⟨(answers_of_run hopened .start).2 (by decide +kernel) _ _ hrun ?_, by decide +kernel,
    by decide +kernel⟩
  have hshown : (Workspace.withLetters.perform .load).2.reasoner.shownState
      (Workspace.withLetters.perform .load).2.kb = .afterLoading := by
    decide +kernel
  simp [Workspace.Keeps, hshown]

end Rulebook
