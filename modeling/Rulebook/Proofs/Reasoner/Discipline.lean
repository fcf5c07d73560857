import Rulebook.Proofs.Classification.Freshness
import Rulebook.Proofs.Reasoner.Refusal

namespace Rulebook

-- Errors of an engine that answer to what it was given, and not to when it was called.
def BackendError.Expected : BackendError → Prop
  | sourceConfiguration _ | materialization _ | unknownPredicate _ => True
  | _ => False

-- A call ends well or with such an error.
def Orderly {α : Type} (result : Except BackendError α) : Prop :=
  ∀ e, result = .error e → e.Expected

-- The reasoner does not have to report that it is at odds with its engine.
def ReasonerError.Consistent (e : ReasonerError) : Prop :=
  ∀ message, e ≠ .backend message

theorem ReasonerError.consistent_ofBackend {e : BackendError} (h : e.Expected) :
    (ofBackend e).Consistent := by
  cases e with
  | sourceConfiguration | materialization | unknownPredicate => exact nofun
  | notStarted | alreadyStarted | io => exact h.elim

theorem Reasoner.consistent_queryError {query : Atom} {e : BackendError} (h : e.Expected) :
    (queryError query e).Consistent := by
  cases e with
  | sourceConfiguration | materialization | unknownPredicate => exact nofun
  | notStarted | alreadyStarted | io => exact h.elim

-- What keeps an engine idle, or active.
def Steady {β : Type} (idle active : β → Prop) (b b' : β) : Prop :=
  (idle b → idle b') ∧ (active b → active b')

-- An engine that serves as long as calls are made in turn: it is started while it is idle, and
-- given data, rules and questions while it is active. Nothing is said of other calls.
structure Serves {β : Type} [Backend β] (idle active : β → Prop) : Prop where
  started : ∀ {config b b'}, idle b → Backend.activate config b = (.ok (), b') → active b'
  notStarted : ∀ {config b e b'}, idle b → Backend.activate config b = (.error e, b') →
    e.Expected ∧ idle b'
  stop : ∀ {b}, idle b ∨ active b → idle (Backend.stop b)
  setLogLevel : ∀ level b, Steady idle active b (Backend.setLogLevel level b)
  setLogFile : ∀ path b, Orderly (Backend.setLogFile path b).1 ∧
    Steady idle active b (Backend.setLogFile path b).2
  predicateArity : ∀ predicate {b}, active b → Orderly (Backend.predicateArity predicate b)
  addData : ∀ predicate rows {b}, active b → Orderly (Backend.addData predicate rows b).1 ∧
    active (Backend.addData predicate rows b).2
  setRules : ∀ rules strategy {b}, active b → Orderly (Backend.setRules rules strategy b).1 ∧
    active (Backend.setRules rules strategy b).2
  materialize : ∀ skolem timeout {b}, active b → Orderly (Backend.materialize skolem timeout b).1 ∧
    active (Backend.materialize skolem timeout b).2
  query : ∀ predicate terms nulls {b}, active b → Orderly (Backend.query predicate terms nulls b)
  writeCsv : ∀ predicate terms nulls (file : OutputFile) {b e}, active b →
    Backend.writeCsv predicate terms nulls file b = .error e →
      e.Expected ∨ ∃ reason, file.refusal = some reason ∧ e = .io reason
  checkCyclic : ∀ notion {b}, active b → Orderly (Backend.checkCyclic notion b)

namespace Recorder

theorem matching_of_active {predicate : String} {terms : List Term} {r : Recorder}
    (hr : r.active = true) : Orderly (r.matching predicate terms) := by
  intro e he
  simp only [matching, hr] at he
  split at he
  · contradiction
  · split at he
    · cases he
    · cases he
      trivial

-- A recorder answers every call that is made in turn.
theorem serves : Serves (fun r : Recorder => r.active = false) (fun r => r.active = true) where
  started {config r r'} hr h := by
    change activate config r = _ at h
    simp only [activate, hr] at h
    cases h
    rfl
  notStarted {config r e r'} hr h := by
    change activate config r = _ at h
    simp [activate, hr] at h
  stop _ := rfl
  setLogLevel _ _ := ⟨id, id⟩
  setLogFile _ _ := ⟨nofun, id, id⟩
  predicateArity predicate r hr := by
    change Orderly (predicateArity predicate r)
    simp [predicateArity, hr, Orderly]
  addData predicate rows r hr := by
    change Orderly (addData predicate rows r).1 ∧ (addData predicate rows r).2.active = true
    simp [addData, whenActive, hr, Orderly]
  setRules rules strategy r hr := by
    change Orderly (setRules rules strategy r).1 ∧ (setRules rules strategy r).2.active = true
    simp [setRules, whenActive, hr, Orderly]
  materialize skolem timeout r hr := by
    change Orderly (materialize skolem timeout r).1 ∧
      (materialize skolem timeout r).2.active = true
    unfold materialize
    cases r.answers.failure with
    | none => simp [hr, Orderly]
    | some message => simp [hr, Orderly, BackendError.Expected]
  query _ _ _ _ hr := matching_of_active hr
  writeCsv predicate terms nulls file r e hr h := by
    change writeCsv predicate terms file r = .error e at h
    unfold writeCsv at h
    split at h
    next hmatching =>
      cases h
      exact .inl (matching_of_active hr _ hmatching)
    next =>
      split at h
      next reason hreason =>
        cases h
        exact .inr ⟨reason, hreason, rfl⟩
      next => cases h
  checkCyclic notion r hr := by
    change Orderly (checkCyclic notion r)
    simp [checkCyclic, hr, Orderly]

end Recorder

-- A recorder with a note of whether it was ever started while it was active, or given data or rules
-- or made to run while it was not. A question that comes while it is not active is an error anyway.
structure Watched where
  recorder : Recorder
  amiss : Bool

namespace Watched

def watch (r : Recorder) : Watched :=
  { recorder := r, amiss := false }

-- Make a call, and note if it was not due.
def call {α : Type} (due : Recorder → Bool) (act : Recorder → Except BackendError α × Recorder)
    (b : Watched) : Except BackendError α × Watched :=
  ((act b.recorder).1, { recorder := (act b.recorder).2, amiss := b.amiss || !due b.recorder })

instance : Backend Watched where
  activate config := call (!·.active) (Backend.activate config)
  stop b := { b with recorder := Backend.stop b.recorder }
  setLogLevel level b := { b with recorder := Backend.setLogLevel level b.recorder }
  setLogFile path b :=
    ((Backend.setLogFile path b.recorder).1,
      { b with recorder := (Backend.setLogFile path b.recorder).2 })
  predicateArity predicate b := Backend.predicateArity predicate b.recorder
  addData predicate rows := call (·.active) (Backend.addData predicate rows)
  setRules rules strategy := call (·.active) (Backend.setRules rules strategy)
  materialize skolem timeout := call (·.active) (Backend.materialize skolem timeout)
  query predicate terms nulls b := Backend.query predicate terms nulls b.recorder
  writeCsv predicate terms nulls file b := Backend.writeCsv predicate terms nulls file b.recorder
  checkCyclic notion b := Backend.checkCyclic notion b.recorder

-- Nothing was amiss so far.
def Sound (active : Bool) (b : Watched) : Prop :=
  b.recorder.active = active ∧ b.amiss = false

theorem call_of_due {α : Type} {due : Recorder → Bool}
    {act : Recorder → Except BackendError α × Recorder} {b : Watched} (h : due b.recorder = true) :
    call due act b = ((act b.recorder).1, { b with recorder := (act b.recorder).2 }) := by
  simp [call, h]

theorem Sound.call {α : Type} {act : Recorder → Except BackendError α × Recorder} {b : Watched}
    (hb : b.Sound true)
    (h : Orderly (act b.recorder).1 ∧ (act b.recorder).2.active = true) :
    Orderly (b.call (·.active) act).1 ∧ (b.call (·.active) act).2.Sound true := by
  rw [call_of_due hb.1]
  exact ⟨h.1, h.2, hb.2⟩

-- As long as nothing is amiss, a watched recorder serves as the recorder does.
theorem serves : Serves (Sound false) (Sound true) where
  started {config b b'} hb h := by
    change call (!·.active) (Backend.activate config) b = _ at h
    rw [call_of_due (by simp [hb.1])] at h
    obtain ⟨hok, rfl⟩ := Prod.mk.inj h
    exact ⟨Recorder.serves.started hb.1 (Prod.ext hok rfl), hb.2⟩
  notStarted {config b e b'} hb h := by
    change call (!·.active) (Backend.activate config) b = _ at h
    rw [call_of_due (by simp [hb.1])] at h
    obtain ⟨he, rfl⟩ := Prod.mk.inj h
    obtain ⟨hexpected, hidle⟩ := Recorder.serves.notStarted hb.1 (Prod.ext he rfl)
    exact ⟨hexpected, hidle, hb.2⟩
  stop hb := ⟨rfl, hb.elim And.right And.right⟩
  setLogLevel _ _ := ⟨id, id⟩
  setLogFile _ _ := ⟨nofun, id, id⟩
  predicateArity predicate _ hb := Recorder.serves.predicateArity predicate hb.1
  addData predicate rows _ hb := hb.call (Recorder.serves.addData predicate rows hb.1)
  setRules rules strategy _ hb := hb.call (Recorder.serves.setRules rules strategy hb.1)
  materialize skolem timeout _ hb := hb.call (Recorder.serves.materialize skolem timeout hb.1)
  query predicate terms nulls _ hb := Recorder.serves.query predicate terms nulls hb.1
  writeCsv predicate terms nulls file _ _ hb h :=
    Recorder.serves.writeCsv predicate terms nulls file hb.1 h
  checkCyclic notion _ hb := Recorder.serves.checkCyclic notion hb.1

end Watched

namespace Serves

variable {β : Type} [Backend β] {idle active : β → Prop}

section Loading

variable {b : β} {c : Classification}

theorem checkArities (hserves : Serves idle active) {sources : List (Predicate × DataSource)}
    {e : ReasonerError} (hb : active b) (h : Reasoner.checkArities b sources = .error e) :
    e.Consistent := by
  induction sources with
  | nil => cases h
  | cons source sources ih =>
    unfold Reasoner.checkArities at h
    split at h
    next he =>
      cases h
      exact ReasonerError.consistent_ofBackend (hserves.predicateArity _ hb _ he)
    next => exact ih h
    next =>
      split at h
      next => exact ih h
      next =>
        cases h
        exact nofun

theorem addFacts (hserves : Serves idle active) {facts : List (Predicate × List Fact)}
    (hb : active b) (htargets : ∀ e ∈ facts, ∃ target, c.factTarget e.1 = some target) :
    active (Reasoner.addFacts c facts b).2 ∧
      ∀ e, (Reasoner.addFacts c facts b).1 = .error e → e.Consistent := by
  induction facts generalizing b with
  | nil => exact ⟨hb, nofun⟩
  | cons f facts ih =>
    obtain ⟨target, htarget⟩ := htargets f List.mem_cons_self
    obtain ⟨horderly, hactive⟩ := hserves.addData target.engineName
      (f.2.map fun f => f.terms.map Term.name) hb
    unfold Reasoner.addFacts
    simp only [htarget]
    split
    next e b' hadd =>
      rw [hadd] at horderly hactive
      refine ⟨hactive, ?_⟩
      rintro _ ⟨⟩
      exact ReasonerError.consistent_ofBackend (horderly e rfl)
    next b' hadd =>
      rw [hadd] at hactive
      exact ih hactive fun e he => htargets e (List.mem_cons_of_mem _ he)

theorem populate (hserves : Serves idle active) (settings : ReasonerSettings) (ss : List Statement)
    (hb : active b) :
    active (Reasoner.populate settings (.build ss) b).2 ∧
      ∀ e, (Reasoner.populate settings (.build ss) b).1 = .error e → e.Consistent := by
  have hlevel : active (Backend.setLogLevel settings.logLevel b) :=
    (hserves.setLogLevel _ _).2 hb
  obtain ⟨hactive, hfacts⟩ := hserves.addFacts (c := .build ss) hlevel
    fun e (he : e ∈ (Classification.build ss).facts) =>
      Classification.exists_factTarget_of_facts he
  unfold Reasoner.populate
  simp only
  split
  next e he =>
    refine ⟨hlevel, ?_⟩
    rintro _ ⟨⟩
    exact hserves.checkArities hlevel he
  next =>
    split
    next e b' hadd =>
      rw [hadd] at hactive hfacts
      exact ⟨hactive, hfacts⟩
    next b' hadd =>
      rw [hadd] at hactive
      obtain ⟨horderly, hrules⟩ := hserves.setRules (Classification.build ss).rules
        settings.headStrategy hactive
      split
      next e b'' hset =>
        rw [hset] at horderly hrules
        refine ⟨hrules, ?_⟩
        rintro _ ⟨⟩
        exact ReasonerError.consistent_ofBackend (horderly e rfl)
      next b'' hset =>
        rw [hset] at hrules
        exact ⟨hrules, nofun⟩

end Loading

end Serves

-- The engine is active just as long as the reasoner takes it to hold something.
structure Workspace.InTurn {β : Type} (idle active : β → Prop) (w : Workspace β) : Prop where
  idle : ¬w.reasoner.state.Loaded → idle w.reasoner.backend
  active : w.reasoner.state.Loaded → active w.reasoner.backend

namespace Workspace.InTurn

variable {β : Type} {idle active : β → Prop} {w w' : Workspace β}

theorem of_loaded (hl : w.reasoner.state.Loaded) (hb : active w.reasoner.backend) :
    w.InTurn idle active :=
  ⟨fun hn => absurd hl hn, fun _ => hb⟩

theorem of_not_loaded (hn : ¬w.reasoner.state.Loaded) (hb : idle w.reasoner.backend) :
    w.InTurn idle active :=
  ⟨fun _ => hb, fun hl => absurd hl hn⟩

theorem steady (h : w.InTurn idle active) (hs : w'.reasoner.state = w.reasoner.state)
    (hb : Steady idle active w.reasoner.backend w'.reasoner.backend) : w'.InTurn idle active where
  idle hn := hb.1 (h.idle (hs ▸ hn))
  active hl := hb.2 (h.active (hs ▸ hl))

end Workspace.InTurn

-- What needs something loaded is not asked of the engine before it is active.
theorem Workspace.InTurn.whenLoaded {α β : Type} {idle active : β → Prop} {kb : KnowledgeBase}
    {r : Reasoner β} (hturn : InTurn idle active ⟨kb, r⟩) {beforeLoading afterClosing : String}
    {act : Except ReasonerError α} {P : ReasonerError → Prop}
    (hrefused : ∀ s message, P (.state s message))
    (hact : active r.backend → ∀ e, act = .error e → P e) {e : ReasonerError}
    (h : r.whenLoaded beforeLoading afterClosing act = .error e) : P e := by
  by_cases hl : r.state.Loaded
  · rw [Reasoner.whenLoaded_of_loaded hl] at h
    exact hact (hturn.active hl) e h
  · rw [Reasoner.whenLoaded_of_not_loaded hl] at h
    cases h
    exact hrefused _ _

namespace Serves

variable {β : Type} [Backend β] {idle active : β → Prop} {kb : KnowledgeBase} {r : Reasoner β}

theorem loadFresh (hserves : Serves idle active) (hs : r.state = .beforeLoading)
    (hturn : Workspace.InTurn idle active ⟨kb, r⟩) :
    Workspace.InTurn idle active ⟨kb, (r.loadFresh kb).2⟩ ∧
      ∀ e, (r.loadFresh kb).1 = .error e → e.Consistent := by
  have hn : ¬r.state.Loaded := by simp [hs, ReasonerState.Loaded]
  have hb : idle r.backend := hturn.idle hn
  have hl := r.loading_loadFresh kb
  generalize r.loadFresh kb = result at hl ⊢
  cases hl with
  | @loaded config b b' _ hactivate hpopulate =>
    have hactive := (hserves.populate r.settings kb.statements (hserves.started hb hactivate)).1
    rw [hpopulate] at hactive
    exact ⟨.of_loaded trivial hactive, by rintro _ ⟨⟩⟩
  | unusableSource _ =>
    refine ⟨.of_not_loaded hn hb, ?_⟩
    rintro _ ⟨⟩ _ ⟨⟩
  | @notActivated config e b _ hactivate =>
    obtain ⟨hexpected, hidle⟩ := hserves.notStarted hb hactivate
    refine ⟨.of_not_loaded hn hidle, ?_⟩
    rintro _ ⟨⟩
    exact ReasonerError.consistent_ofBackend hexpected
  | @notPopulated config e b b' _ hactivate hpopulate =>
    obtain ⟨hactive, hconsistent⟩ :=
      hserves.populate r.settings kb.statements (hserves.started hb hactivate)
    rw [hpopulate] at hactive hconsistent
    exact ⟨.of_not_loaded hn (hserves.stop (.inr hactive)), hconsistent⟩

-- One move of a workspace.
theorem move (hserves : Serves idle active) {h : List Event} {w w' : Workspace β}
    (hturn : w.InTurn idle active) (hm : Move (Steady idle active) h w w') :
    w'.InTurn idle active := by
  have hmark {kb : KnowledgeBase} {r : Reasoner β} (hturn : Workspace.InTurn idle active ⟨kb, r⟩) :
      Workspace.InTurn idle active ⟨kb, r.markChanged⟩ := by
    rcases r.state_markChanged with ⟨hl, hs⟩ | ⟨-, hr⟩
    · have hactive := hturn.active hl
      rw [← r.markChanged_backend] at hactive
      exact .of_loaded (by simp [hs, ReasonerState.Loaded]) hactive
    · rwa [hr]
  have hstop {kb : KnowledgeBase} {r : Reasoner β} (hturn : Workspace.InTurn idle active ⟨kb, r⟩) :
      idle (Backend.stop r.backend) := by
    by_cases hl : r.state.Loaded
    · exact hserves.stop (.inr (hturn.active hl))
    · exact hserves.stop (.inl (hturn.idle hl))
  cases hm with
  | edit _ => exact hturn.steady rfl ⟨id, id⟩
  | drift hb => exact hturn.steady rfl hb
  | observe =>
    unfold Reasoner.observe
    split
    · exact hmark hturn
    · exact hturn
  | notify => exact hmark hturn
  | unload _ => exact .of_not_loaded id (hstop hturn)
  | @close kb r hs =>
    refine .of_not_loaded r.not_loaded_close ?_
    simp only [Reasoner.close]
    exact hstop hturn
  | load hs => exact (hserves.loadFresh hs hturn).1
  | @run kb r counts hs =>
    have hb : active r.backend := hturn.active (by simp [hs, ReasonerState.Loaded])
    have hrun := (hserves.materialize (r.settings.algorithm = .skolemChase)
      r.settings.timeoutSeconds hb).2
    have hrunning := r.running_finish counts
    generalize r.runEvents counts = events at hrunning
    generalize r.finish counts = r' at hrunning ⊢
    cases hrunning with
    | ended hmaterialize | failed hmaterialize =>
      rw [hmaterialize] at hrun
      exact .of_loaded trivial hrun
  | configure settings _ _ _ => exact hturn.steady rfl ⟨id, id⟩
  | setLogLevel level _ => exact hturn.steady rfl (hserves.setLogLevel level _)
  | setLogFile path _ => exact hturn.steady rfl (hserves.setLogFile path _).2

theorem load (hserves : Serves idle active) (hturn : Workspace.InTurn idle active ⟨kb, r⟩)
    {e : ReasonerError} (h : (r.load kb).1 = .error e) : e.Consistent := by
  have hobserve := hserves.move hturn .observe
  unfold Reasoner.load at h
  simp only at h
  split at h
  next =>
    cases h
    exact nofun
  next hs => exact (hserves.loadFresh hs hobserve).2 e h
  next hs _ => exact (hserves.loadFresh rfl (hserves.move hobserve (.unload hs))).2 e h

theorem prepare (hserves : Serves idle active) (hturn : Workspace.InTurn idle active ⟨kb, r⟩)
    {e : ReasonerError} (h : (r.prepare kb).1 = .error e) : e.Consistent := by
  have hobserve := hserves.move hturn .observe
  have hunload (hs : (r.observe kb).state ≠ .afterClosing) :
      Workspace.InTurn idle active ⟨kb, (r.observe kb).unload⟩ :=
    hserves.move hobserve (.unload hs)
  unfold Reasoner.prepare at h
  simp only at h
  split at h
  next =>
    cases h
    exact nofun
  next => exact hserves.load hobserve h
  next => cases h
  next hs => exact hserves.load (hunload (by simp [hs])) h
  next hs => exact hserves.load (hunload (by simp [hs])) h

-- What is prepared for a run can be run.
theorem launch (hserves : Serves idle active) (hturn : Workspace.InTurn idle active ⟨kb, r⟩)
    (h : (r.prepare kb).1 = .ok ()) : Orderly (r.prepare kb).2.launch.1 := by
  have hprepare : Workspace.InTurn idle active ⟨kb, (r.prepare kb).2⟩ :=
    (Moves.prepare kb r).invariant (I := fun _ w => Workspace.InTurn idle active w) hserves.move []
      hturn
  have hb : active (r.prepare kb).2.backend :=
    hprepare.active (by simp [Reasoner.state_of_prepare_ok h, ReasonerState.Loaded])
  exact (hserves.materialize _ _ hb).1

theorem reasoned (hserves : Serves idle active) (hturn : Workspace.InTurn idle active ⟨kb, r⟩)
    {e : ReasonerError} (h : (r.reason kb).1 = .error e) : e.Consistent := by
  unfold Reasoner.reason at h
  rcases hp : r.prepare kb with ⟨e' | _, r'⟩
  · simp only [hp] at h
    cases h
    exact hserves.prepare hturn (congrArg Prod.fst hp)
  · have hlaunch := hserves.launch hturn (congrArg Prod.fst hp)
    simp only [hp] at h hlaunch
    split at h
    next he =>
      cases h
      exact ReasonerError.consistent_ofBackend (hlaunch _ (congrArg Prod.fst he))
    next => cases h

theorem supervised (hserves : Serves idle active) (hturn : Workspace.InTurn idle active ⟨kb, r⟩)
    {limit : Nat} {pace : Pace} {e : ReasonerError}
    (h : (r.superviseReason kb limit pace).1 = .error e) : e.Consistent := by
  unfold Reasoner.superviseReason at h
  rcases hp : r.prepare kb with ⟨e' | _, r'⟩
  · simp only [hp] at h
    cases h
    exact hserves.prepare hturn (congrArg Prod.fst hp)
  · have hlaunch := hserves.launch hturn (congrArg Prod.fst hp)
    simp only [hp] at h hlaunch
    split at h
    next =>
      cases h
      exact nofun
    next he =>
      cases h
      exact ReasonerError.consistent_ofBackend (hlaunch _ he)
    next => cases h

theorem answerQuery (hserves : Serves idle active) (hturn : Workspace.InTurn idle active ⟨kb, r⟩)
    {query : Atom} {nulls : Bool} {e : ReasonerError}
    (h : r.answerQuery kb query nulls = .error e) : e.Consistent := by
  refine hturn.whenLoaded (fun _ _ => nofun) (fun hb e he => ?_) h
  split at he
  next he' =>
    cases he
    exact Reasoner.consistent_queryError (hserves.query _ _ _ hb _ he')
  next => cases he

-- Only a file that cannot be written makes an export say that the engine is at odds.
theorem exportQueryAnswers (hserves : Serves idle active)
    (hturn : Workspace.InTurn idle active ⟨kb, r⟩) {query : Atom} {nulls : Bool}
    {file : OutputFile} {e : ReasonerError}
    (h : r.exportQueryAnswers kb query nulls file = .error e) :
    e.Consistent ∨ ∃ reason, file.refusal = some reason ∧
      e = .backend (BackendError.io reason).message := by
  refine hturn.whenLoaded (P := fun e => e.Consistent ∨ ∃ reason, file.refusal = some reason ∧
    e = .backend (BackendError.io reason).message) (fun _ _ => .inl nofun) (fun hb e he => ?_) h
  split at he
  next =>
    cases he
    exact .inl nofun
  next =>
    split at he
    next he' =>
      cases he
      rcases hserves.writeCsv _ _ _ _ hb he' with hexpected | ⟨reason, hreason, rfl⟩
      · exact .inl (Reasoner.consistent_queryError hexpected)
      · exact .inr ⟨reason, hreason, rfl⟩
    next => cases he

theorem holds (hserves : Serves idle active) (hturn : Workspace.InTurn idle active ⟨kb, r⟩)
    {notion : CyclicityNotion} {e : ReasonerError} (h : r.holds notion = .error e) :
    e.Consistent := by
  refine hturn.whenLoaded (fun _ _ => nofun) (fun hb e he => ?_) (eq_error_of_map_eq_error h)
  cases hcheck : Backend.checkCyclic notion r.backend with
  | error e' =>
    rw [hcheck] at he
    cases he
    exact ReasonerError.consistent_ofBackend (hserves.checkCyclic notion hb _ hcheck)
  | ok _ =>
    rw [hcheck] at he
    cases he

theorem holdsAny (hserves : Serves idle active) (hturn : Workspace.InTurn idle active ⟨kb, r⟩)
    {notions : List CyclicityNotion} {e : ReasonerError} (h : r.holdsAny notions = .error e) :
    e.Consistent := by
  induction notions with
  | nil => cases h
  | cons notion notions ih =>
    unfold Reasoner.holdsAny at h
    split at h
    next he =>
      cases h
      exact hserves.holds hturn he
    next => cases h
    next => exact ih h

theorem checkForCycles (hserves : Serves idle active) (hturn : Workspace.InTurn idle active ⟨kb, r⟩)
    {e : ReasonerError} (h : r.checkForCycles = .error e) : e.Consistent := by
  unfold Reasoner.checkForCycles at h
  split at h
  next he =>
    cases h
    exact hserves.holdsAny hturn he
  next => cases h
  next => exact hserves.holds hturn (eq_error_of_map_eq_error h)

-- An error of an action, by its kind.
theorem perform (hserves : Serves idle active) {w : Workspace β} (hturn : w.InTurn idle active)
    {a : Action} {message : String} (h : (w.perform a).1 = .error (.backend message)) :
    ∃ atom nulls path reason, a = .exportCsv atom nulls path ∧
      (OutputFile.inEmptyFolder path).refusal = some reason ∧
      message = (BackendError.io reason).message := by
  have hconsistent (hc : (ReasonerError.backend message).Consistent) :
      ∃ atom nulls path reason, a = .exportCsv atom nulls path ∧
        (OutputFile.inEmptyFolder path).refusal = some reason ∧
        message = (BackendError.io reason).message :=
    absurd rfl (hc message)
  cases a with
  | load => exact hconsistent (hserves.load hturn (eq_error_of_map_eq_error h))
  | reason => exact hconsistent (hserves.reasoned hturn (eq_error_of_map_eq_error h))
  | supervise limit pace =>
    exact hconsistent (hserves.supervised hturn (eq_error_of_map_eq_error h))
  | query atom nulls => exact hconsistent (hserves.answerQuery hturn (eq_error_of_map_eq_error h))
  | count atom nulls =>
    have h := eq_error_of_map_eq_error (eq_error_of_map_eq_error h)
    exact hconsistent (hserves.answerQuery hturn h)
  | exportCsv atom nulls path =>
    rcases hserves.exportQueryAnswers hturn (eq_error_of_map_eq_error h) with
      hc | ⟨reason, hreason, hmessage⟩
    · exact hconsistent hc
    · exact ⟨atom, nulls, path, reason, rfl, hreason, ReasonerError.backend.inj hmessage⟩
  | checkNotion notion => exact hconsistent (hserves.holds hturn (eq_error_of_map_eq_error h))
  | checkForCycles => exact hconsistent (hserves.checkForCycles hturn (eq_error_of_map_eq_error h))
  | reset =>
    have h := eq_error_of_map_eq_error h
    unfold Reasoner.reset at h
    simp only at h
    split at h <;> cases h
  | setTimeout seconds =>
    have h := eq_error_of_map_eq_error h
    unfold Reasoner.setTimeout at h
    split at h <;> cases h
  | setHeadStrategy strategy =>
    have h := eq_error_of_map_eq_error h
    unfold Reasoner.setHeadStrategy at h
    simp only at h
    split at h <;> cases h
  | setLogLevel level =>
    have h := eq_error_of_map_eq_error h
    unfold Reasoner.setLogLevel at h
    split at h <;> cases h
  | setLogFile path =>
    have h := eq_error_of_map_eq_error h
    have horderly := (hserves.setLogFile path w.reasoner.backend).1
    unfold Reasoner.setLogFile at h
    split at h
    next => cases h
    next =>
      split at h
      next e b hb =>
        rw [hb] at horderly
        have hc := ReasonerError.consistent_ofBackend (horderly e rfl)
        rw [Except.error.inj h] at hc
        exact hconsistent hc
      next => cases h
  | _ => cases h

end Serves

theorem Opened.inTurn {β : Type} [Backend β] {idle active : β → Prop}
    (hserves : Serves idle active) {b : β} {r : Reasoner β} (h : Opened b r) (hb : idle b)
    (kb : KnowledgeBase) : Workspace.InTurn idle active ⟨kb, r⟩ := by
  refine .of_not_loaded (by simp [h.state_eq, ReasonerState.Loaded]) ?_
  cases h with
  | new => exact hb
  | @configured settings _ h =>
    unfold Reasoner.configured at h
    split at h
    · cases h
    · obtain rfl := Except.ok.inj h
      exact (hserves.setLogLevel settings.logLevel b).1 hb

namespace Serves

variable {β : Type} [Backend β] {idle active : β → Prop} {w : Workspace β}

-- What is done with an engine that serves, is done in turn all along.
theorem inTurn_of_run (hserves : Serves idle active) {drift : β → β → Prop}
    (hdrift : ∀ b b', drift b b' → Steady idle active b b') {start : Workspace β}
    {steps : List (Workspace β × Action)} (hturn : start.InTurn idle active)
    (hrun : Run drift start steps w) : w.InTurn idle active :=
  (hrun.mono hdrift).moves.invariant (I := fun _ w => Workspace.InTurn idle active w) hserves.move
    [] hturn

theorem inTurn_run (hserves : Serves idle active) (hturn : w.InTurn idle active)
    (actions : List Action) : (w.run actions).2.InTurn idle active := by
  induction actions generalizing w with
  | nil => exact hturn
  | cons a actions ih =>
    have hmoves : Moves (Steady idle active) _ w _ := .perform w a
    exact ih
      (hmoves.invariant (I := fun _ w => Workspace.InTurn idle active w) hserves.move [] hturn)

end Serves

-- A recorder is active just as long as the reasoner over it has something loaded. Whatever it
-- answers and whatever is done, no action reports an inconsistent state, but for an export into a
-- file that cannot be written, and all facts have a predicate to be loaded into. What is done next
-- starts no recorder that is active and gives nothing to one that is not.
theorem consistent_of_run {b : Recorder} {r : Reasoner Recorder} {kb : KnowledgeBase}
    {steps : List (Workspace Recorder × Action)} {w : Workspace Recorder}
    (hb : b.active = false) (hopened : Opened b r)
    (hrun : Run (fun b b' => b'.active = b.active) ⟨kb, r⟩ steps w) :
    (w.reasoner.backend.active = true ↔ w.reasoner.state.Loaded) ∧
    (∀ a message, (w.perform a).1 = .error (.backend message) →
      ∃ atom nulls path reason, a = .exportCsv atom nulls path ∧
        (OutputFile.inEmptyFolder path).refusal = some reason ∧
        message = (BackendError.io reason).message) ∧
    (∀ atom nulls file message,
      w.reasoner.exportQueryAnswers w.kb atom nulls file = .error (.backend message) →
        ∃ reason, file.refusal = some reason ∧ message = (BackendError.io reason).message) ∧
    (∀ actions, ((w.withEngine (Watched.watch w.reasoner.backend)).run
      actions).2.reasoner.backend.amiss = false) ∧
    ∀ p fs, (p, fs) ∈ (Classification.build w.kb.statements).facts →
      ∃ target, (Classification.build w.kb.statements).factTarget p = some target := by
  have hsteady (b b' : Recorder) (h : b'.active = b.active) :
      Steady (fun r : Recorder => r.active = false) (fun r => r.active = true) b b' :=
    ⟨h.trans, h.trans⟩
  have hturn := Recorder.serves.inTurn_of_run hsteady (hopened.inTurn Recorder.serves hb kb) hrun
  have hwatched : (w.withEngine (Watched.watch w.reasoner.backend)).InTurn (Watched.Sound false)
      (Watched.Sound true) :=
    ⟨fun hn => ⟨hturn.idle hn, rfl⟩, fun hl => ⟨hturn.active hl, rfl⟩⟩
  refine ⟨⟨fun hactive => ?_, hturn.active⟩, fun a message h => Recorder.serves.perform hturn h,
    fun atom nulls file message h => ?_, fun actions => ?_,
    fun p fs => Classification.exists_factTarget_of_facts⟩
  · by_contra hn
    have hidle : w.reasoner.backend.active = false := hturn.idle hn
    simp [hidle] at hactive
  · rcases Recorder.serves.exportQueryAnswers hturn h with hc | ⟨reason, hreason, hmessage⟩
    · exact absurd rfl (hc message)
    · exact ⟨reason, hreason, ReasonerError.backend.inj hmessage⟩
  · have h := Watched.serves.inTurn_run hwatched actions
    by_cases hl : ((w.withEngine (Watched.watch w.reasoner.backend)).run
        actions).2.reasoner.state.Loaded
    · exact (h.active hl).2
    · exact (h.idle hl).2

-- After a run on a fact the recorder is active, looking for cycles finds nothing at odds, and
-- neither another run nor a reset comes out of turn.
theorem consistent_withFactReasoned :
    Workspace.withFactReasoned.reasoner.backend.active = true ∧
    (∀ message, (Workspace.withFactReasoned.perform .checkForCycles).1 ≠
      .error (.backend message)) ∧
    ((Workspace.withFactReasoned.withEngine (Watched.watch
      Workspace.withFactReasoned.reasoner.backend)).run
        [.reason, .reset]).2.reasoner.backend.amiss = false ∧
    ∃ target, (Classification.build Workspace.withFactReasoned.kb.statements).factTarget ⟨"r", 1⟩ =
      some target := by
  have hrun : Run (fun b b' => b'.active = b.active) Workspace.withFact Workspace.withFactSteps
      Workspace.withFactReasoned :=
    .action .reason (.action .load .start)
  obtain ⟨hactive, hperform, -, hwatched, htarget⟩ := consistent_of_run rfl .new hrun
  have hfacts : (⟨"r", 1⟩, [⟨⟨"r", [.constant "c"]⟩, rfl⟩]) ∈
      (Classification.build Workspace.withFactReasoned.kb.statements).facts :=
    ((Classification.closedForm_build _).mem_facts _ _).mpr ⟨rfl, List.cons_ne_nil _ _⟩
  refine ⟨hactive.mpr trivial, fun message h => ?_, hwatched _, htarget _ _ hfacts⟩
  obtain ⟨_, _, _, _, ha, -⟩ := hperform _ message h
  cases ha

-- A file that cannot be written is reported as if the engine were at odds.
example :
    Workspace.withFactReasoned.reasoner.exportQueryAnswers {} ⟨"r", [.universal "X"]⟩ true
      ⟨.ofText "r.csv", some "disk full"⟩ = .error (.backend "backend I/O error: disk full") := by
  decide +kernel

end Rulebook
