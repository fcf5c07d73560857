import Rulebook.Proofs.Reasoner.Notification

namespace Rulebook

-- Errors of an engine, or of what it is given. They do not say that something came at the wrong
-- time or took too long.
def ReasonerError.OfEngine : ReasonerError → Prop
  | arityMismatch _ _ _ _ | configuration _ | materialization _ | unknownQueryPredicate _
  | backend _ => True
  | _ => False

theorem ReasonerError.ofEngine_ofBackend (e : BackendError) : (ofBackend e).OfEngine := by
  cases e <;> trivial

namespace Reasoner

section Loading

variable {β : Type} [Backend β] {kb : KnowledgeBase} {r : Reasoner β} {e : ReasonerError}

theorem ofEngine_of_checkArities {b : β} {sources : List (Predicate × DataSource)}
    (h : checkArities b sources = .error e) : e.OfEngine := by
  induction sources with
  | nil => cases h
  | cons source sources ih =>
    unfold checkArities at h
    split at h
    · cases h
      exact ReasonerError.ofEngine_ofBackend _
    · exact ih h
    · split at h
      · exact ih h
      · cases h
        trivial

theorem ofEngine_of_addFacts {c : Classification} {facts : List (Predicate × List Fact)} {b b' : β}
    (h : addFacts c facts b = (.error e, b')) : e.OfEngine := by
  induction facts generalizing b with
  | nil => cases h
  | cons f facts ih =>
    unfold addFacts at h
    split at h
    · cases h
      trivial
    · split at h
      · cases h
        exact ReasonerError.ofEngine_ofBackend _
      · exact ih h

theorem ofEngine_of_populate {settings : ReasonerSettings} {c : Classification} {b b' : β}
    (h : populate settings c b = (.error e, b')) : e.OfEngine := by
  unfold populate at h
  simp only at h
  split at h
  next harities =>
    cases h
    exact ofEngine_of_checkArities harities
  next =>
    split at h
    next hfacts =>
      cases h
      exact ofEngine_of_addFacts hfacts
    next =>
      split at h
      next =>
        cases h
        exact ReasonerError.ofEngine_ofBackend _
      next => cases h

theorem ofEngine_of_loadFresh (h : (r.loadFresh kb).1 = .error e) : e.OfEngine := by
  have hl := r.loading_loadFresh kb
  generalize r.loadFresh kb = result at h hl
  cases hl with
  | loaded _ _ _ => cases h
  | unusableSource _ =>
    cases h
    trivial
  | notActivated _ _ =>
    cases h
    exact ReasonerError.ofEngine_ofBackend _
  | notPopulated _ _ hpopulate =>
    cases h
    exact ofEngine_of_populate hpopulate

-- A reasoner that is not closed can only fail to load because of the engine.
theorem ofEngine_of_load (hs : r.state ≠ .afterClosing) (h : (r.load kb).1 = .error e) :
    e.OfEngine := by
  have hs' : (r.observe kb).state ≠ .afterClosing := by simpa using hs
  unfold load at h
  simp only at h
  split at h
  next hclosed => exact absurd hclosed hs'
  next => exact ofEngine_of_loadFresh h
  next => exact ofEngine_of_loadFresh h

theorem ofEngine_of_prepare (hs : r.state ≠ .afterClosing) (h : (r.prepare kb).1 = .error e) :
    e.OfEngine := by
  have hs' : (r.observe kb).state ≠ .afterClosing := by simpa using hs
  unfold prepare at h
  simp only at h
  split at h
  next hclosed => exact absurd hclosed hs'
  next => exact ofEngine_of_load hs' h
  next => cases h
  next => exact ofEngine_of_load (by simp [unload]) h
  next => exact ofEngine_of_load (by simp [unload]) h

end Loading

-- The state that is shown is the one that is known once every change is noted.
theorem state_observe {β : Type} (kb : KnowledgeBase) (r : Reasoner β) :
    (r.observe kb).state = r.shownState kb := by
  rw [← shownState_observe]
  exact (shownState_eq_state_iff.mpr (observe_observe kb r)).symm

@[simp] theorem shownState_eq_afterClosing {β : Type} {kb : KnowledgeBase} {r : Reasoner β} :
    r.shownState kb = .afterClosing ↔ r.state = .afterClosing := by
  rw [← state_observe, observe_state_eq_afterClosing]

@[simp] theorem shownState_eq_beforeLoading {β : Type} {kb : KnowledgeBase} {r : Reasoner β} :
    r.shownState kb = .beforeLoading ↔ r.state = .beforeLoading := by
  rw [← state_observe, observe_state_eq_beforeLoading]

end Reasoner

-- The states in which an action is refused.
def Action.RefusedIn (s : ReasonerState) : Action → Prop
  | load | reason | supervise _ _ | reset | setLogLevel _ | setLogFile _ => s = .afterClosing
  | query _ _ | count _ _ | exportCsv _ _ _ | checkNotion _ | checkForCycles =>
    s = .beforeLoading ∨ s = .afterClosing
  | setHeadStrategy _ => s ≠ .beforeLoading
  | _ => False

-- What is said then.
def Action.complaint (s : ReasonerState) : Action → String
  | load => "Loading is not allowed after closing."
  | reason | supervise _ _ => "Reasoning is not allowed after closing."
  | reset => "Resetting is not allowed after closing."
  | setLogLevel _ => "Setting log level is not allowed after closing."
  | setLogFile _ => "Setting log file is not allowed after closing."
  | query _ _ | count _ _ | exportCsv _ _ _ =>
    if s = .beforeLoading then "Querying is not allowed before the reasoner is loaded."
    else "Querying is not allowed after closing."
  | checkNotion _ | checkForCycles =>
    if s = .beforeLoading then "Checking rule acyclicity is not allowed before loading."
    else "Checking rule acyclicity is not allowed after closing."
  | setHeadStrategy _ =>
    "Rules cannot be rewritten after the reasoner has been loaded. " ++
      "Call reset() to undo loading and reasoning."
  | _ => ""

namespace Reasoner

-- Whether something is loaded is asked before anything else.
theorem whenLoaded_of_not_loaded {α β : Type} {r : Reasoner β} {beforeLoading afterClosing : String}
    {act : Except ReasonerError α} (h : ¬r.state.Loaded) :
    r.whenLoaded beforeLoading afterClosing act =
      .error (.state r.state
        (if r.state = .beforeLoading then beforeLoading else afterClosing)) := by
  unfold whenLoaded refusal
  cases hs : r.state with
  | beforeLoading => rfl
  | afterClosing => rfl
  | _ => simp [hs, ReasonerState.Loaded] at h

theorem whenLoaded_of_loaded {α β : Type} {r : Reasoner β} {beforeLoading afterClosing : String}
    {act : Except ReasonerError α} (h : r.state.Loaded) :
    r.whenLoaded beforeLoading afterClosing act = act := by
  unfold whenLoaded
  cases hs : r.state with
  | beforeLoading => simp [hs, ReasonerState.Loaded] at h
  | afterClosing => simp [hs, ReasonerState.Loaded] at h
  | _ => rfl

section Closed

variable {β : Type} {kb : KnowledgeBase} {r : Reasoner β}

theorem observe_of_closed (kb : KnowledgeBase) (hs : r.state = .afterClosing) :
    r.observe kb = r :=
  observe_of_not_current (by simp [hs, ReasonerState.Current])

variable [Backend β]

theorem load_of_closed (kb : KnowledgeBase) (hs : r.state = .afterClosing) :
    r.load kb = (.error (.state .afterClosing (Action.load.complaint .afterClosing)), r) := by
  simp only [load, observe_of_closed kb hs, hs, refusal]
  rfl

theorem prepare_of_closed (kb : KnowledgeBase) (hs : r.state = .afterClosing) :
    r.prepare kb = (.error (.state .afterClosing (Action.reason.complaint .afterClosing)), r) := by
  simp only [prepare, observe_of_closed kb hs, hs, refusal]
  rfl

theorem reset_of_closed (kb : KnowledgeBase) (hs : r.state = .afterClosing) :
    r.reset kb = (.error (.state .afterClosing (Action.reset.complaint .afterClosing)), r) := by
  simp only [reset, observe_of_closed kb hs, hs, refusal]
  rfl

end Closed

end Reasoner

namespace Workspace

variable {β : Type}

theorem noted_of_not_current {w : Workspace β} (h : ¬w.reasoner.state.Current) : w.noted = w := by
  rw [noted, Reasoner.observe_of_not_current h]

variable [Backend β]

-- A refused action is answered with the state that is shown. All that it does is to take note of a
-- change.
theorem perform_of_refused {w : Workspace β} {a : Action}
    (h : a.RefusedIn (w.reasoner.shownState w.kb)) :
    w.perform a = (.error (.state (w.reasoner.shownState w.kb)
      (a.complaint (w.reasoner.shownState w.kb))), w.noted) := by
  obtain ⟨kb, r⟩ := w
  have hclosed (hs : r.shownState kb = .afterClosing) :
      r.state = .afterClosing ∧ noted ⟨kb, r⟩ = ⟨kb, r⟩ := by
    have hstate : r.state = .afterClosing := by simpa using hs
    exact ⟨hstate, noted_of_not_current (by simp [hstate, ReasonerState.Current])⟩
  have hunloaded (hs : r.shownState kb = .beforeLoading ∨ r.shownState kb = .afterClosing) :
      ¬r.state.Loaded ∧ r.shownState kb = r.state ∧ noted ⟨kb, r⟩ = ⟨kb, r⟩ := by
    have hstate : r.state = .beforeLoading ∨ r.state = .afterClosing := by simpa using hs
    have hl : ¬r.state.Loaded := by rcases hstate with hs | hs <;> simp [hs, ReasonerState.Loaded]
    have hn : noted ⟨kb, r⟩ = ⟨kb, r⟩ := noted_of_not_current fun hc => hl hc.loaded
    exact ⟨hl, noted_eq_iff.mp hn, hn⟩
  cases a with
  | load =>
    obtain ⟨hs, hn⟩ := hclosed h
    simp only [perform, Reasoner.load_of_closed kb hs, hn, show r.shownState kb = _ from h]
    rfl
  | reason =>
    obtain ⟨hs, hn⟩ := hclosed h
    simp only [perform, Reasoner.reason, Reasoner.prepare_of_closed kb hs, hn,
      show r.shownState kb = _ from h]
    rfl
  | supervise limit pace =>
    obtain ⟨hs, hn⟩ := hclosed h
    simp only [perform, Reasoner.superviseReason, Reasoner.prepare_of_closed kb hs, hn,
      show r.shownState kb = _ from h]
    rfl
  | reset =>
    obtain ⟨hs, hn⟩ := hclosed h
    simp only [perform, Reasoner.reset_of_closed kb hs, hn, show r.shownState kb = _ from h]
    rfl
  | setLogLevel level =>
    obtain ⟨hs, hn⟩ := hclosed h
    simp only [perform, Reasoner.setLogLevel, hs, hn, show r.shownState kb = _ from h,
      Reasoner.refusal]
    rfl
  | setLogFile path =>
    obtain ⟨hs, hn⟩ := hclosed h
    simp only [perform, Reasoner.setLogFile, hs, hn, show r.shownState kb = _ from h,
      Reasoner.refusal]
    rfl
  | query atom nulls =>
    obtain ⟨hl, hs, hn⟩ := hunloaded h
    simp only [perform, Reasoner.answerQuery, Reasoner.whenQueryable,
      Reasoner.whenLoaded_of_not_loaded hl, hn, hs]
    rfl
  | count atom nulls =>
    obtain ⟨hl, hs, hn⟩ := hunloaded h
    simp only [perform, Reasoner.countQueryAnswers, Reasoner.answerQuery, Reasoner.whenQueryable,
      Reasoner.whenLoaded_of_not_loaded hl, hn, hs]
    rfl
  | exportCsv atom nulls path =>
    obtain ⟨hl, hs, hn⟩ := hunloaded h
    simp only [perform, Reasoner.exportQueryAnswers, Reasoner.whenQueryable,
      Reasoner.whenLoaded_of_not_loaded hl, hn, hs]
    rfl
  | checkNotion notion =>
    obtain ⟨hl, hs, hn⟩ := hunloaded h
    simp only [perform, Reasoner.holds, Reasoner.checkCyclic,
      Reasoner.whenLoaded_of_not_loaded hl, hn, hs]
    rfl
  | checkForCycles =>
    obtain ⟨hl, hs, hn⟩ := hunloaded h
    simp only [perform, Reasoner.checkForCycles, Reasoner.holdsAny, Reasoner.holds,
      Reasoner.checkCyclic, Reasoner.whenLoaded_of_not_loaded hl, hn, hs]
    rfl
  | setHeadStrategy strategy =>
    have hs : (r.observe kb).state ≠ .beforeLoading := by simpa [Action.RefusedIn] using h
    simp only [perform, Reasoner.setHeadStrategy, ← Reasoner.state_observe]
    rfl
  | _ => exact False.elim h

end Workspace

namespace Reasoner

variable {β : Type} [Backend β] {kb : KnowledgeBase} {r : Reasoner β} {e : ReasonerError}

theorem ofEngine_of_reason (hs : r.state ≠ .afterClosing) (h : (r.reason kb).1 = .error e) :
    e.OfEngine := by
  unfold reason at h
  split at h
  next hprepare =>
    cases h
    exact ofEngine_of_prepare hs (by rw [hprepare])
  next =>
    split at h
    next =>
      cases h
      exact ReasonerError.ofEngine_ofBackend _
    next => cases h

theorem ofEngine_of_superviseReason {limit : Nat} {pace : Pace} (hs : r.state ≠ .afterClosing)
    (h : (r.superviseReason kb limit pace).1 = .error e) :
    e.OfEngine ∨ e = .supervision limit := by
  unfold superviseReason at h
  split at h
  next hprepare =>
    cases h
    exact .inl (ofEngine_of_prepare hs (by rw [hprepare]))
  next =>
    simp only at h
    split at h
    next =>
      cases h
      exact .inr rfl
    next =>
      cases h
      exact .inl (ReasonerError.ofEngine_ofBackend _)
    next => cases h

theorem ofEngine_of_answerQuery {query : Atom} {nulls : Bool} (hl : r.state.Loaded)
    (h : r.answerQuery kb query nulls = .error e) : e.OfEngine := by
  unfold answerQuery whenQueryable at h
  rw [whenLoaded_of_loaded hl] at h
  split at h
  next e' _ =>
    cases h
    cases e' <;> trivial
  next => cases h

theorem ofEngine_of_exportQueryAnswers {query : Atom} {nulls : Bool} {file : OutputFile}
    (hl : r.state.Loaded) (h : r.exportQueryAnswers kb query nulls file = .error e) :
    e.OfEngine ∨ e = .invalidCsvPath file.path.shown := by
  unfold exportQueryAnswers whenQueryable at h
  rw [whenLoaded_of_loaded hl] at h
  split at h
  · cases h
    exact .inr rfl
  · split at h
    next e' _ =>
      cases h
      exact .inl (by cases e' <;> trivial)
    next => cases h

theorem ofEngine_of_holds {notion : CyclicityNotion} (hl : r.state.Loaded)
    (h : r.holds notion = .error e) : e.OfEngine := by
  unfold holds checkCyclic at h
  rw [whenLoaded_of_loaded hl] at h
  cases hc : Backend.checkCyclic notion r.backend with
  | error e' =>
    rw [hc] at h
    cases h
    exact ReasonerError.ofEngine_ofBackend e'
  | ok _ =>
    rw [hc] at h
    cases h

theorem ofEngine_of_holdsAny {notions : List CyclicityNotion} (hl : r.state.Loaded)
    (h : r.holdsAny notions = .error e) : e.OfEngine := by
  induction notions with
  | nil => cases h
  | cons notion notions ih =>
    unfold holdsAny at h
    split at h
    next hn =>
      cases h
      exact ofEngine_of_holds hl hn
    next => cases h
    next => exact ih h

theorem ofEngine_of_checkForCycles (hl : r.state.Loaded) (h : r.checkForCycles = .error e) :
    e.OfEngine := by
  unfold checkForCycles at h
  split at h
  next hn =>
    cases h
    exact ofEngine_of_holdsAny hl hn
  next => cases h
  next =>
    cases hc : r.holds .mfc with
    | error e' =>
      rw [hc] at h
      cases h
      exact ofEngine_of_holds hl hc
    | ok _ =>
      rw [hc] at h
      cases h

theorem ofEngine_of_setLogFile {path : Path} (hs : r.state ≠ .afterClosing)
    (h : (r.setLogFile path).1 = .error e) : e.OfEngine := by
  unfold setLogFile at h
  split at h
  next hclosed => exact absurd hclosed hs
  next =>
    split at h
    next =>
      cases h
      exact ReasonerError.ofEngine_ofBackend _
    next => cases h

theorem reset_of_open (kb : KnowledgeBase) (hs : r.state ≠ .afterClosing) :
    (r.reset kb).1 = .ok () := by
  have hs' : (r.observe kb).state ≠ .afterClosing := by simpa using hs
  simp only [reset]

theorem setLogLevel_of_open (level : LogLevel) (hs : r.state ≠ .afterClosing) :
    (r.setLogLevel level).1 = .ok () := by
  unfold setLogLevel
  split
  next hclosed => exact absurd hclosed hs
  next => rfl

end Reasoner

theorem eq_error_of_map_eq_error {ε α γ : Type} {x : Except ε α} {f : α → γ} {e : ε}
    (h : x.map f = .error e) : x = .error e := by
  cases x with
  | error e' => exact congrArg Except.error (Except.error.inj h)
  | ok a => cases h

namespace Workspace

variable {β : Type} [Backend β] {w : Workspace β} {a : Action}

-- An action that is not refused may fail, but not for the state of the reasoner.
theorem not_refusal_of_perform (h : ¬a.RefusedIn (w.reasoner.shownState w.kb))
    (s : ReasonerState) (message : String) : (w.perform a).1 ≠ .error (.state s message) := by
  intro he
  have hopen (hs : w.reasoner.shownState w.kb ≠ .afterClosing) :
      w.reasoner.state ≠ .afterClosing := by simpa using hs
  have hloaded (hs : ¬(w.reasoner.shownState w.kb = .beforeLoading ∨
      w.reasoner.shownState w.kb = .afterClosing)) : w.reasoner.state.Loaded := by
    cases hstate : w.reasoner.state with
    | beforeLoading => simp [hstate] at hs
    | afterClosing => simp [hstate] at hs
    | _ => trivial
  cases a with
  | load => exact Reasoner.ofEngine_of_load (hopen h) (eq_error_of_map_eq_error he)
  | reason => exact Reasoner.ofEngine_of_reason (hopen h) (eq_error_of_map_eq_error he)
  | supervise limit pace =>
    rcases Reasoner.ofEngine_of_superviseReason (hopen h) (eq_error_of_map_eq_error he) with h | h
    · exact h
    · cases h
  | reset =>
    have hok := Reasoner.reset_of_open w.kb (hopen h)
    simp [perform, act, hok, Except.map] at he
  | setLogLevel level =>
    have hok := Reasoner.setLogLevel_of_open level (hopen h)
    simp [perform, act, hok, Except.map] at he
  | setLogFile path => exact Reasoner.ofEngine_of_setLogFile (hopen h) (eq_error_of_map_eq_error he)
  | query atom nulls =>
    exact Reasoner.ofEngine_of_answerQuery (hloaded h) (eq_error_of_map_eq_error he)
  | count atom nulls =>
    exact Reasoner.ofEngine_of_answerQuery (hloaded h)
      (eq_error_of_map_eq_error (eq_error_of_map_eq_error he))
  | exportCsv atom nulls path =>
    rcases Reasoner.ofEngine_of_exportQueryAnswers (hloaded h) (eq_error_of_map_eq_error he) with
      h | h
    · exact h
    · cases h
  | checkNotion notion => exact Reasoner.ofEngine_of_holds (hloaded h) (eq_error_of_map_eq_error he)
  | checkForCycles =>
    exact Reasoner.ofEngine_of_checkForCycles (hloaded h) (eq_error_of_map_eq_error he)
  | setHeadStrategy strategy =>
    have hs : (w.reasoner.observe w.kb).state = .beforeLoading := by
      simpa [Action.RefusedIn] using h
    simp [perform, act, Reasoner.setHeadStrategy, hs, Except.map] at he
  | setTimeout seconds =>
    have he := eq_error_of_map_eq_error he
    unfold Reasoner.setTimeout at he
    split at he <;> cases he
  | _ => cases he

end Workspace

section Replacement

variable {β γ : Type}

-- A reasoner with another engine in the place of its own.
def Reasoner.withEngine (b : γ) (r : Reasoner β) : Reasoner γ where
  backend := b
  index := r.index
  state := r.state
  materialisation := r.materialisation
  settings := r.settings
  loadedVersion := r.loadedVersion
  completed := r.completed

def Workspace.withEngine (b : γ) (w : Workspace β) : Workspace γ :=
  ⟨w.kb, w.reasoner.withEngine b⟩

theorem Workspace.noted_withEngine (b : γ) (w : Workspace β) :
    (w.withEngine b).noted = w.noted.withEngine b := by
  have hmark : (w.reasoner.withEngine b).markChanged = w.reasoner.markChanged.withEngine b := by
    unfold Reasoner.markChanged
    cases hs : w.reasoner.state <;> simp [Reasoner.withEngine, hs]
  have hadvanced : (w.reasoner.withEngine b).advanced w.kb = w.reasoner.advanced w.kb := rfl
  simp only [noted, withEngine, Reasoner.observe, hadvanced, hmark]
  split <;> rfl

-- No call is made to the engine: any other would do.
theorem Workspace.perform_withEngine_of_refused [Backend β] [Backend γ] {w : Workspace β}
    {a : Action} (h : a.RefusedIn (w.reasoner.shownState w.kb)) (b : γ) :
    (w.withEngine b).perform a = ((w.perform a).1, (w.perform a).2.withEngine b) := by
  have hshown : (w.withEngine b).reasoner.shownState (w.withEngine b).kb =
      w.reasoner.shownState w.kb := rfl
  rw [perform_of_refused (hshown ▸ h), perform_of_refused h, noted_withEngine, hshown]

end Replacement

namespace Workspace

variable {β : Type}

-- The reasoner shows what it has shown, has loaded what it had loaded, and its engine is as it was.
structure Unmoved (w w' : Workspace β) : Prop where
  state : w'.reasoner.shownState w'.kb = w.reasoner.shownState w.kb
  materialisation : w'.reasoner.shownMaterialisation w'.kb = w.reasoner.shownMaterialisation w.kb
  index : w'.reasoner.index = w.reasoner.index
  backend : w'.reasoner.backend = w.reasoner.backend

-- Nothing at all has changed that can be seen.
structure Untouched (w w' : Workspace β) : Prop extends Unmoved w w' where
  completed : w'.reasoner.completed = w.reasoner.completed
  settings : w'.reasoner.settings = w.reasoner.settings
  kb : w'.kb = w.kb

theorem untouched_noted (w : Workspace β) : Untouched w w.noted where
  state := w.reasoner.shownState_observe w.kb
  materialisation := w.reasoner.shownMaterialisation_observe w.kb
  index := w.reasoner.observe_index w.kb
  backend := w.reasoner.observe_backend w.kb
  completed := w.reasoner.observe_completed w.kb
  settings := w.reasoner.observe_settings w.kb
  kb := rfl

theorem Unmoved.trans {w w' w'' : Workspace β} (h : Unmoved w w') (h' : Unmoved w' w'') :
    Unmoved w w'' where
  state := h'.state.trans h.state
  materialisation := h'.materialisation.trans h.materialisation
  index := h'.index.trans h.index
  backend := h'.backend.trans h.backend

variable [Backend β] {w : Workspace β}

-- What is still possible with a closed reasoner leaves it closed.
theorem unmoved_of_closed (hs : w.reasoner.state = .afterClosing) (a : Action) :
    Unmoved w (w.perform a).2 := by
  have hshown : w.reasoner.shownState w.kb = .afterClosing := by simpa using hs
  by_cases hrefused : a.RefusedIn (w.reasoner.shownState w.kb)
  · rw [perform_of_refused hrefused]
    exact w.untouched_noted.toUnmoved
  · have hkb (kb : KnowledgeBase) : Unmoved w { w with kb := kb } := by
      refine ⟨?_, ?_, rfl, rfl⟩ <;>
        simp [Reasoner.shownMaterialisation, Reasoner.shownState, hs]
    have hsettings (settings : ReasonerSettings) :
        Unmoved w { w with reasoner := { w.reasoner with settings := settings } } :=
      ⟨rfl, rfl, rfl, rfl⟩
    rw [hshown] at hrefused
    cases a with
    | close =>
      have hclose : w.reasoner.close = w.reasoner := by simp [Reasoner.close, hs]
      simp only [perform, hclose]
      exact ⟨rfl, rfl, rfl, rfl⟩
    | notify =>
      have hmark : w.reasoner.markChanged = w.reasoner :=
        Reasoner.markChanged_of_not_current (by simp [hs, ReasonerState.Current])
      simp only [perform, hmark]
      exact ⟨rfl, rfl, rfl, rfl⟩
    | add s => exact hkb _
    | addMany ss => exact hkb _
    | remove s => exact hkb _
    | setAlgorithm algorithm => exact hsettings _
    | setTimeout seconds =>
      simp only [perform, act, Reasoner.setTimeout]
      split
      · exact ⟨rfl, rfl, rfl, rfl⟩
      · exact hsettings _
    | query | count | exportCsv | checkNotion | checkForCycles => exact (hrefused (.inr rfl)).elim
    | setHeadStrategy => exact (hrefused (by simp [Action.RefusedIn])).elim
    | load | reason | supervise | reset | setLogLevel | setLogFile => exact (hrefused rfl).elim

theorem unmoved_of_closed_run (hs : w.reasoner.state = .afterClosing) (actions : List Action) :
    Unmoved w (w.run actions).2 := by
  induction actions generalizing w with
  | nil => exact ⟨rfl, rfl, rfl, rfl⟩
  | cons a actions ih =>
    have hstep := unmoved_of_closed hs a
    have hs' : (w.perform a).2.reasoner.state = .afterClosing := by
      have hstate := hstep.state
      simp only [Reasoner.shownState_eq_afterClosing.mpr hs] at hstate
      simpa using hstate
    exact hstep.trans (ih hs')

end Workspace

open Workspace

-- An action is refused in the states that the table gives, with the state that is shown, and in no
-- others. Nothing changes then, and the engine is not called. Whatever is done with a closed
-- reasoner, it shows the same state and the same of its result, and closing it again does nothing.
theorem refusal_iff {β : Type} [Backend β] (w : Workspace β) (a : Action) :
    (∀ s message, (w.perform a).1 = .error (.state s message) ↔
      a.RefusedIn (w.reasoner.shownState w.kb) ∧ s = w.reasoner.shownState w.kb ∧
        message = a.complaint s) ∧
    (a.RefusedIn (w.reasoner.shownState w.kb) →
      Untouched w (w.perform a).2 ∧
      ∀ {γ : Type} [Backend γ] (b : γ),
        (w.withEngine b).perform a = ((w.perform a).1, (w.perform a).2.withEngine b)) ∧
    (w.reasoner.shownState w.kb = .afterClosing →
      w.perform .close = (.ok .done, w) ∧ ∀ actions, Unmoved w (w.run actions).2) := by
  refine ⟨fun s message => ⟨fun h => ?_, ?_⟩, fun h => ⟨?_, ?_⟩, fun h => ?_⟩
  · have hrefused : a.RefusedIn (w.reasoner.shownState w.kb) :=
      Classical.not_not.mp fun hn => not_refusal_of_perform hn s message h
    rw [perform_of_refused hrefused] at h
    obtain ⟨rfl, rfl⟩ := ReasonerError.state.inj (Except.error.inj h)
    exact ⟨hrefused, rfl, rfl⟩
  · rintro ⟨hrefused, rfl, rfl⟩
    rw [perform_of_refused hrefused]
  · rw [perform_of_refused h]
    exact w.untouched_noted
  · exact perform_withEngine_of_refused h
  · have hs : w.reasoner.state = .afterClosing := by simpa using h
    refine ⟨?_, unmoved_of_closed_run hs⟩
    simp [perform, Reasoner.close, hs]

-- A reasoner that is closed after a run.
def Workspace.withFactClosed : Workspace Recorder :=
  (withFactReasoned.perform .close).2

theorem refusal_withFactClosed :
    (withFactClosed.perform .load).1 =
      .error (.state .afterClosing "Loading is not allowed after closing.") ∧
    Untouched withFactClosed (withFactClosed.perform .load).2 ∧
    Unmoved withFactClosed (withFactClosed.run [.notify, .setTimeout (some 1), .reason]).2 := by
  have hs : withFactClosed.reasoner.shownState withFactClosed.kb = .afterClosing := rfl
  obtain ⟨htable, hrefused, hclosed⟩ := refusal_iff withFactClosed .load
  exact ⟨(htable _ _).mpr ⟨hs, hs.symm, rfl⟩, (hrefused hs).1, (hclosed hs).2 _⟩

end Rulebook
