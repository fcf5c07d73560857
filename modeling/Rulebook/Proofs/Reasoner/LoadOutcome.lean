import Rulebook.Proofs.Classification.Configuration
import Rulebook.Proofs.Reasoner.Discipline
import Rulebook.Proofs.Reasoner.Independence
import Rulebook.Reasoner.Faulty

namespace Rulebook

-- The rows that an engine has for a predicate fit it, if it has any.
def FixedAnswers.Fits (answers : FixedAnswers) (p : Predicate) : Prop :=
  ∀ actual, answers.sourceArities.lookup p.engineName = some actual → actual = p.arity

-- How a load ends, by the sources in order. That one of them cannot be used is found out before any
-- of their rows are looked at.
inductive SourceVerdict (answers : FixedAnswers) (sources : List (Predicate × DataSource)) :
    Except ReasonerError Unit → Prop
  | unusable {before after : List (Predicate × DataSource)} {p : Predicate} {s : DataSource}
      {e : SourceError} (hsources : sources = before ++ (p, s) :: after)
      (hbefore : ∀ x ∈ before, x.2.Usable) (hs : ¬s.Usable) (he : s.parameters = .error e) :
      SourceVerdict answers sources (.error (.configuration e.message))
  | misfit {before after : List (Predicate × DataSource)} {p : Predicate} {s : DataSource}
      {actual : Nat} (husable : ∀ x ∈ sources, x.2.Usable)
      (hsources : sources = before ++ (p, s) :: after) (hbefore : ∀ x ∈ before, answers.Fits x.1)
      (hactual : answers.sourceArities.lookup p.engineName = some actual)
      (hne : actual ≠ p.arity) :
      SourceVerdict answers sources (.error (.arityMismatch p.text p.arity actual s.text))
  | accepted (husable : ∀ x ∈ sources, x.2.Usable) (hfits : ∀ x ∈ sources, answers.Fits x.1) :
      SourceVerdict answers sources (.ok ())

theorem Classification.sourceConfiguration_cases (c : Classification) :
    (∃ config, c.sourceConfiguration = .ok config ∧ ∀ x ∈ c.external, x.2.Usable) ∨
    ∃ before p s after e, c.external = before ++ (p, s) :: after ∧ (∀ x ∈ before, x.2.Usable) ∧
      ¬s.Usable ∧ s.parameters = .error e ∧ c.sourceConfiguration = .error e := by
  simp only [sourceConfiguration, sourceBlocks]
  rcases DataSource.configuration_cases c.external 0 with
    ⟨blocks, -, hall, hok⟩ | ⟨before, p, s, after, e, hsources, hbefore, hs, he, herror⟩
  · exact .inl ⟨_, by rw [hok]; rfl, hall⟩
  · exact .inr ⟨before, p, s, after, e, hsources, hbefore, hs, he, by rw [herror]; rfl⟩

namespace Reasoner

section Arities

variable {b : Recorder} {p : Predicate} {s : DataSource} {sources : List (Predicate × DataSource)}

private theorem predicateArity_of_active (hb : b.active = true) (predicate : String) :
    Backend.predicateArity predicate b = .ok (b.answers.sourceArities.lookup predicate) := by
  change Recorder.predicateArity predicate b = _
  simp [Recorder.predicateArity, hb]

theorem checkArities_of_fits (hb : b.active = true) (hp : b.answers.Fits p) :
    checkArities b ((p, s) :: sources) = checkArities b sources := by
  simp only [checkArities, predicateArity_of_active hb]
  cases hlookup : b.answers.sourceArities.lookup p.engineName with
  | none => rfl
  | some actual => simp only [hp actual hlookup, if_true]

theorem checkArities_of_misfit (hb : b.active = true) {actual : Nat}
    (hactual : b.answers.sourceArities.lookup p.engineName = some actual)
    (hne : actual ≠ p.arity) :
    checkArities b ((p, s) :: sources) = .error (.arityMismatch p.text p.arity actual s.text) := by
  simp only [checkArities, predicateArity_of_active hb, hactual, if_neg hne]

theorem checkArities_cases (hb : b.active = true) (sources : List (Predicate × DataSource)) :
    (checkArities b sources = .ok () ∧ ∀ x ∈ sources, b.answers.Fits x.1) ∨
    ∃ before p s after actual, sources = before ++ (p, s) :: after ∧
      (∀ x ∈ before, b.answers.Fits x.1) ∧
      b.answers.sourceArities.lookup p.engineName = some actual ∧ actual ≠ p.arity ∧
      checkArities b sources = .error (.arityMismatch p.text p.arity actual s.text) := by
  induction sources with
  | nil => exact .inl ⟨rfl, nofun⟩
  | cons source sources ih =>
    obtain ⟨p, s⟩ := source
    by_cases hp : b.answers.Fits p
    · rw [checkArities_of_fits hb hp]
      rcases ih with ⟨hok, hfits⟩ | ⟨before, p', s', after, actual, rfl, hbefore, h⟩
      · exact .inl ⟨hok, List.forall_mem_cons.mpr ⟨hp, hfits⟩⟩
      · refine .inr ⟨(p, s) :: before, p', s', after, actual, rfl, ?_, h⟩
        exact List.forall_mem_cons.mpr ⟨hp, hbefore⟩
    · obtain ⟨actual, hactual, hne⟩ : ∃ actual,
          b.answers.sourceArities.lookup p.engineName = some actual ∧ actual ≠ p.arity := by
        simpa [FixedAnswers.Fits] using hp
      refine .inr ⟨[], p, s, sources, actual, rfl, nofun, hactual, hne, ?_⟩
      exact checkArities_of_misfit hb hactual hne

end Arities

end Reasoner

-- How a knowledge base is taken, by its sources alone.
theorem Recorder.sourceVerdict (answers : FixedAnswers) (ss : List Statement) :
    SourceVerdict answers (Classification.build ss).external
      (verdict answers (.build ss)) := by
  unfold verdict
  rcases (Classification.build ss).sourceConfiguration_cases with
    ⟨config, hok, hall⟩ | ⟨before, p, s, after, e, hsources, hbefore, hs, he, herror⟩
  · simp only [hok]
    rw [Reasoner.populate_fst rfl]
    rcases Reasoner.checkArities_cases (b := { answers := answers, active := true }) rfl
      (Classification.build ss).external with
      ⟨hcheck, hfits⟩ | ⟨before, p, s, after, actual, hsources, hbefore, hactual, hne, hcheck⟩
    · rw [hcheck]
      rw [Except.bind, Reasoner.addFacts_build rfl]
      exact .accepted hall hfits
    · rw [hcheck]
      exact .misfit hall hsources hbefore hactual hne
  · simp only [herror]
    exact .unusable hsources hbefore hs he

-- An engine with the calls that were made to change it.
structure Journaled (β : Type) where
  engine : β
  calls : List BackendCall := []

namespace Journaled

variable {α β : Type}

-- Make a call, and take it down.
def note (call : BackendCall) (act : β → Except BackendError α × β) (b : Journaled β) :
    Except BackendError α × Journaled β :=
  ((act b.engine).1, { engine := (act b.engine).2, calls := b.calls ++ [call] })

instance [Backend β] : Backend (Journaled β) where
  activate config := note .activate (Backend.activate config)
  stop b := { b with engine := Backend.stop b.engine }
  setLogLevel level b := { b with engine := Backend.setLogLevel level b.engine }
  setLogFile path := note .setLogFile (Backend.setLogFile path)
  predicateArity predicate b := Backend.predicateArity predicate b.engine
  addData predicate rows := note .addData (Backend.addData predicate rows)
  setRules rules strategy := note .setRules (Backend.setRules rules strategy)
  materialize skolem timeout := note .materialize (Backend.materialize skolem timeout)
  query predicate terms nulls b := Backend.query predicate terms nulls b.engine
  writeCsv predicate terms nulls file b := Backend.writeCsv predicate terms nulls file b.engine
  checkCyclic notion b := Backend.checkCyclic notion b.engine

end Journaled

namespace Reasoner

variable {β : Type} [Backend β]

-- The same reasoner, with calls taken down.
def journaled (calls : List BackendCall) (r : Reasoner β) : Reasoner (Journaled β) :=
  r.withEngine { engine := r.backend, calls := calls }

theorem checkArities_journaled (b : β) (calls : List BackendCall)
    (sources : List (Predicate × DataSource)) :
    checkArities ({ engine := b, calls := calls } : Journaled β) sources =
      checkArities b sources := by
  induction sources with
  | nil => rfl
  | cons source sources ih =>
    have harity (predicate : String) :
        Backend.predicateArity predicate ({ engine := b, calls := calls } : Journaled β) =
          Backend.predicateArity predicate b := rfl
    simp only [checkArities, harity, ih]

-- Nothing is handed over if a source does not fit.
theorem populate_of_misfit {settings : ReasonerSettings} {c : Classification} {b : β}
    {e : ReasonerError}
    (h : checkArities (Backend.setLogLevel settings.logLevel b) c.external = .error e) :
    populate settings c b = (.error e, Backend.setLogLevel settings.logLevel b) := by
  simp only [populate, h]

variable {kb : KnowledgeBase} {r : Reasoner Recorder}

theorem cleared_journaled (kb : KnowledgeBase) (r : Reasoner Recorder)
    (calls : List BackendCall) :
    (r.journaled calls).cleared kb = (r.cleared kb).journaled calls := by
  have hobserve : (r.journaled calls).observe kb = (r.observe kb).journaled calls := by
    simp only [journaled, observe_backend]
    exact congrArg Workspace.reasoner (Workspace.noted_withEngine _ ⟨kb, r⟩)
  by_cases hb : r.state = .beforeLoading
  · have hb' : (r.journaled calls).state = .beforeLoading := hb
    simp only [cleared, if_pos hb, if_pos hb']
  · have hb' : (r.journaled calls).state ≠ .beforeLoading := hb
    simp only [cleared, if_neg hb, if_neg hb', hobserve]
    rfl

-- A recorder that has been started refuses what was compiled only for a source that does not fit.
theorem misfit_of_populate {b b' : Recorder} (hb : b.active = true) {settings : ReasonerSettings}
    {ss : List Statement} {e : ReasonerError}
    (h : populate settings (.build ss) b = (.error e, b')) :
    checkArities (Backend.setLogLevel settings.logLevel b) (Classification.build ss).external =
        .error e ∧
      b' = Backend.setLogLevel settings.logLevel b := by
  have hactive : (Backend.setLogLevel settings.logLevel b).active = b.active := rfl
  have hanswers : (Backend.setLogLevel settings.logLevel b).answers = b.answers := rfl
  have harities := checkArities_congr hactive hanswers (Classification.build ss).external
  cases hcheck : checkArities (Backend.setLogLevel settings.logLevel b)
    (Classification.build ss).external with
  | error e' =>
    rw [populate_of_misfit hcheck] at h
    obtain ⟨he, hb'⟩ := Prod.mk.inj h
    exact ⟨he, hb'.symm⟩
  | ok _ =>
    have hok : (populate settings (.build ss) b).1 = _ := populate_fst hb
    rw [h, ← harities, hcheck, Except.bind, addFacts_build hb] at hok
    cases hok

-- A load that fails does so before anything is handed over.
theorem loadFresh_journaled {lasting : FixedAnswers × List (Bool × Option Nat)}
    {settings : ReasonerSettings} (h : Ready lasting settings r) {e : ReasonerError}
    (he : (r.loadFresh kb).1 = .error e) (calls : List BackendCall) :
    ∃ made, (r.journaled calls).loadFresh kb =
        ((r.loadFresh kb).1, (r.loadFresh kb).2.journaled (calls ++ made)) ∧
      ∀ call ∈ made, call = .activate := by
  have hl := r.loading_loadFresh kb
  generalize hresult : r.loadFresh kb = result at hl he ⊢
  cases hl with
  | loaded _ _ _ => cases he
  | unusableSource hconfig =>
    refine ⟨[], ?_, nofun⟩
    simp only [loadFresh, hconfig, List.append_nil]
    rfl
  | @notActivated config e b _ hactivate =>
    have hok := Recorder.activate_of_idle h.idle config
    rw [hactivate] at hok
    cases hok
  | @notPopulated config e b b' hconfig hactivate hpopulate =>
    have hb : b.active = true := by rw [Recorder.eq_of_activate_ok hactivate]
    obtain ⟨hmisfit, rfl⟩ := misfit_of_populate hb hpopulate
    have hactivate' : Backend.activate config (r.journaled calls).backend =
        (.ok (), ({ engine := b, calls := calls ++ [.activate] } : Journaled Recorder)) := by
      change Journaled.note _ _ _ = _
      simp only [Journaled.note, journaled, withEngine, hactivate]
    have hpopulate' : populate r.settings (.build kb.statements)
        ({ engine := b, calls := calls ++ [.activate] } : Journaled Recorder) = (.error e, _) :=
      populate_of_misfit ((checkArities_journaled _ _ _).trans hmisfit)
    refine ⟨[.activate], ?_, by simp⟩
    have hsettings : (r.journaled calls).settings = r.settings := rfl
    simp only [loadFresh, hconfig, hactivate', hsettings, hpopulate']
    rfl

end Reasoner

-- Changes of the knowledge base, and news of them.
def Action.EditsOrTells : Action → Prop
  | add _ | addMany _ | remove _ | notify => True
  | _ => False

-- A reasoner that has nothing loaded does not mind them.
theorem Workspace.reasoner_run_of_editsOrTells {β : Type} [Backend β] {w : Workspace β}
    (hs : w.reasoner.state = .beforeLoading) {actions : List Action}
    (hedits : ∀ a ∈ actions, a.EditsOrTells) : (w.run actions).2.reasoner = w.reasoner := by
  induction actions generalizing w with
  | nil => rfl
  | cons a actions ih =>
    obtain ⟨ha, hactions⟩ := List.forall_mem_cons.mp hedits
    have hstep : (w.perform a).2.reasoner = w.reasoner := by
      cases a with
      | add s => rfl
      | addMany ss => rfl
      | remove s => rfl
      | notify => exact Reasoner.markChanged_of_not_current (by simp [hs, ReasonerState.Current])
      | _ => exact ha.elim
    have hs' : (w.perform a).2.reasoner.state = .beforeLoading := by rw [hstep, hs]
    exact (ih hs' hactions).trans hstep

-- A reasoner that has nothing loaded and will load as a new one would with its settings.
structure Workspace.Clear (answers : FixedAnswers) (settings : ReasonerSettings)
    (w : Workspace Recorder) : Prop where
  state : w.reasoner.shownState w.kb = .beforeLoading
  idle : w.reasoner.backend.Idle
  fresh : ∃ fresh, Reasoner.configured ({ answers := answers } : Recorder) settings = .ok fresh ∧
    (w.reasoner.load w.kb).1 = (fresh.load w.kb).1 ∧
    Reasoner.Alike w.kb (w.reasoner.load w.kb).2 (fresh.load w.kb).2 ∧
    ((w.reasoner.load w.kb).1 = .ok () →
      Reasoner.AlikeLoaded w.kb (w.reasoner.load w.kb).2 (fresh.load w.kb).2)

theorem Reasoner.Ready.clear {answers : FixedAnswers} {runs : List (Bool × Option Nat)}
    {settings : ReasonerSettings} {w : Workspace Recorder}
    (h : Ready (answers, runs) settings w.reasoner) (htimeout : settings.timeoutSeconds ≠ some 0) :
    w.Clear answers settings where
  state := by simp [shownState, h.state]
  idle := h.idle
  fresh := by
    obtain ⟨fresh, hfresh, hready⟩ := configured_ready answers htimeout
    exact ⟨fresh, hfresh, (h.outcome_load w.kb).alike (hready.outcome_load w.kb) rfl⟩

open Reasoner

-- How a load ends is decided by the sources of the knowledge base in their order, whatever was done
-- before. A load that fails hands nothing over and runs nothing, and leaves a reasoner that has
-- nothing loaded. It stays like that while the knowledge base is changed, and loads like a new one.
theorem load_of_run {answers : FixedAnswers} {r : Reasoner Recorder} {kb : KnowledgeBase}
    {steps : List (Workspace Recorder × Action)} {w : Workspace Recorder}
    (hopened : Opened ({ answers := answers } : Recorder) r)
    (hrun : Run (fun _ _ => False) ⟨kb, r⟩ steps w) (hs : w.reasoner.state ≠ .afterClosing) :
    SourceVerdict answers (Classification.build w.kb.statements).external
      (w.reasoner.load w.kb).1 ∧
    ∀ e, (w.reasoner.load w.kb).1 = .error e →
      (∃ made, (w.reasoner.journaled []).load w.kb =
          ((w.reasoner.load w.kb).1, (w.reasoner.load w.kb).2.journaled made) ∧
        ∀ call ∈ made, call = .activate) ∧
      ∀ actions : List Action, (∀ a ∈ actions, a.EditsOrTells) →
        ((w.perform .load).2.run actions).2.Clear answers w.reasoner.settings := by
  have hsettled : Settled answers w :=
    (hrun.mono fun _ _ => False.elim).moves.invariant (I := fun _ w => Settled answers w) .move []
      (.of_opened hopened)
  have houtcome := hsettled.outcome_load hs
  refine ⟨?_, fun e he => ⟨?_, fun actions hedits => ?_⟩⟩
  · have hverdict := Recorder.sourceVerdict answers w.kb.statements
    generalize w.reasoner.load w.kb = result at houtcome ⊢
    cases houtcome with
    | filled _ h => rwa [h] at hverdict
    | refused _ _ h => rwa [h] at hverdict
  · rw [load_eq_cleared hs] at he ⊢
    rw [load_eq_cleared (show (w.reasoner.journaled []).state ≠ .afterClosing from hs),
      cleared_journaled]
    exact loadFresh_journaled hsettled.ready_cleared he []
  · have hready : Ready (answers, w.reasoner.backend.runs) w.reasoner.settings
        (w.perform .load).2.reasoner := by
      change Ready _ _ (w.reasoner.load w.kb).2
      generalize w.reasoner.load w.kb = result at houtcome he ⊢
      cases houtcome with
      | filled _ _ => cases he
      | refused h _ _ => exact h
    rw [← Workspace.reasoner_run_of_editsOrTells hready.state hedits] at hready
    exact hready.clear hsettled.timeout

-- A reasoner that has loaded a fact. A source that is declared afterwards has too small an arity.

def narrowSource : Declaration :=
  ⟨⟨"p", 1⟩, some (.csvFile (.ofText "a.csv"))⟩

def Workspace.withRows : Workspace Recorder :=
  ⟨Workspace.withFact.kb, .new { answers := { sourceArities := [("p-1", 3)] } }⟩

def Workspace.withNarrowSource : Workspace Recorder :=
  ((withRows.perform .load).2.perform (.add (.dataSource narrowSource))).2

-- Without the source it loads again.
theorem load_withNarrowSource :
    (Workspace.withNarrowSource.perform .load).1 =
      .error (.arityMismatch "p[1]" 1 3 "load-csv(\"a.csv\")") ∧
    (∃ made, (Workspace.withNarrowSource.reasoner.journaled []).load Workspace.withNarrowSource.kb =
        ((Workspace.withNarrowSource.reasoner.load Workspace.withNarrowSource.kb).1,
          (Workspace.withNarrowSource.reasoner.load
            Workspace.withNarrowSource.kb).2.journaled made) ∧
      ∀ call ∈ made, call = .activate) ∧
    (((Workspace.withNarrowSource.perform .load).2.run
      [.remove (.dataSource narrowSource), .notify]).2.Clear
        { sourceArities := [("p-1", 3)] } {}) ∧
    (((Workspace.withNarrowSource.perform .load).2.run
      [.remove (.dataSource narrowSource), .notify]).2.perform .load).1 = .ok .done := by
  have hopened : Opened ({ answers := { sourceArities := [("p-1", 3)] } } : Recorder)
      Workspace.withRows.reasoner := .new
  have hrun : Run (fun _ _ => False) Workspace.withRows _ Workspace.withNarrowSource :=
    .action (.add (.dataSource narrowSource)) (.action .load .start)
  have hload : (Workspace.withNarrowSource.reasoner.load Workspace.withNarrowSource.kb).1 =
      .error (.arityMismatch "p[1]" 1 3 "load-csv(\"a.csv\")") := by
    decide +kernel
  obtain ⟨-, hfailed⟩ := load_of_run hopened hrun (by decide +kernel)
  obtain ⟨hmade, hclear⟩ := hfailed _ hload
  refine ⟨by decide +kernel, hmade, hclear _ ?_, by decide +kernel⟩
  simp [Action.EditsOrTells]

-- A file whose name is more than an extension, but not text.
def strayName : Path :=
  ⟨Bytes.ofText "/data/" ++ 0xff :: Bytes.ofText ".csv"⟩

def Workspace.withStrayName : Workspace Recorder :=
  ⟨.ofStatements [.dataSource ⟨⟨"p", 1⟩, some (.csvFile strayName)⟩], .new {}⟩

-- It is refused like a path that has no file name.
theorem load_withStrayName :
    strayName.fileName? = some (0xff :: Bytes.ofText ".csv") ∧
      (Classification.build Workspace.withStrayName.kb.statements).external =
        [(⟨"p", 1⟩, .csvFile strayName)] ∧
      (Workspace.withStrayName.perform .load).1 =
        .error (.configuration "source path /data/\uFFFD.csv has no file name") := by
  refine ⟨by decide +kernel, by decide +kernel, by decide +kernel⟩

end Rulebook
