import Rulebook.Proofs.Classification.Delivery
import Rulebook.Proofs.Reasoner.Correctness
import Rulebook.Reasoner.Faulty

namespace Rulebook

section Shadow

variable {β γ : Type}

-- A call does what another engine does, or fails without doing anything.
def Follows {α : Type} (view : β → γ) (call : β → Except BackendError α × β)
    (original : γ → Except BackendError α × γ) : Prop :=
  ∀ b, (∃ e, (call b).1 = .error e ∧ view (call b).2 = view b) ∨
    (call b).1 = (original (view b)).1 ∧ view (call b).2 = (original (view b)).2

-- An engine that is changed like another one, whose state can be read off its own, but for calls
-- that fail. What it answers when it is only asked does not matter.
structure Shadows [Backend β] [Backend γ] (view : β → γ) : Prop where
  activate : ∀ config, Follows view (Backend.activate config) (Backend.activate config)
  stop : ∀ b, view (Backend.stop b) = Backend.stop (view b)
  setLogLevel : ∀ level b, view (Backend.setLogLevel level b) = Backend.setLogLevel level (view b)
  setLogFile : ∀ path, Follows view (Backend.setLogFile path) (Backend.setLogFile path)
  addData : ∀ predicate rows,
    Follows view (Backend.addData predicate rows) (Backend.addData predicate rows)
  setRules : ∀ rules strategy,
    Follows view (Backend.setRules rules strategy) (Backend.setRules rules strategy)
  materialize : ∀ skolem timeout,
    Follows view (Backend.materialize skolem timeout) (Backend.materialize skolem timeout)

theorem Faulty.follows_change {α : Type} (call : BackendCall)
    (act : γ → Except BackendError α × γ) : Follows Faulty.inner (Faulty.change call act) act := by
  intro b
  unfold change
  split
  next e _ => exact .inl ⟨e, rfl, rfl⟩
  next => exact .inr ⟨rfl, rfl⟩

theorem Faulty.shadows [Backend γ] : Shadows (Faulty.inner : Faulty γ → γ) where
  activate _ := follows_change _ _
  stop _ := rfl
  setLogLevel _ _ := rfl
  setLogFile _ := follows_change _ _
  addData _ _ := follows_change _ _
  setRules _ _ := follows_change _ _
  materialize _ _ := follows_change _ _

-- A call that succeeds is one of the other engine.
theorem Follows.of_ok {α : Type} {view : β → γ} {call : β → Except BackendError α × β}
    {original : γ → Except BackendError α × γ} (h : Follows view call original) {b b' : β} {a : α}
    (hok : call b = (.ok a, b')) : original (view b) = (.ok a, view b') := by
  rcases h b with ⟨e, he, -⟩ | ⟨hresult, hview⟩
  · simp [hok] at he
  · rw [hok] at hresult hview
    exact (Prod.ext hresult hview).symm

end Shadow

namespace Recorder

theorem shadows_id : Shadows (id : Recorder → Recorder) where
  activate _ _ := .inr ⟨rfl, rfl⟩
  stop _ := rfl
  setLogLevel _ _ := rfl
  setLogFile _ _ := .inr ⟨rfl, rfl⟩
  addData _ _ _ := .inr ⟨rfl, rfl⟩
  setRules _ _ _ := .inr ⟨rfl, rfl⟩
  materialize _ _ _ := .inr ⟨rfl, rfl⟩

-- Nothing was given to a recorder, or it was taken away again.
structure Idle (r : Recorder) : Prop where
  active : r.active = false
  data : r.data = []
  rules : r.rules = []

-- A recorder holds what was compiled, and nothing else.
structure Holds (c : Classification) (settings : ReasonerSettings) (r : Recorder) : Prop where
  active : r.active = true
  config : ∃ config, c.sourceConfiguration = .ok config ∧ r.config = some config
  ascending : Sorted.Ascending (r.data.map Prod.fst)
  mem_data : ∀ k rows, (k, rows) ∈ r.data ↔
    k ∈ c.deliveries.map Prod.fst ∧ rows = c.delivered k
  rules : r.rules = c.rules
  strategy : r.strategy = settings.headStrategy
  logLevel : r.logLevel = some settings.logLevel

theorem idle_stop (r : Recorder) : (Backend.stop r : Recorder).Idle :=
  ⟨rfl, rfl, rfl⟩

theorem eq_of_activate_ok {r r' : Recorder} {config : String}
    (h : Backend.activate config r = (.ok (), r')) :
    r' = { r with active := true, config := some config } := by
  change Recorder.activate config r = _ at h
  unfold activate at h
  split at h
  · cases h
  · exact (Prod.mk.inj h).2.symm

theorem eq_of_whenActive_ok {α : Type} {r r' after : Recorder} {a a' : α}
    (h : r.whenActive a after = (.ok a', r')) : r' = after := by
  unfold whenActive at h
  split at h
  · exact (Prod.mk.inj h).2.symm
  · cases h

-- An engine that has been started takes all rows.
theorem addData_of_active {r : Recorder} (hr : r.active = true) (predicate : String)
    (rows : List Row) :
    Backend.addData predicate rows r =
      (.ok (), { r with data := Sorted.alter (·.getD [] ++ rows) predicate r.data }) := by
  change Recorder.addData predicate rows r = _
  simp [addData, whenActive, hr]

-- An idle recorder can be started.
theorem activate_of_idle {r : Recorder} (h : r.Idle) (config : String) :
    (Backend.activate config r).1 = .ok () := by
  change (Recorder.activate config r).1 = _
  simp [activate, h.active]

-- A run leaves what was given to a recorder as it is.
theorem Holds.materialize {c : Classification} {settings : ReasonerSettings} {r : Recorder}
    (h : r.Holds c settings) (skolem : Bool) (timeout : Option Nat) :
    (Backend.materialize skolem timeout r).2.Holds c settings := by
  change (Recorder.materialize skolem timeout r).2.Holds c settings
  unfold Recorder.materialize
  split
  · exact h
  · simp only
    split <;> exact ⟨h.active, h.config, h.ascending, h.mem_data, h.rules, h.strategy, h.logLevel⟩

end Recorder

namespace Reasoner

variable {β : Type} [Backend β] {view : β → Recorder} {b b' : β}

-- Facts that are loaded without an error gather under the names of their targets.
theorem view_addFacts (hview : Shadows view) {c : Classification}
    {facts : List (Predicate × List Fact)} (h : addFacts c facts b = (.ok (), b')) :
    view b' = { view b with data := Sorted.gather (view b).data (c.deliver facts) } := by
  induction facts generalizing b with
  | nil =>
    obtain rfl := (Prod.mk.inj h).2
    rfl
  | cons e facts ih =>
    obtain ⟨p, fs⟩ := e
    unfold addFacts at h
    cases htarget : c.factTarget p with
    | none => simp [htarget] at h
    | some target =>
      simp only [htarget] at h
      split at h
      next => cases h
      next b'' hadd =>
        have hpush := (hview.addData _ _).of_ok hadd
        rw [ih h, Recorder.eq_of_whenActive_ok hpush]
        simp only [Sorted.gather, Classification.deliver, List.filterMap_cons, htarget,
          Option.map_some, List.foldl_cons]
        rfl

-- A recorder that has been started takes all facts that have a target.
theorem addFacts_eq_ok {b : Recorder} (hb : b.active = true) {c : Classification}
    {facts : List (Predicate × List Fact)}
    (htargets : ∀ e ∈ facts, ∃ target, c.factTarget e.1 = some target) :
    (addFacts c facts b).1 = .ok () := by
  induction facts generalizing b with
  | nil => rfl
  | cons e facts ih =>
    obtain ⟨target, htarget⟩ := htargets e List.mem_cons_self
    simp only [addFacts, htarget, Recorder.addData_of_active hb]
    exact ih hb fun e he => htargets e (List.mem_cons_of_mem _ he)

-- All facts that were compiled have one.
theorem addFacts_build {b : Recorder} (hb : b.active = true) (ss : List Statement) :
    (addFacts (.build ss) (Classification.build ss).facts b).1 = .ok () :=
  addFacts_eq_ok hb fun _ he => Classification.exists_factTarget_of_facts he

-- So it holds the facts under the names of their targets.
theorem delivers_addFacts {b : Recorder} (hb : b.active = true) (hdata : b.data = [])
    (ss : List Statement) :
    (Classification.build ss).Delivers
      (addFacts (.build ss) (Classification.build ss).facts b).2.data := by
  have hok := addFacts_build hb ss
  rcases h : addFacts (.build ss) (Classification.build ss).facts b with ⟨result, b'⟩
  obtain rfl : result = .ok () := by rwa [h] at hok
  have hview := view_addFacts Recorder.shadows_id h
  have hgather : b'.data = Sorted.gather [] (Classification.build ss).deliveries := by
    rw [← hdata]
    exact congrArg Recorder.data hview
  exact .of_mem_iff fun k rows => hgather ▸ Sorted.mem_gather

theorem view_populate (hview : Shadows view) {settings : ReasonerSettings} {c : Classification}
    (h : populate settings c b = (.ok (), b')) :
    view b' =
      { view b with
        logLevel := some settings.logLevel
        data := Sorted.gather (view b).data c.deliveries
        rules := c.rules
        strategy := settings.headStrategy } := by
  unfold populate at h
  simp only at h
  split at h
  next => cases h
  next =>
    split at h
    next => cases h
    next b₁ hfacts =>
      split at h
      next => cases h
      next b₂ hrules =>
        obtain rfl := (Prod.mk.inj h).2
        have hset := (hview.setRules _ _).of_ok hrules
        rw [Recorder.eq_of_whenActive_ok hset, view_addFacts hview hfacts, hview.setLogLevel]
        rfl

-- Loading into an idle recorder gives it what was compiled, or leaves it idle.
theorem loading_mirrors (hview : Shadows view) {kb : KnowledgeBase} {r : Reasoner β}
    {result : Except ReasonerError Unit × Reasoner β} (h : Loading kb r result)
    (hstate : r.state = .beforeLoading) (hidle : (view r.backend).Idle) :
    result.2.state = .afterLoading ∧
        (view result.2.backend).Holds result.2.index result.2.settings ∨
      result.2.state = .beforeLoading ∧ (view result.2.backend).Idle := by
  cases h with
  | @loaded config b b' hconfig hactivate hpopulate =>
    have hactive := Recorder.eq_of_activate_ok ((hview.activate config).of_ok hactivate)
    have hview' := view_populate hview hpopulate
    rw [hactive] at hview'
    refine .inl ⟨rfl, ?_⟩
    simp only [hview', hidle.data]
    exact ⟨rfl, ⟨config, hconfig, rfl⟩, Sorted.ascending_gather, fun k rows => Sorted.mem_gather,
      rfl, rfl, rfl⟩
  | unusableSource _ => exact .inr ⟨hstate, hidle⟩
  | @notActivated config e b _ hactivate =>
    refine .inr ⟨hstate, ?_⟩
    rcases hview.activate config r.backend with ⟨e', -, hb⟩ | ⟨hok, -⟩
    · rw [hactivate] at hb
      exact hb ▸ hidle
    · rw [hactivate, Recorder.activate_of_idle hidle] at hok
      cases hok
  | notPopulated _ _ _ =>
    refine .inr ⟨hstate, ?_⟩
    simp only [hview.stop]
    exact Recorder.idle_stop _

end Reasoner

-- What a recorder holds that is the engine of a workspace.
structure Mirrored {β : Type} (view : β → Recorder) (w : Workspace β) : Prop where
  holds : w.reasoner.state.Loaded →
    (view w.reasoner.backend).Holds w.reasoner.index w.reasoner.settings
  idle : ¬w.reasoner.state.Loaded → (view w.reasoner.backend).Idle

namespace Mirrored

variable {β : Type} [Backend β] {view : β → Recorder}

omit [Backend β] in
theorem markChanged {kb : KnowledgeBase} {r : Reasoner β} (hm : Mirrored view ⟨kb, r⟩) :
    Mirrored view ⟨kb, r.markChanged⟩ := by
  rcases r.state_markChanged with ⟨hl, hs⟩ | ⟨-, hr⟩
  · refine ⟨fun _ => ?_, fun hn => ?_⟩
    · simpa using hm.holds hl
    · simp [hs, ReasonerState.Loaded] at hn
  · rwa [hr]

-- A reasoner whose engine was stopped.
theorem of_stop (hview : Shadows view) {kb : KnowledgeBase} {r : Reasoner β} {b : β}
    (hb : r.backend = Backend.stop b) (hs : ¬r.state.Loaded) : Mirrored view ⟨kb, r⟩ := by
  refine ⟨fun hl => absurd hl hs, fun _ => ?_⟩
  simp only [hb, hview.stop]
  exact Recorder.idle_stop _

theorem load (hview : Shadows view) {kb : KnowledgeBase} {r : Reasoner β}
    (hm : Mirrored view ⟨kb, r⟩) (hs : r.state = .beforeLoading) :
    Mirrored view ⟨kb, (r.loadFresh kb).2⟩ := by
  have hidle := hm.idle (by simp [hs, ReasonerState.Loaded])
  rcases Reasoner.loading_mirrors hview (r.loading_loadFresh kb) hs hidle with
    ⟨hs', hholds⟩ | ⟨hs', hidle'⟩
  · exact ⟨fun _ => hholds, fun hn => by simp [hs', ReasonerState.Loaded] at hn⟩
  · exact ⟨fun hl => by simp [hs', ReasonerState.Loaded] at hl, fun _ => hidle'⟩

theorem run (hview : Shadows view) {kb : KnowledgeBase} {r : Reasoner β}
    (hm : Mirrored view ⟨kb, r⟩) (counts : Bool) (hs : r.state = .afterLoading) :
    Mirrored view ⟨kb, r.finish counts⟩ := by
  have hholds := hm.holds (by simp [hs, ReasonerState.Loaded])
  have hrun : (view (Backend.materialize (r.settings.algorithm = .skolemChase)
      r.settings.timeoutSeconds r.backend).2).Holds r.index r.settings := by
    rcases hview.materialize (r.settings.algorithm = .skolemChase) r.settings.timeoutSeconds
      r.backend with ⟨_, -, hb⟩ | ⟨-, hb⟩
    · exact hb ▸ hholds
    · exact hb ▸ hholds.materialize _ _
  have hrunning := r.running_finish counts
  generalize r.runEvents counts = events at hrunning
  generalize r.finish counts = r' at hrunning ⊢
  cases hrunning with
  | ended hb =>
    rw [hb] at hrun
    exact ⟨fun _ => hrun, fun hn => absurd trivial hn⟩
  | failed hb =>
    rw [hb] at hrun
    exact ⟨fun _ => hrun, fun hn => absurd trivial hn⟩

theorem setLogFile (hview : Shadows view) {kb : KnowledgeBase} {r : Reasoner β}
    (hm : Mirrored view ⟨kb, r⟩) (path : Path) :
    Mirrored view ⟨kb, { r with backend := (Backend.setLogFile path r.backend).2 }⟩ := by
  rcases hview.setLogFile path r.backend with ⟨_, -, hb⟩ | ⟨-, hb⟩
  · exact ⟨fun hl => hb ▸ hm.holds hl, fun hn => hb ▸ hm.idle hn⟩
  · refine ⟨fun hl => ?_, fun hn => ?_⟩
    · have h := hm.holds hl
      exact hb ▸ ⟨h.active, h.config, h.ascending, h.mem_data, h.rules, h.strategy, h.logLevel⟩
    · have h := hm.idle hn
      exact hb ▸ ⟨h.active, h.data, h.rules⟩

theorem setLogLevel (hview : Shadows view) {kb : KnowledgeBase} {r : Reasoner β}
    (hm : Mirrored view ⟨kb, r⟩) (level : LogLevel) :
    Mirrored view
      ⟨kb, { r with
        settings := { r.settings with logLevel := level }
        backend := Backend.setLogLevel level r.backend }⟩ := by
  have hb := hview.setLogLevel level r.backend
  refine ⟨fun hl => ?_, fun hn => ?_⟩
  · have h := hm.holds hl
    exact hb ▸ ⟨h.active, h.config, h.ascending, h.mem_data, h.rules, h.strategy, rfl⟩
  · have h := hm.idle hn
    exact hb ▸ ⟨h.active, h.data, h.rules⟩

-- The strategy is only changed while nothing is loaded.
omit [Backend β] in
theorem configure {kb : KnowledgeBase} {r : Reasoner β} {settings : ReasonerSettings}
    (hm : Mirrored view ⟨kb, r⟩) (hlevel : settings.logLevel = r.settings.logLevel)
    (hstrategy : r.state = .beforeLoading ∨ settings.headStrategy = r.settings.headStrategy) :
    Mirrored view ⟨kb, { r with settings := settings }⟩ := by
  refine ⟨fun hl => ?_, hm.idle⟩
  have h := hm.holds hl
  have hstrategy := hstrategy.resolve_left fun hs => by simp [hs, ReasonerState.Loaded] at hl
  exact ⟨h.active, h.config, h.ascending, h.mem_data, h.rules, h.strategy.trans hstrategy.symm,
    h.logLevel.trans (congrArg some hlevel.symm)⟩

-- One move of a workspace.
theorem move (hview : Shadows view) {e : List Event} {w w' : Workspace β} (hm : Mirrored view w)
    (h : Move (fun b b' => view b' = view b) e w w') : Mirrored view w' := by
  cases h with
  | edit _ => exact ⟨hm.holds, hm.idle⟩
  | drift hb => exact ⟨fun hl => hb ▸ hm.holds hl, fun hn => hb ▸ hm.idle hn⟩
  | observe =>
    unfold Reasoner.observe
    split
    · exact hm.markChanged
    · exact hm
  | notify => exact hm.markChanged
  | unload _ => exact of_stop hview rfl id
  | @close kb r hs =>
    refine of_stop hview (b := r.backend) ?_ r.not_loaded_close
    unfold Reasoner.close
    split
    next hc => exact absurd hc hs
    next => rfl
  | load hs => exact load hview hm hs
  | run counts hs => exact run hview hm counts hs
  | configure settings hlevel hstrategy _ => exact hm.configure hlevel hstrategy
  | setLogLevel level _ => exact setLogLevel hview hm level
  | setLogFile path _ => exact setLogFile hview hm path

end Mirrored

theorem Opened.idle {β : Type} [Backend β] {view : β → Recorder} (hview : Shadows view) {b : β}
    {r : Reasoner β} (h : Opened b r) (hidle : (view b).Idle) : (view r.backend).Idle := by
  cases h with
  | new => exact hidle
  | @configured settings _ h =>
    unfold Reasoner.configured at h
    split at h
    · cases h
    · obtain rfl := Except.ok.inj h
      have hb := hview.setLogLevel settings.logLevel b
      exact hb ▸ ⟨hidle.active, hidle.data, hidle.rules⟩

theorem Run.mirrored {β : Type} [Backend β] {view : β → Recorder} {b : β} {r : Reasoner β}
    {kb : KnowledgeBase} {steps : List (Workspace β × Action)} {w : Workspace β}
    (hrun : Run (fun b b' => view b' = view b) ⟨kb, r⟩ steps w) (hview : Shadows view)
    (hidle : (view b).Idle) (hopened : Opened b r) : Mirrored view w := by
  have hn : ¬r.state.Loaded := by simp [hopened.state_eq, ReasonerState.Loaded]
  exact hrun.moves.invariant (I := fun _ w => Mirrored view w) (.move hview) []
    ⟨fun hl => absurd hl hn, fun _ => hopened.idle hview hidle⟩

-- In every run, whatever calls fail, the recorder behind a loaded reasoner holds the knowledge
-- base as it was at the loaded version, compiled, with the settings of the reasoner. It holds
-- nothing otherwise.
theorem mirror_of_run {β : Type} [Backend β] {view : β → Recorder} (hview : Shadows view) {b : β}
    {r : Reasoner β} {kb : KnowledgeBase} {steps : List (Workspace β × Action)} {w : Workspace β}
    (hidle : (view b).Idle) (hopened : Opened b r)
    (hrun : Run (fun b b' => view b' = view b) ⟨kb, r⟩ steps w) :
    (w.reasoner.state.Loaded →
      ∃ loaded ∈ Run.knowledgeBases steps w,
        w.reasoner.loadedVersion = some loaded.version ∧
        (∀ kb' ∈ Run.knowledgeBases steps w, kb'.version = loaded.version → kb' = loaded) ∧
        w.reasoner.index = .build loaded.statements ∧
        (view w.reasoner.backend).Holds (.build loaded.statements) w.reasoner.settings) ∧
    (¬w.reasoner.state.Loaded → (view w.reasoner.backend).Idle) := by
  have hstart : Mirrored view ⟨kb, r⟩ := by
    refine ⟨fun hl => ?_, fun _ => hopened.idle hview hidle⟩
    simp [hopened.state_eq, ReasonerState.Loaded] at hl
  have hm : Mirrored view w :=
    hrun.moves.invariant (I := fun _ w => Mirrored view w) (.move hview) [] hstart
  have ht := hrun.tracks hopened.state_eq
  refine ⟨fun hl => ?_, hm.idle⟩
  obtain ⟨loaded, hr⟩ := ht.remembers hl
  have hkb : loaded ∈ Run.knowledgeBases steps w :=
    Run.mem_knowledgeBases_of_loaded (loaded_mem_of_lastLoad hr.loaded)
  refine ⟨loaded, hkb, hr.version, ?_, hr.index, hr.index ▸ hm.holds hl⟩
  intro kb' hkb' hversion
  exact hrun.eq_of_version hkb' hkb hversion

-- A fact is loaded, and the run fails.

def Workspace.withFault : Workspace (Faulty Recorder) :=
  ⟨withFact.kb, .new ⟨{}, [(.materialize, .notStarted)]⟩⟩

def Workspace.withFaultLoaded : Workspace (Faulty Recorder) :=
  (withFault.perform .load).2

def Workspace.withFaultReasoned : Workspace (Faulty Recorder) :=
  (withFaultLoaded.perform .reason).2

-- The recorder holds the fact then.
theorem mirror_withFaultReasoned :
    ∃ loaded ∈ Run.knowledgeBases
        [(Workspace.withFaultLoaded, .reason), (Workspace.withFault, .load)]
        Workspace.withFaultReasoned,
      Workspace.withFaultReasoned.reasoner.loadedVersion = some loaded.version ∧
      (∀ kb' ∈ Run.knowledgeBases
          [(Workspace.withFaultLoaded, .reason), (Workspace.withFault, .load)]
          Workspace.withFaultReasoned, kb'.version = loaded.version → kb' = loaded) ∧
      Workspace.withFaultReasoned.reasoner.index = .build loaded.statements ∧
      Workspace.withFaultReasoned.reasoner.backend.inner.Holds (.build loaded.statements)
        Workspace.withFaultReasoned.reasoner.settings := by
  have hrun : Run (fun b b' => Faulty.inner b' = Faulty.inner b) Workspace.withFault
      [(Workspace.withFaultLoaded, .reason), (Workspace.withFault, .load)]
      Workspace.withFaultReasoned :=
    .action .reason (.action .load .start)
  exact (mirror_of_run Faulty.shadows ⟨rfl, rfl, rfl⟩ .new hrun).1 trivial

end Rulebook
