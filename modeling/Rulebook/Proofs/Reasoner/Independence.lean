import Rulebook.Proofs.Reasoner.Mirror
import Rulebook.Proofs.Reasoner.Noting

namespace Rulebook

namespace Recorder

-- What is compiled and the settings say what a recorder holds.

section Holds

variable {c : Classification} {settings : ReasonerSettings} {r r' : Recorder}

theorem Holds.data_eq (h : r.Holds c settings) (h' : r'.Holds c settings) : r.data = r'.data := by
  refine Sorted.eq_of_mem_iff Prod.fst h.ascending h'.ascending fun e => ?_
  exact (h.mem_data e.1 e.2).trans (h'.mem_data e.1 e.2).symm

theorem Holds.config_eq (h : r.Holds c settings) (h' : r'.Holds c settings) :
    r.config = r'.config := by
  obtain ⟨config, hc, hr⟩ := h.config
  obtain ⟨config', hc', hr'⟩ := h'.config
  rw [hr, hr', Except.ok.inj (hc.symm.trans hc')]

end Holds

-- What a recorder answers and which runs it has seen. Loading and stopping do not change it.
def lasting (r : Recorder) : FixedAnswers × List (Bool × Option Nat) :=
  (r.answers, r.runs)

section Lasting

variable (r : Recorder)

@[simp] theorem lasting_activate (config : String) :
    (Backend.activate config r).2.lasting = r.lasting := by
  change (Recorder.activate config r).2.lasting = _
  unfold activate
  split <;> rfl

@[simp] theorem lasting_addData (predicate : String) (rows : List Row) :
    (Backend.addData predicate rows r).2.lasting = r.lasting := by
  change (Recorder.addData predicate rows r).2.lasting = _
  unfold addData whenActive
  split <;> rfl

@[simp] theorem lasting_setRules (rules : List Rule) (strategy : HeadStrategy) :
    (Backend.setRules rules strategy r).2.lasting = r.lasting := by
  change (Recorder.setRules rules strategy r).2.lasting = _
  unfold setRules whenActive
  split <;> rfl

end Lasting

-- Whether an engine with fixed answers takes what was compiled, and why not.
def verdict (answers : FixedAnswers) (c : Classification) : Except ReasonerError Unit :=
  match c.sourceConfiguration with
  | .error e => .error (.configuration e.message)
  | .ok _ => (Reasoner.populate {} c ({ answers := answers, active := true } : Recorder)).1

end Recorder

namespace Reasoner

variable {c : Classification} {b b' : Recorder}

-- A recorder that has been started takes what it is given, whatever it holds already. Only the
-- arities of the sources can be wrong.

theorem checkArities_congr (hactive : b.active = b'.active) (hanswers : b.answers = b'.answers)
    (sources : List (Predicate × DataSource)) :
    checkArities b sources = checkArities b' sources := by
  have harity (p : String) : Backend.predicateArity p b = Backend.predicateArity p b' := by
    change Recorder.predicateArity p b = Recorder.predicateArity p b'
    simp [Recorder.predicateArity, hactive, hanswers]
  induction sources with
  | nil => rfl
  | cons e sources ih => simp only [checkArities, harity, ih]

theorem addFacts_congr (hb : b.active = true) (hb' : b'.active = true)
    (facts : List (Predicate × List Fact)) :
    (addFacts c facts b).1 = (addFacts c facts b').1 ∧ (addFacts c facts b).2.active = true := by
  induction facts generalizing b b' with
  | nil => exact ⟨rfl, hb⟩
  | cons e facts ih =>
    obtain ⟨p, fs⟩ := e
    unfold addFacts
    cases c.factTarget p with
    | none => exact ⟨rfl, hb⟩
    | some target =>
      simp only [Recorder.addData_of_active hb, Recorder.addData_of_active hb']
      exact ih hb hb'

theorem populate_fst {settings : ReasonerSettings} (hb : b.active = true) :
    (populate settings c b).1 =
      (checkArities b c.external).bind fun _ => (addFacts c c.facts b).1 := by
  have hrules (strategy : HeadStrategy) (b : Recorder) (hb : b.active = true) :
      Backend.setRules c.rules strategy b =
        (.ok (), { b with rules := c.rules, strategy := strategy }) := by
    change Recorder.setRules c.rules strategy b = _
    simp [Recorder.setRules, Recorder.whenActive, hb]
  have hlevel : (Backend.setLogLevel settings.logLevel b).active = true := hb
  have hanswers : (Backend.setLogLevel settings.logLevel b).answers = b.answers := rfl
  have harities := checkArities_congr (hlevel.trans hb.symm) hanswers c.external
  obtain ⟨hfacts, hactive⟩ := addFacts_congr (c := c) hlevel hb c.facts
  unfold populate
  simp only
  rw [harities, ← hfacts]
  cases checkArities b c.external with
  | error e => rfl
  | ok _ =>
    rcases hadded : addFacts c c.facts (Backend.setLogLevel settings.logLevel b) with ⟨e | _, b₂⟩
    · rfl
    · rw [hadded] at hactive
      simp [hrules _ b₂ hactive, Except.bind]

theorem populate_congr {settings settings' : ReasonerSettings} (hb : b.active = true)
    (hb' : b'.active = true) (hanswers : b.answers = b'.answers) :
    (populate settings c b).1 = (populate settings' c b').1 := by
  rw [populate_fst hb, populate_fst hb', checkArities_congr (hb.trans hb'.symm) hanswers,
    (addFacts_congr hb hb' c.facts).1]

@[simp] theorem lasting_addFacts (c : Classification) (facts : List (Predicate × List Fact))
    (b : Recorder) : (addFacts c facts b).2.lasting = b.lasting := by
  induction facts generalizing b with
  | nil => rfl
  | cons e facts ih =>
    unfold addFacts
    split
    next => rfl
    next target _ =>
      have hadd := b.lasting_addData target.engineName (e.2.map fun f => f.terms.map Term.name)
      split
      next _ _ hb => rwa [hb] at hadd
      next b₁ hb =>
        rw [hb] at hadd
        exact (ih b₁).trans hadd

@[simp] theorem lasting_populate (settings : ReasonerSettings) (c : Classification)
    (b : Recorder) : (populate settings c b).2.lasting = b.lasting := by
  have hfacts := lasting_addFacts c c.facts (Backend.setLogLevel settings.logLevel b)
  unfold populate
  simp only
  split
  next => rfl
  next =>
    split
    next _ _ hb => rwa [hb] at hfacts
    next b₁ hb =>
      rw [hb] at hfacts
      have hrules := b₁.lasting_setRules c.rules settings.headStrategy
      split
      next _ _ hb₁ =>
        rw [hb₁] at hrules
        exact hrules.trans hfacts
      next _ hb₁ =>
        rw [hb₁] at hrules
        exact hrules.trans hfacts

-- A reasoner over a recorder that has nothing loaded.
structure Ready (lasting : FixedAnswers × List (Bool × Option Nat)) (settings : ReasonerSettings)
    (r : Reasoner Recorder) : Prop where
  state : r.state = .beforeLoading
  settings_eq : r.settings = settings
  idle : r.backend.Idle
  lasting_eq : r.backend.lasting = lasting

-- A reasoner over a recorder that has loaded a knowledge base, and done nothing else.
structure Filled (lasting : FixedAnswers × List (Bool × Option Nat)) (settings : ReasonerSettings)
    (kb : KnowledgeBase) (r : Reasoner Recorder) : Prop where
  state : r.state = .afterLoading
  settings_eq : r.settings = settings
  index : r.index = .build kb.statements
  version : r.loadedVersion = some kb.version
  materialisation : r.materialisation = .incomplete
  completed : r.completed = false
  holds : r.backend.Holds (.build kb.statements) settings
  lasting_eq : r.backend.lasting = lasting

-- What comes of loading a knowledge base. Nothing in it is left of an earlier load.
inductive Outcome (lasting : FixedAnswers × List (Bool × Option Nat))
    (settings : ReasonerSettings) (kb : KnowledgeBase) :
    Except ReasonerError Unit × Reasoner Recorder → Prop
  | filled {r : Reasoner Recorder} (h : Filled lasting settings kb r)
      (hverdict : Recorder.verdict lasting.1 (.build kb.statements) = .ok ()) :
      Outcome lasting settings kb (.ok (), r)
  | refused {e : ReasonerError} {r : Reasoner Recorder} (h : Ready lasting settings r)
      (hindex : r.index = .build kb.statements)
      (hverdict : Recorder.verdict lasting.1 (.build kb.statements) = .error e) :
      Outcome lasting settings kb (.error e, r)

variable {lasting : FixedAnswers × List (Bool × Option Nat)} {settings : ReasonerSettings}
  {kb : KnowledgeBase} {r r' : Reasoner Recorder}

theorem outcome_loadFresh (kb : KnowledgeBase) (h : Ready lasting settings r) :
    Outcome lasting settings kb (r.loadFresh kb) := by
  have hl := r.loading_loadFresh kb
  have hverdict {config : String} {b : Recorder}
      (hconfig : (Classification.build kb.statements).sourceConfiguration = .ok config)
      (hactivate : Backend.activate config r.backend = (.ok (), b)) :
      Recorder.verdict lasting.1 (.build kb.statements) =
        (populate r.settings (.build kb.statements) b).1 := by
    have hlasting := congrArg Prod.fst h.lasting_eq
    obtain rfl := Recorder.eq_of_activate_ok hactivate
    simp only [Recorder.verdict, hconfig]
    exact populate_congr rfl rfl hlasting.symm
  have hlasting {config : String} {b : Recorder} {answer : Except BackendError Unit}
      (hactivate : Backend.activate config r.backend = (answer, b)) : b.lasting = lasting := by
    have hb := r.backend.lasting_activate config
    rw [hactivate] at hb
    exact hb.trans h.lasting_eq
  rcases loading_mirrors Recorder.shadows_id hl h.state h.idle with ⟨hs, hholds⟩ | ⟨hs, hidle⟩
  · generalize r.loadFresh kb = result at hl hs hholds ⊢
    cases hl with
    | @loaded config b b' hconfig hactivate hpopulate =>
      have hb' := lasting_populate r.settings (.build kb.statements) b
      rw [hpopulate] at hb'
      refine .filled ⟨rfl, h.settings_eq, rfl, rfl, rfl, rfl, ?_, hb'.trans (hlasting hactivate)⟩ ?_
      · exact h.settings_eq ▸ hholds
      · rw [hverdict hconfig hactivate, hpopulate]
    | unusableSource _ => cases h.state.symm.trans hs
    | notActivated _ _ => cases h.state.symm.trans hs
    | notPopulated _ _ _ => cases h.state.symm.trans hs
  · generalize r.loadFresh kb = result at hl hs hidle ⊢
    cases hl with
    | loaded _ _ _ => cases hs
    | unusableSource hconfig =>
      refine .refused ⟨hs, h.settings_eq, hidle, h.lasting_eq⟩ rfl ?_
      simp [Recorder.verdict, hconfig]
    | @notActivated config e b _ hactivate =>
      have hok := Recorder.activate_of_idle h.idle config
      rw [hactivate] at hok
      cases hok
    | @notPopulated config e b b' hconfig hactivate hpopulate =>
      have hb' := lasting_populate r.settings (.build kb.statements) b
      rw [hpopulate] at hb'
      refine .refused ⟨hs, h.settings_eq, hidle, hb'.trans (hlasting hactivate)⟩ rfl ?_
      rw [hverdict hconfig hactivate, hpopulate]

theorem Ready.observe_eq (h : Ready lasting settings r) : r.observe kb = r :=
  observe_of_not_current (by simp [h.state, ReasonerState.Current])

theorem Ready.outcome_load (h : Ready lasting settings r) (kb : KnowledgeBase) :
    Outcome lasting settings kb (r.load kb) := by
  simpa [Reasoner.load, h.observe_eq, h.state] using outcome_loadFresh kb h

theorem Ready.outcome_prepare (h : Ready lasting settings r) (kb : KnowledgeBase) :
    Outcome lasting settings kb (r.prepare kb) := by
  simpa [Reasoner.prepare, h.observe_eq, h.state] using h.outcome_load kb

-- After unloading, nothing is left but the settings.
theorem ready_unload (hlasting : r.backend.lasting = lasting) (hsettings : r.settings = settings) :
    Ready lasting settings r.unload where
  state := rfl
  settings_eq := hsettings
  idle := Recorder.idle_stop _
  lasting_eq := hlasting

section Clearing

variable {β : Type} [Backend β]

-- What a reasoner loads into: an engine that holds nothing.
def cleared (kb : KnowledgeBase) (r : Reasoner β) : Reasoner β :=
  if r.state = .beforeLoading then r else (r.observe kb).unload

theorem load_eq_cleared {kb : KnowledgeBase} {r : Reasoner β} (hs : r.state ≠ .afterClosing) :
    r.load kb = (r.cleared kb).loadFresh kb := by
  by_cases hb : r.state = .beforeLoading
  · have hobserve : r.observe kb = r := observe_of_not_current (by simp [hb, ReasonerState.Current])
    simp [cleared, load, hobserve, hb]
  · have hs' : (r.observe kb).state ≠ .afterClosing := by simpa using hs
    have hb' : (r.observe kb).state ≠ .beforeLoading := by simpa using hb
    simp only [cleared, if_neg hb, load]

end Clearing

-- What a reasoner shows of a load, be it one that failed.
structure Alike (kb : KnowledgeBase) (r r' : Reasoner Recorder) : Prop where
  state : r.shownState kb = r'.shownState kb
  index : r.index = r'.index
  active : r.backend.active = r'.backend.active
  data : r.backend.data = r'.backend.data
  rules : r.backend.rules = r'.backend.rules

-- What it shows in addition if nothing failed.
structure AlikeLoaded (kb : KnowledgeBase) (r r' : Reasoner Recorder) : Prop where
  materialisation : r.shownMaterialisation kb = r'.shownMaterialisation kb
  completed : r.completed = r'.completed
  config : r.backend.config = r'.backend.config
  strategy : r.backend.strategy = r'.backend.strategy
  logLevel : r.backend.logLevel = r'.backend.logLevel

section Comparison

variable {lasting' : FixedAnswers × List (Bool × Option Nat)}

theorem Ready.alike (h : Ready lasting settings r) (h' : Ready lasting' settings r')
    (hindex : r.index = r'.index) : Alike kb r r' where
  state := by simp [shownState, h.state, h'.state]
  index := hindex
  active := h.idle.active.trans h'.idle.active.symm
  data := h.idle.data.trans h'.idle.data.symm
  rules := h.idle.rules.trans h'.idle.rules.symm

theorem Filled.alike (h : Filled lasting settings kb r) (h' : Filled lasting' settings kb r') :
    Alike kb r r' ∧ AlikeLoaded kb r r' := by
  have hstate : r.shownState kb = r'.shownState kb := by
    simp [shownState, advanced, h.state, h'.state, h.version, h'.version]
  refine ⟨⟨hstate, ?_, ?_, ?_, ?_⟩, ?_, ?_, ?_, ?_, ?_⟩
  · rw [h.index, h'.index]
  · rw [h.holds.active, h'.holds.active]
  · exact h.holds.data_eq h'.holds
  · rw [h.holds.rules, h'.holds.rules]
  · simp [shownMaterialisation, hstate, h.materialisation, h'.materialisation]
  · rw [h.completed, h'.completed]
  · exact h.holds.config_eq h'.holds
  · rw [h.holds.strategy, h'.holds.strategy]
  · rw [h.holds.logLevel, h'.holds.logLevel]

-- A run of what has been loaded.
def conclude {β : Type} [Backend β] (r : Reasoner β) : Except ReasonerError Bool × Reasoner β :=
  match r.launch with
  | (.error e, r) => (.error (.ofBackend e), r)
  | (.ok completed, r) => (.ok completed, r.record completed)

-- A run is recorded, and how it ends was known before.
theorem Filled.launch_eq (h : Filled lasting settings kb r) :
    r.launch =
      (match lasting.1.failure with
        | some message => .error (.materialization message)
        | none => .ok (lasting.1.completes || settings.timeoutSeconds.isNone),
      { r with
        state := .afterReasoning
        backend := { r.backend with
          runs := lasting.2 ++
            [(decide (settings.algorithm = .skolemChase), settings.timeoutSeconds)] } }) := by
  have hanswers : r.backend.answers = lasting.1 := congrArg Prod.fst h.lasting_eq
  have hruns : r.backend.runs = lasting.2 := congrArg Prod.snd h.lasting_eq
  have hrun : Backend.materialize (r.settings.algorithm = .skolemChase)
      r.settings.timeoutSeconds r.backend = _ :=
    Recorder.materialize.eq_def _ _ _
  unfold launch
  rw [hrun]
  simp only [h.holds.active, h.settings_eq, hanswers, hruns]
  cases lasting.1.failure <;> rfl

theorem Filled.conclude (h : Filled lasting settings kb r)
    (h' : Filled lasting' settings kb r') (hanswers : lasting.1 = lasting'.1) :
    r.conclude.1 = r'.conclude.1 ∧ Alike kb r.conclude.2 r'.conclude.2 ∧
      AlikeLoaded kb r.conclude.2 r'.conclude.2 ∧
      ∃ call, r.conclude.2.backend.runs = lasting.2 ++ [call] ∧
        r'.conclude.2.backend.runs = lasting'.2 ++ [call] := by
  obtain ⟨ha, hl⟩ := h.alike h'
  unfold Reasoner.conclude
  rw [h.launch_eq, h'.launch_eq, hanswers]
  cases lasting'.1.failure with
  | some message =>
    refine ⟨rfl, ⟨?_, ha.index, ha.active, ha.data, ha.rules⟩,
      ⟨?_, hl.completed, hl.config, hl.strategy, hl.logLevel⟩, _, rfl, rfl⟩
    · simp [shownState, advanced, h.version, h'.version]
    · simp [shownMaterialisation, shownState, advanced, h.version, h'.version, h.materialisation,
        h'.materialisation]
  | none =>
    refine ⟨rfl, ⟨?_, ha.index, ha.active, ha.data, ha.rules⟩,
      ⟨?_, rfl, hl.config, hl.strategy, hl.logLevel⟩, _, rfl, rfl⟩
    · simp [shownState, advanced, h.version, h'.version, record]
    · simp [shownMaterialisation, shownState, advanced, h.version, h'.version, record]

theorem reason_eq_conclude (kb : KnowledgeBase) (r : Reasoner Recorder) :
    r.reason kb =
      match r.prepare kb with
      | (.error e, r) => (.error e, r)
      | (.ok (), r) => r.conclude := by
  unfold reason Reasoner.conclude
  rcases r.prepare kb with ⟨e | _, r'⟩ <;> rfl

theorem Outcome.alike {p p' : Except ReasonerError Unit × Reasoner Recorder}
    (h : Outcome lasting settings kb p) (h' : Outcome lasting' settings kb p')
    (hanswers : lasting.1 = lasting'.1) :
    p.1 = p'.1 ∧ Alike kb p.2 p'.2 ∧ (p.1 = .ok () → AlikeLoaded kb p.2 p'.2) := by
  cases h with
  | filled hf hverdict =>
    rw [hanswers] at hverdict
    cases h' with
    | filled hf' _ => exact ⟨rfl, (hf.alike hf').1, fun _ => (hf.alike hf').2⟩
    | refused _ _ hverdict' => cases hverdict.symm.trans hverdict'
  | refused hr hindex hverdict =>
    rw [hanswers] at hverdict
    cases h' with
    | filled _ hverdict' => cases hverdict.symm.trans hverdict'
    | refused hr' hindex' hverdict' =>
      exact ⟨hverdict.symm.trans hverdict', hr.alike hr' (hindex.trans hindex'.symm), nofun⟩

theorem Outcome.reason_alike (h : Outcome lasting settings kb (r.prepare kb))
    (h' : Outcome lasting' settings kb (r'.prepare kb)) (hanswers : lasting.1 = lasting'.1) :
    (r.reason kb).1 = (r'.reason kb).1 ∧ Alike kb (r.reason kb).2 (r'.reason kb).2 ∧
      ((r.prepare kb).1 = .ok () →
        AlikeLoaded kb (r.reason kb).2 (r'.reason kb).2 ∧
        ∃ call, (r.reason kb).2.backend.runs = lasting.2 ++ [call] ∧
          (r'.reason kb).2.backend.runs = lasting'.2 ++ [call]) := by
  obtain ⟨hresult, halike, -⟩ := h.alike h' hanswers
  simp only [reason_eq_conclude]
  generalize r.prepare kb = p at h hresult halike ⊢
  generalize r'.prepare kb = p' at h' hresult halike ⊢
  cases h with
  | filled hf _ =>
    cases h' with
    | filled hf' _ =>
      obtain ⟨hr, ha, hl, hcall⟩ := hf.conclude hf' hanswers
      exact ⟨hr, ha, fun _ => ⟨hl, hcall⟩⟩
    | refused _ _ _ => cases hresult
  | refused _ _ _ =>
    cases h' with
    | filled _ _ => cases hresult
    | refused _ _ _ =>
      obtain rfl := Except.error.inj hresult
      exact ⟨rfl, halike, nofun⟩

end Comparison

-- A new reasoner with settings that a reasoner can have.
theorem configured_ready (answers : FixedAnswers) {settings : ReasonerSettings}
    (htimeout : settings.timeoutSeconds ≠ some 0) :
    ∃ fresh, configured ({ answers := answers } : Recorder) settings = .ok fresh ∧
      Ready (answers, []) settings fresh :=
  ⟨_, if_neg htimeout, rfl, rfl, ⟨rfl, rfl, rfl⟩, rfl⟩

end Reasoner

-- What a reasoner over a recorder with fixed answers never loses.
structure Settled (answers : FixedAnswers) (w : Workspace Recorder) : Prop where
  answers_eq : w.reasoner.backend.answers = answers
  timeout : w.reasoner.settings.timeoutSeconds ≠ some 0
  mirrored : Mirrored id w
  accepted : w.reasoner.state.Loaded → Recorder.verdict answers w.reasoner.index = .ok ()
  pending : w.reasoner.state = .afterLoading →
    w.reasoner.materialisation = .incomplete ∧ w.reasoner.completed = false

namespace Settled

open Reasoner

variable {answers : FixedAnswers} {kb : KnowledgeBase} {r : Reasoner Recorder}

theorem markChanged (h : Settled answers ⟨kb, r⟩) : Settled answers ⟨kb, r.markChanged⟩ := by
  have hm := h.mirrored.markChanged
  by_cases hc : r.state.Current
  · rw [markChanged_of_current hc] at hm ⊢
    exact ⟨h.answers_eq, h.timeout, hm, fun _ => h.accepted hc.loaded, nofun⟩
  · rwa [markChanged_of_not_current hc]

theorem of_ready {runs : List (Bool × Option Nat)} {settings : ReasonerSettings}
    (htimeout : settings.timeoutSeconds ≠ some 0) (h : Ready (answers, runs) settings r) :
    Settled answers ⟨kb, r⟩ where
  answers_eq := congrArg Prod.fst h.lasting_eq
  timeout := h.settings_eq ▸ htimeout
  mirrored := ⟨fun hl => by simp [h.state, ReasonerState.Loaded] at hl, fun _ => h.idle⟩
  accepted hl := by simp [h.state, ReasonerState.Loaded] at hl
  pending hs := by simp [h.state] at hs

theorem load (h : Settled answers ⟨kb, r⟩) (hs : r.state = .beforeLoading) :
    Settled answers ⟨kb, (r.loadFresh kb).2⟩ := by
  have hready : Ready (answers, r.backend.runs) r.settings r :=
    ⟨hs, rfl, h.mirrored.idle (by simp [hs, ReasonerState.Loaded]),
      Prod.ext h.answers_eq rfl⟩
  have hm := Mirrored.load Recorder.shadows_id h.mirrored hs
  have ho := outcome_loadFresh kb hready
  generalize r.loadFresh kb = result at hm ho ⊢
  cases ho with
  | filled hf hverdict =>
    refine ⟨congrArg Prod.fst hf.lasting_eq, ?_, hm, fun _ => ?_, fun _ => ?_⟩
    · exact hf.settings_eq ▸ h.timeout
    · exact hf.index ▸ hverdict
    · exact ⟨hf.materialisation, hf.completed⟩
  | refused hr _ _ => exact of_ready h.timeout hr

theorem run (h : Settled answers ⟨kb, r⟩) (counts : Bool) (hs : r.state = .afterLoading) :
    Settled answers ⟨kb, r.finish counts⟩ := by
  have hm := Mirrored.run Recorder.shadows_id h.mirrored counts hs
  have haccepted := h.accepted (by simp [hs, ReasonerState.Loaded])
  have hanswers (skolem : Bool) (timeout : Option Nat) :
      (Backend.materialize skolem timeout r.backend).2.answers = answers := by
    change (Recorder.materialize skolem timeout r.backend).2.answers = _
    unfold Recorder.materialize
    split
    · exact h.answers_eq
    · simp only
      split <;> exact h.answers_eq
  have hrunning := r.running_finish counts
  generalize r.runEvents counts = events at hrunning
  generalize r.finish counts = r' at hrunning hm ⊢
  cases hrunning with
  | ended hrun =>
    refine ⟨?_, h.timeout, hm, fun _ => haccepted, fun hs => by cases hs⟩
    rw [← hanswers (r.settings.algorithm = .skolemChase) r.settings.timeoutSeconds, hrun]
  | failed hrun =>
    refine ⟨?_, h.timeout, hm, fun _ => haccepted, fun hs => by cases hs⟩
    rw [← hanswers (r.settings.algorithm = .skolemChase) r.settings.timeoutSeconds, hrun]

-- One move of a workspace.
theorem move {e : List Event} {w w' : Workspace Recorder} (h : Settled answers w)
    (hm : Move (fun b b' => id b' = id b) e w w') : Settled answers w' := by
  have hmirrored := h.mirrored.move Recorder.shadows_id hm
  cases hm with
  | edit _ => exact ⟨h.answers_eq, h.timeout, hmirrored, h.accepted, h.pending⟩
  | drift hb =>
    obtain rfl := hb
    exact ⟨h.answers_eq, h.timeout, hmirrored, h.accepted, h.pending⟩
  | observe =>
    unfold Reasoner.observe
    split
    · exact h.markChanged
    · exact h
  | notify => exact h.markChanged
  | unload _ => exact ⟨h.answers_eq, h.timeout, hmirrored, nofun, nofun⟩
  | close hs =>
    rw [close_of_open hs] at hmirrored ⊢
    exact ⟨h.answers_eq, h.timeout, hmirrored, nofun, nofun⟩
  | load hs => exact h.load hs
  | run counts hs => exact h.run counts hs
  | configure settings _ _ htimeout =>
    exact ⟨h.answers_eq, fun hz => h.timeout (htimeout hz), hmirrored, h.accepted, h.pending⟩
  | setLogLevel level _ => exact ⟨h.answers_eq, h.timeout, hmirrored, h.accepted, h.pending⟩
  | setLogFile path _ => exact ⟨h.answers_eq, h.timeout, hmirrored, h.accepted, h.pending⟩

theorem ready_cleared {w : Workspace Recorder} (h : Settled answers w) :
    Ready (answers, w.reasoner.backend.runs) w.reasoner.settings (w.reasoner.cleared w.kb) := by
  have hlasting : w.reasoner.backend.lasting = (answers, w.reasoner.backend.runs) :=
    Prod.ext h.answers_eq rfl
  unfold Reasoner.cleared
  split
  next hb => exact ⟨hb, rfl, h.mirrored.idle (by simp [hb, ReasonerState.Loaded]), hlasting⟩
  next => exact ready_unload (by simpa using hlasting) (by simp)

theorem outcome_load {w : Workspace Recorder} (h : Settled answers w)
    (hs : w.reasoner.state ≠ .afterClosing) :
    Outcome (answers, w.reasoner.backend.runs) w.reasoner.settings w.kb
      (w.reasoner.load w.kb) := by
  rw [load_eq_cleared hs]
  exact outcome_loadFresh w.kb h.ready_cleared

-- A reasoner that has loaded and finds the knowledge base unchanged.
theorem filled {h : List Event} (hsettled : Settled answers ⟨kb, r⟩) (ht : Tracks h ⟨kb, r⟩)
    (hs : (r.observe kb).state = .afterLoading) :
    r.observe kb = r ∧ Filled (answers, r.backend.runs) r.settings kb r := by
  rcases observe_cases kb r with ⟨-, hr⟩ | ⟨ha, hr⟩
  · simp [hr] at hs
  · rw [hr] at hs
    have hl : r.state.Loaded := by simp [hs, ReasonerState.Loaded]
    obtain ⟨kb', hremembers⟩ := ht.remembers hl
    have hversion : r.loadedVersion = some kb'.version := hremembers.version
    have hkb : kb' = kb := by
      refine hremembers.eq_of_version ?_
      have ha := ha (by simp [hs, ReasonerState.Current])
      have he : kb.version = kb'.version := by simpa [advanced, hversion] using ha
      exact he.symm
    obtain ⟨hm, hc⟩ := hsettled.pending hs
    have hindex : r.index = .build kb.statements := hkb ▸ hremembers.index
    refine ⟨hr, hs, rfl, hindex, hkb ▸ hversion, hm, hc, ?_, Prod.ext hsettled.answers_eq rfl⟩
    exact hindex ▸ hsettled.mirrored.holds hl

theorem outcome_prepare {h : List Event} {w : Workspace Recorder} (hsettled : Settled answers w)
    (ht : Tracks h w) (hs : w.reasoner.state ≠ .afterClosing) :
    Outcome (answers, w.reasoner.backend.runs) w.reasoner.settings w.kb
      (w.reasoner.prepare w.kb) := by
  obtain ⟨kb, r⟩ := w
  have hunload : Ready (answers, r.backend.runs) r.settings (r.observe kb).unload := by
    have hlasting : r.backend.lasting = (answers, r.backend.runs) :=
      Prod.ext hsettled.answers_eq rfl
    exact ready_unload (by simpa using hlasting) (by simp)
  unfold Reasoner.prepare
  cases hobserved : (r.observe kb).state with
  | beforeLoading => simpa [hobserved] using hsettled.outcome_load hs
  | afterLoading =>
    obtain ⟨hr, hfilled⟩ := hsettled.filled ht hobserved
    have hverdict := hsettled.accepted (by simp [hfilled.state, ReasonerState.Loaded])
    simp only [hobserved]
    rw [hr]
    exact .filled hfilled (hfilled.index ▸ hverdict)
  | afterReasoning => simpa [hobserved] using hunload.outcome_load kb
  | knowledgeBaseChanged => simpa [hobserved] using hunload.outcome_load kb
  | afterClosing => exact absurd (by simpa using hobserved) hs

theorem of_opened (hopened : Opened ({ answers := answers } : Recorder) r) :
    Settled answers ⟨kb, r⟩ := by
  cases hopened with
  | new =>
    have hready : Ready (answers, []) {} (.new ({ answers := answers } : Recorder)) :=
      ⟨rfl, rfl, ⟨rfl, rfl, rfl⟩, rfl⟩
    exact of_ready (by simp) hready
  | @configured settings _ h =>
    have htimeout : settings.timeoutSeconds ≠ some 0 := by
      intro hz
      simp [configured, hz] at h
    obtain ⟨fresh, hfresh, hready⟩ := configured_ready answers htimeout
    obtain rfl := Except.ok.inj (hfresh.symm.trans h)
    exact of_ready htimeout hready

end Settled

open Reasoner

-- What was done before does not matter: whatever has been loaded, run, changed, reset or failed, a
-- reasoner that is not closed loads and reasons as a new one would with its settings. A run is
-- started with the same arguments, and the same is known of its result.
theorem fresh_of_run {answers : FixedAnswers} {r : Reasoner Recorder} {kb : KnowledgeBase}
    {steps : List (Workspace Recorder × Action)} {w : Workspace Recorder}
    (hopened : Opened ({ answers := answers } : Recorder) r)
    (hrun : Run (fun _ _ => False) ⟨kb, r⟩ steps w) (hs : w.reasoner.state ≠ .afterClosing) :
    ∃ fresh, configured ({ answers := answers } : Recorder) w.reasoner.settings = .ok fresh ∧
      ((w.reasoner.load w.kb).1 = (fresh.load w.kb).1 ∧
        Alike w.kb (w.reasoner.load w.kb).2 (fresh.load w.kb).2 ∧
        ((w.reasoner.load w.kb).1 = .ok () →
          AlikeLoaded w.kb (w.reasoner.load w.kb).2 (fresh.load w.kb).2)) ∧
      ((w.reasoner.reason w.kb).1 = (fresh.reason w.kb).1 ∧
        Alike w.kb (w.reasoner.reason w.kb).2 (fresh.reason w.kb).2 ∧
        ((w.reasoner.prepare w.kb).1 = .ok () →
          AlikeLoaded w.kb (w.reasoner.reason w.kb).2 (fresh.reason w.kb).2 ∧
          ∃ call,
            (w.reasoner.reason w.kb).2.backend.runs = w.reasoner.backend.runs ++ [call] ∧
            (fresh.reason w.kb).2.backend.runs = [call])) := by
  have ht := hrun.tracks hopened.state_eq
  have hsettled : Settled answers w :=
    (hrun.mono fun _ _ => False.elim).moves.invariant (I := fun _ w => Settled answers w) .move []
      (.of_opened hopened)
  obtain ⟨fresh, hfresh, hready⟩ := configured_ready answers hsettled.timeout
  refine ⟨fresh, hfresh, ?_, ?_⟩
  · exact (hsettled.outcome_load hs).alike (hready.outcome_load w.kb) rfl
  · simpa using (hsettled.outcome_prepare ht hs).reason_alike (hready.outcome_prepare w.kb) rfl

-- After a run, another run loads anew and is recorded as the first one of a new reasoner.
theorem fresh_withFactReasoned :
    ∃ fresh, configured ({} : Recorder) Workspace.withFactReasoned.reasoner.settings = .ok fresh ∧
      (Workspace.withFactReasoned.reasoner.reason Workspace.withFactReasoned.kb).1 =
        (fresh.reason Workspace.withFactReasoned.kb).1 ∧
      ∃ call,
        (Workspace.withFactReasoned.reasoner.reason
          Workspace.withFactReasoned.kb).2.backend.runs =
            Workspace.withFactReasoned.reasoner.backend.runs ++ [call] ∧
        (fresh.reason Workspace.withFactReasoned.kb).2.backend.runs = [call] := by
  have hrun : Run (fun _ _ => False) Workspace.withFact Workspace.withFactSteps
      Workspace.withFactReasoned :=
    .action .reason (.action .load .start)
  have hopened : Opened ({ answers := {} } : Recorder) Workspace.withFact.reasoner := .new
  obtain ⟨fresh, hfresh, -, hresult, -, hloaded⟩ := fresh_of_run hopened hrun (by decide +kernel)
  exact ⟨fresh, hfresh, hresult, (hloaded rfl).2⟩

end Rulebook
