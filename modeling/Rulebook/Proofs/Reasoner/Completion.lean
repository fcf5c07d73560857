import Rulebook.Proofs.Reasoner.Mirror
import Rulebook.Proofs.Reasoner.Refusal

namespace Rulebook

-- What is done to an engine for the sake of a result.
inductive Deed
  | loaded (kb : KnowledgeBase)
  | ran (outcome : Except BackendError Bool)

def Event.deed? : Event → Option Deed
  | loaded kb => some (.loaded kb)
  | _ => none

variable {β : Type}

-- Success and failure of a load. What was known of the result before is known after a failure.
inductive Reasoner.LoadResult (kb : KnowledgeBase) (r : Reasoner β) :
    Except ReasonerError Unit × Reasoner β → Prop
  | done {r' : Reasoner β} (hs : r'.state = .afterLoading) (hm : r'.materialisation = .incomplete)
      (hv : r'.loadedVersion = some kb.version) : LoadResult kb r (.ok (), r')
  | failed {e : ReasonerError} {r' : Reasoner β} (hs : ¬r'.state.Loaded)
      (hm : r'.materialisation = (r.observe kb).materialisation) : LoadResult kb r (.error e, r')

-- What anything but a load or a run makes of a reasoner.
inductive Workspace.Aftermath (kb : KnowledgeBase) (r r' : Reasoner β) : Prop
  | kept (hs : r'.state = r.state) (hm : r'.materialisation = r.materialisation)
      (hv : r'.loadedVersion = r.loadedVersion)
  | noted (hs : r'.state = .knowledgeBaseChanged) (hm : r'.materialisation = .wrong)
  | reset (hs : r'.state = .beforeLoading)
      (hm : r'.materialisation = (r.observe kb).materialisation)
  | closed (hs : r'.state = .afterClosing) (hm : r'.materialisation = r.materialisation)

namespace Workspace

-- What a reasoner says of its result is accounted for.
structure Accounts (deeds : List Deed) (w : Workspace β) : Prop where
  loaded : w.reasoner.state = .afterLoading →
    ∃ kb rest, deeds = .loaded kb :: rest ∧ w.reasoner.loadedVersion = some kb.version
  complete : w.reasoner.state.Current → w.reasoner.materialisation = .complete →
    ∃ kb rest, deeds = .ran (.ok true) :: .loaded kb :: rest ∧
      w.reasoner.loadedVersion = some kb.version
  ran : w.reasoner.materialisation = .complete → .ran (.ok true) ∈ deeds

namespace Accounts

variable {deeds : List Deed} {w w' : Workspace β} {kb : KnowledgeBase} {r : Reasoner β}

theorem of_not_current (hs : ¬w.reasoner.state.Current)
    (hran : w.reasoner.materialisation = .complete → .ran (.ok true) ∈ deeds) :
    Accounts deeds w where
  loaded ha := absurd (by simp [ha, ReasonerState.Current]) hs
  complete hc := absurd hc hs
  ran := hran

theorem congr (h : Accounts deeds w) (hs : w'.reasoner.state = w.reasoner.state)
    (hm : w'.reasoner.materialisation = w.reasoner.materialisation)
    (hv : w'.reasoner.loadedVersion = w.reasoner.loadedVersion) : Accounts deeds w' where
  loaded ha := by
    rw [hv]
    exact h.loaded (hs ▸ ha)
  complete hc hcomplete := by
    rw [hv]
    exact h.complete (hs ▸ hc) (hm ▸ hcomplete)
  ran hcomplete := h.ran (hm ▸ hcomplete)

-- To note a change makes nothing complete.
theorem ran_observe (h : Accounts deeds ⟨kb, r⟩)
    (hm : (r.observe kb).materialisation = .complete) : .ran (.ok true) ∈ deeds := by
  rcases r.observe_cases kb with ⟨-, hr⟩ | ⟨-, hr⟩
  · simp [hr] at hm
  · exact h.ran (hr ▸ hm)

theorem aftermath (h : Accounts deeds ⟨kb, r⟩) {kb' : KnowledgeBase} {r' : Reasoner β}
    (ha : Aftermath kb r r') : Accounts deeds ⟨kb', r'⟩ := by
  cases ha with
  | kept hs hm hv => exact h.congr hs hm hv
  | noted hs hm => exact of_not_current (by simp [hs, ReasonerState.Current]) (by simp [hm])
  | reset hs hm =>
    exact of_not_current (by simp [hs, ReasonerState.Current]) fun hc => h.ran_observe (hm ▸ hc)
  | closed hs hm =>
    exact of_not_current (by simp [hs, ReasonerState.Current]) fun hc => h.ran (hm ▸ hc)

theorem loadResult (h : Accounts deeds ⟨kb, r⟩) {result : Except ReasonerError Unit × Reasoner β}
    (hl : Reasoner.LoadResult kb r result) :
    Accounts ((Event.ofLoad kb result.1).filterMap Event.deed? ++ deeds) ⟨kb, result.2⟩ := by
  cases hl with
  | @done result hs hm hv =>
    have hincomplete : result.materialisation ≠ .complete := by simp [hm]
    exact ⟨fun _ => ⟨kb, deeds, rfl, hv⟩, fun _ hc => absurd hc hincomplete,
      fun hc => absurd hc hincomplete⟩
  | failed hs hm => exact of_not_current (fun hc => hs hc.loaded) fun hc => h.ran_observe (hm ▸ hc)

end Accounts

end Workspace

variable [Backend β]

-- How the engine ends a run, if there is one.
def Reasoner.outcome? (kb : KnowledgeBase) (r : Reasoner β) : Option (Except BackendError Bool) :=
  match r.prepare kb with
  | (.error _, _) => none
  | (.ok (), r) => some r.launch.1

def Workspace.outcome? (w : Workspace β) : Action → Option (Except BackendError Bool)
  | .reason | .supervise _ _ => w.reasoner.outcome? w.kb
  | _ => none

-- The deeds of an action, the latest first. A run comes after the load that it needs.
def Workspace.deeds (w : Workspace β) (a : Action) : List Deed :=
  (w.outcome? a).toList.map .ran ++ (w.events a).filterMap Event.deed?

-- The deeds of a run, the latest first.
def Run.deeds (steps : List (Workspace β × Action)) : List Deed :=
  steps.flatMap fun step => step.1.deeds step.2

namespace Reasoner

theorem loadResult_loadFresh (kb : KnowledgeBase) {r : Reasoner β} (hs : r.state = .beforeLoading) :
    LoadResult kb r (r.loadFresh kb) := by
  have hl := r.loading_loadFresh kb
  have hn : ¬r.state.Loaded := by simp [hs, ReasonerState.Loaded]
  have hobserve : r.observe kb = r :=
    observe_of_not_current (by simp [hs, ReasonerState.Current])
  generalize r.loadFresh kb = result at hl ⊢
  cases hl with
  | loaded _ _ _ => exact .done rfl rfl rfl
  | unusableSource _ => exact .failed hn (by rw [hobserve])
  | notActivated _ _ => exact .failed hn (by rw [hobserve])
  | notPopulated _ _ _ => exact .failed hn (by rw [hobserve])

theorem loadResult_load (kb : KnowledgeBase) (r : Reasoner β) : LoadResult kb r (r.load kb) := by
  have hfresh {r' : Reasoner β} (hs : r'.state = .beforeLoading)
      (hm : r'.materialisation = (r.observe kb).materialisation) :
      LoadResult kb r (r'.loadFresh kb) := by
    have h := loadResult_loadFresh kb hs
    have hobserve : r'.observe kb = r' :=
      observe_of_not_current (by simp [hs, ReasonerState.Current])
    generalize r'.loadFresh kb = result at h ⊢
    cases h with
    | done hs hm' hv => exact .done hs hm' hv
    | failed hs hm' => exact .failed hs (hm'.trans (by rw [hobserve, hm]))
  unfold load
  simp only
  split
  next hs => exact .failed (by simp [hs, ReasonerState.Loaded]) rfl
  next hs => exact hfresh hs rfl
  next => exact hfresh rfl rfl

-- Before a run there is a load, unless one has just been done.
theorem loadResult_prepare (kb : KnowledgeBase) (r : Reasoner β) :
    (r.observe kb).state = .afterLoading ∧ r.prepare kb = (.ok (), r) ∨
      (r.observe kb).state ≠ .afterLoading ∧ LoadResult kb r (r.prepare kb) := by
  have hload {r' : Reasoner β}
      (hm : (r'.observe kb).materialisation = (r.observe kb).materialisation) :
      LoadResult kb r (r'.load kb) := by
    have h := loadResult_load kb r'
    generalize r'.load kb = result at h ⊢
    cases h with
    | done hs hm' hv => exact .done hs hm' hv
    | failed hs hm' => exact .failed hs (hm'.trans hm)
  have hunload : ((r.observe kb).unload.observe kb).materialisation =
      (r.observe kb).materialisation := by
    rw [observe_of_not_current (r := (r.observe kb).unload) id]
    rfl
  unfold prepare
  simp only
  cases hs : (r.observe kb).state with
  | beforeLoading => exact .inr ⟨nofun, hload (by rw [observe_observe])⟩
  | afterLoading =>
    rcases r.observe_cases kb with ⟨-, hr⟩ | ⟨-, hr⟩
    · rw [hr] at hs
      cases hs
    · exact .inl ⟨rfl, by simp [hr]⟩
  | afterReasoning => exact .inr ⟨nofun, hload hunload⟩
  | knowledgeBaseChanged => exact .inr ⟨nofun, hload hunload⟩
  | afterClosing => exact .inr ⟨nofun, .failed (by simp [hs, ReasonerState.Loaded]) rfl⟩

end Reasoner

namespace Workspace

theorem aftermath_perform {w : Workspace β} {a : Action} (ha : ¬a.Derives) :
    Aftermath w.kb w.reasoner (w.perform a).2.reasoner := by
  cases a with
  | load | reason | supervise => exact absurd trivial ha
  | reset =>
    simp only [perform, act, Reasoner.reset]
    split
    next hs =>
      rw [Reasoner.observe_of_closed w.kb (Reasoner.observe_state_eq_afterClosing.mp hs)]
      exact .kept rfl rfl rfl
    next => exact .reset rfl rfl
  | close =>
    by_cases hs : w.reasoner.state = .afterClosing
    · simp only [perform, Reasoner.close, hs]
      exact .kept rfl rfl rfl
    · exact .closed w.reasoner.state_close (by simp only [perform, Reasoner.close])
  | notify =>
    by_cases hc : w.reasoner.state.Current
    · simp only [perform, Reasoner.markChanged_of_current hc]
      exact .noted rfl rfl
    · simp only [perform, Reasoner.markChanged_of_not_current hc]
      exact .kept rfl rfl rfl
  | setTimeout seconds =>
    simp only [perform, act, Reasoner.setTimeout]
    split <;> exact .kept rfl rfl rfl
  | setHeadStrategy strategy =>
    simp only [perform, act, Reasoner.setHeadStrategy]
    rcases w.reasoner.observe_cases w.kb with ⟨-, hr⟩ | ⟨-, hr⟩
    · rw [hr]
      exact .noted rfl rfl
    · rw [hr]
      split <;> exact .kept rfl rfl rfl
  | setLogLevel level =>
    simp only [perform, act, Reasoner.setLogLevel]
    split <;> exact .kept rfl rfl rfl
  | setLogFile path =>
    simp only [perform, act, Reasoner.setLogFile]
    split
    · exact .kept rfl rfl rfl
    · split <;> exact .kept rfl rfl rfl
  | _ => exact .kept rfl rfl rfl

theorem deeds_of_not_derives {w : Workspace β} {a : Action} (ha : ¬a.Derives) :
    w.deeds a = [] := by
  have hquiet {w' : Workspace β} :
      (if w'.kb.version = w.kb.version then [] else [Event.changed]).filterMap Event.deed? =
        [] := by
    split <;> rfl
  cases a with
  | load | reason | supervise => exact absurd trivial ha
  | notify => rfl
  | _ => exact hquiet

-- All that is loaded for a run is loaded before it.
theorem filterMap_reasonEvents (counts : Bool) (kb : KnowledgeBase) (r : Reasoner β) :
    (r.reasonEvents counts kb).filterMap Event.deed? =
      (r.prepareEvents kb).filterMap Event.deed? := by
  have hrun (r' : Reasoner β) : (r'.runEvents counts).filterMap Event.deed? = [] := by
    unfold Reasoner.runEvents
    split
    · split <;> rfl
    · rfl
  unfold Reasoner.reasonEvents
  split
  · rfl
  · rw [List.filterMap_append, hrun, List.nil_append]

namespace Accounts

variable {deeds : List Deed} {w : Workspace β} {kb : KnowledgeBase} {r : Reasoner β}

-- Nothing is known to be complete before the run.
theorem run (h : Accounts deeds ⟨kb, r⟩) (counts : Bool) (hs : r.state = .afterLoading) :
    Accounts (.ran r.launch.1 :: deeds) ⟨kb, r.finish counts⟩ := by
  obtain ⟨loaded, rest, hdeeds, hv⟩ := h.loaded hs
  have hincomplete : r.materialisation ≠ .complete := by
    intro hm
    obtain ⟨_, _, hran, -⟩ := h.complete (by simp [hs, ReasonerState.Current]) hm
    simp [hdeeds] at hran
  unfold Reasoner.launch
  have hrunning := r.running_finish counts
  generalize r.runEvents counts = events at hrunning
  generalize r.finish counts = r' at hrunning ⊢
  cases hrunning with
  | @ended completed b hrun =>
    have hran (hm : (if completed && counts then Materialisation.complete else .incomplete) =
        .complete) : completed = true := by
      cases completed with
      | true => rfl
      | false => simp at hm
    refine ⟨by rintro ⟨⟩, fun _ hm => ⟨loaded, rest, ?_, hv⟩, fun hm => ?_⟩
    · rw [hrun, hran hm, hdeeds]
    · rw [hrun, hran hm]
      exact List.mem_cons_self
  | failed _ =>
    exact ⟨by rintro ⟨⟩, fun _ hm => absurd hm hincomplete, fun hm => absurd hm hincomplete⟩

theorem reasoned (h : Accounts deeds ⟨kb, r⟩) (counts : Bool) :
    Accounts (((r.outcome? kb).toList.map .ran ++
      (r.reasonEvents counts kb).filterMap Event.deed?) ++ deeds) ⟨kb, r.reasoned counts kb⟩ := by
  have hprepare : Accounts ((r.prepareEvents kb).filterMap Event.deed? ++ deeds)
      ⟨kb, (r.prepare kb).2⟩ := by
    unfold Reasoner.prepareEvents
    rcases r.loadResult_prepare kb with ⟨hs, hp⟩ | ⟨hs, hp⟩
    · simpa [hs, hp] using h
    · simpa [hs] using h.loadResult hp
  rw [filterMap_reasonEvents]
  unfold Reasoner.outcome? Reasoner.reasoned
  rcases hp : r.prepare kb with ⟨e | _, r'⟩
  · simpa [hp] using hprepare
  · have hs := Reasoner.state_of_prepare_ok (congrArg Prod.fst hp)
    rw [hp] at hprepare hs
    exact hprepare.run counts hs

theorem perform (h : Accounts deeds w) (a : Action) :
    Accounts (w.deeds a ++ deeds) (w.perform a).2 := by
  by_cases ha : a.Derives
  · cases a with
    | load => exact h.loadResult (w.reasoner.loadResult_load w.kb)
    | reason =>
      have hreasoned := h.reasoned true
      rwa [← Reasoner.reason_eq_reasoned] at hreasoned
    | supervise limit pace =>
      have hreasoned := h.reasoned (pace = .withinLimit)
      rwa [← Reasoner.superviseReason_eq_reasoned w.kb limit] at hreasoned
    | _ => exact ha.elim
  · rw [deeds_of_not_derives ha]
    exact h.aftermath (aftermath_perform ha)

end Accounts

end Workspace

theorem Run.accounts {drift : β → β → Prop} {start w : Workspace β}
    {steps : List (Workspace β × Action)} (hstart : start.reasoner.state = .beforeLoading)
    (hm : start.reasoner.materialisation = .incomplete) (h : Run drift start steps w) :
    w.Accounts (deeds steps) := by
  induction h with
  | start =>
    exact .of_not_current (by simp [hstart, ReasonerState.Current]) (by simp [hm])
  | action a _ ih => exact ih.perform a
  | drift _ _ ih => exact ih.congr rfl rfl rfl

theorem Run.loaded_mem_history {steps : List (Workspace β × Action)} {kb : KnowledgeBase}
    (h : .loaded kb ∈ deeds steps) : .loaded kb ∈ history steps := by
  obtain ⟨step, hstep, hdeed⟩ := List.mem_flatMap.mp h
  have hevents : .loaded kb ∈ (step.1.events step.2).filterMap Event.deed? := by
    rcases List.mem_append.mp hdeed with hran | hloaded
    · simp at hran
    · exact hloaded
  obtain ⟨e, he, hkb⟩ := List.mem_filterMap.mp hevents
  cases e with
  | loaded kb' =>
    obtain rfl := Deed.loaded.inj (Option.some.inj hkb)
    exact List.mem_flatMap.mpr ⟨step, hstep, he⟩
  | completed | notified | changed => cases hkb

theorem Opened.materialisation_eq {b : β} {r : Reasoner β} (h : Opened b r) :
    r.materialisation = .incomplete := by
  cases h with
  | new => rfl
  | configured h =>
    unfold Reasoner.configured at h
    split at h
    · cases h
    · obtain rfl := Except.ok.inj h
      rfl

namespace Workspace

omit [Backend β] in
-- A loaded reasoner that shows a complete result has no change to note.
theorem current_of_complete {w : Workspace β} (hl : w.reasoner.state.Loaded)
    (h : w.reasoner.shownMaterialisation w.kb = .complete) :
    w.reasoner.state.Current ∧ w.reasoner.advanced w.kb = false ∧
      w.reasoner.materialisation = .complete := by
  have hshown : w.reasoner.shownState w.kb ≠ .knowledgeBaseChanged := by
    intro hs
    simp [Reasoner.shownMaterialisation, hs] at h
  have hm : w.reasoner.materialisation = .complete := by
    unfold Reasoner.shownMaterialisation at h
    split at h
    · cases h
    · exact h
  rcases w.reasoner.observe_cases w.kb with ⟨⟨hc, ha⟩, -⟩ | ⟨ha, hr⟩
  · rcases ReasonerState.current_iff.mp hc with hs | hs <;>
      simp [Reasoner.shownState, hs, ha] at hshown
  · rw [Reasoner.shownState_eq_state_iff.mpr hr] at hshown
    have hc : w.reasoner.state.Current := by
      cases hs : w.reasoner.state with
      | beforeLoading | afterClosing => simp [hs, ReasonerState.Loaded] at hl
      | knowledgeBaseChanged => exact absurd hs hshown
      | afterLoading | afterReasoning => trivial
    exact ⟨hc, ha hc, hm⟩

-- An action that ends with nothing loaded leaves what is shown of the result.
theorem shownMaterialisation_of_beforeLoading {w : Workspace β} (haware : w.Aware) {a : Action}
    (hs : (w.perform a).2.reasoner.state = .beforeLoading) :
    (w.perform a).2.reasoner.shownMaterialisation (w.perform a).2.kb =
      w.reasoner.shownMaterialisation w.kb := by
  have hfailed {result : Except ReasonerError Unit × Reasoner β}
      (hl : Reasoner.LoadResult w.kb w.reasoner result) (hs : result.2.state = .beforeLoading) :
      result.2.materialisation = (w.reasoner.observe w.kb).materialisation := by
    cases hl with
    | done hs' _ _ => simp [hs'] at hs
    | failed _ hm => exact hm
  have hreasoned {counts : Bool} (hs : (w.reasoner.reasoned counts w.kb).state = .beforeLoading) :
      (w.reasoner.reasoned counts w.kb).materialisation =
        (w.reasoner.observe w.kb).materialisation := by
    unfold Reasoner.reasoned at hs ⊢
    rcases hp : w.reasoner.prepare w.kb with ⟨e | _, r⟩
    · simp only [hp] at hs ⊢
      rcases w.reasoner.loadResult_prepare w.kb with ⟨-, hok⟩ | ⟨-, hl⟩
      · simp [hp] at hok
      · rw [hp] at hl
        exact hfailed hl hs
    · simp only [hp] at hs
      have hrunning := r.running_finish counts
      generalize r.runEvents counts = events at hrunning
      generalize r.finish counts = r' at hrunning hs
      cases hrunning <;> cases hs
  have hm : (w.perform a).2.reasoner.materialisation =
      (w.reasoner.observe w.kb).materialisation := by
    by_cases ha : a.Derives
    · cases a with
      | load => exact hfailed (w.reasoner.loadResult_load w.kb) hs
      | reason =>
        simp only [perform, act, Reasoner.reason_eq_reasoned] at hs ⊢
        exact hreasoned hs
      | supervise limit pace =>
        simp only [perform, act, Reasoner.superviseReason_eq_reasoned] at hs ⊢
        exact hreasoned hs
      | _ => exact ha.elim
    · cases aftermath_perform (w := w) ha with
      | kept hs' hm _ =>
        have hn : ¬w.reasoner.state.Current := by simp [← hs', hs, ReasonerState.Current]
        rw [hm, Reasoner.observe_of_not_current hn]
      | noted hs' _ => simp [hs'] at hs
      | reset _ hm => exact hm
      | closed hs' _ => simp [hs'] at hs
  rw [haware.shownMaterialisation_eq]
  simpa [Reasoner.shownMaterialisation, Reasoner.shownState, hs, noted] using hm

end Workspace

open Workspace

-- In every run, whatever calls fail, a complete result that is shown is that of the last run, which
-- was on the knowledge base as it is and derived everything, as long as something is loaded. With
-- nothing loaded it is that of some run before: what is shown of a result outlives it. A reset and
-- a load that fails leave it, and closing takes it from what was noted last.
theorem complete_of_run {view : β → Recorder} (hview : Shadows view) {b : β} {r : Reasoner β}
    {kb : KnowledgeBase} {steps : List (Workspace β × Action)} {w : Workspace β}
    (hidle : (view b).Idle) (hopened : Opened b r)
    (hrun : Run (fun b b' => view b' = view b) ⟨kb, r⟩ steps w) :
    (w.reasoner.shownMaterialisation w.kb = .complete →
      if (view w.reasoner.backend).active then
        (∃ rest, Run.deeds steps = .ran (.ok true) :: .loaded w.kb :: rest) ∧
          (view w.reasoner.backend).Holds (.build w.kb.statements) w.reasoner.settings
      else .ran (.ok true) ∈ Run.deeds steps ∧ (view w.reasoner.backend).Idle) ∧
    (∀ a, (w.perform a).2.reasoner.state = .beforeLoading →
      (w.perform a).2.reasoner.shownMaterialisation (w.perform a).2.kb =
        w.reasoner.shownMaterialisation w.kb) ∧
    (w.perform .close).2.reasoner.shownMaterialisation w.kb = w.reasoner.materialisation := by
  have hs := hopened.state_eq
  have hn : ¬r.state.Loaded := by simp [hs, ReasonerState.Loaded]
  have hm : Mirrored view w :=
    hrun.moves.invariant (I := fun _ w => Mirrored view w) (.move hview) []
      ⟨fun hl => absurd hl hn, fun _ => hopened.idle hview hidle⟩
  have haware : w.Aware :=
    hrun.moves.invariant (I := fun _ w => Aware w) .move [] (.of_not_loaded hn)
  have haccounts := hrun.accounts hs hopened.materialisation_eq
  refine ⟨fun hcomplete => ?_, fun a => shownMaterialisation_of_beforeLoading haware, ?_⟩
  · by_cases hl : w.reasoner.state.Loaded
    · obtain ⟨hc, ha, hcompleted⟩ := current_of_complete hl hcomplete
      obtain ⟨loaded, rest, hdeeds, hv⟩ := haccounts.complete hc hcompleted
      obtain ⟨kb', hr⟩ := (hrun.tracks hs).remembers hl
      have hversion : w.kb.version = loaded.version := by simpa [Reasoner.advanced, hv] using ha
      have hloaded : loaded ∈ Run.knowledgeBases steps w :=
        Run.mem_knowledgeBases_of_loaded (Run.loaded_mem_history (by simp [hdeeds]))
      have hkb : w.kb = loaded := hrun.eq_of_version List.mem_cons_self hloaded hversion
      have hkb' : kb' = w.kb := by
        refine hr.eq_of_version ?_
        have hv' := hr.version.symm.trans hv
        rw [hversion, Option.some.inj hv']
      have hholds := hm.holds hl
      rw [hr.index, hkb'] at hholds
      rw [if_pos hholds.active]
      exact ⟨⟨rest, hkb ▸ hdeeds⟩, hholds⟩
    · have hidle := hm.idle hl
      have hran : w.reasoner.materialisation = .complete := by
        have hs' : ¬w.reasoner.state.Current := fun hc => hl hc.loaded
        rwa [haware.shownMaterialisation_eq, noted, Reasoner.observe_of_not_current hs']
          at hcomplete
      rw [if_neg (by simp [hidle.active])]
      exact ⟨haccounts.ran hran, hidle⟩
  · have hclosed : w.reasoner.close.materialisation = w.reasoner.materialisation := by
      unfold Reasoner.close
      split <;> rfl
    simpa [perform, Reasoner.shownMaterialisation, Reasoner.shownState, w.reasoner.state_close]
      using hclosed

-- After a run on a fact the result is that of the run. It is still shown after a reset.
theorem complete_withFactReasoned :
    withFactReasoned.reasoner.backend.active = true ∧
    (∃ rest, Run.deeds withFactSteps = .ran (.ok true) :: .loaded withFactReasoned.kb :: rest) ∧
    (withFactReasoned.perform .reset).2.reasoner.shownMaterialisation withFactReasoned.kb =
      withFactReasoned.reasoner.shownMaterialisation withFactReasoned.kb := by
  have hrun : Run (fun b b' => id b' = id b) withFact withFactSteps withFactReasoned :=
    .action .reason (.action .load .start)
  have hactive : (id withFactReasoned.reasoner.backend).active = true := rfl
  obtain ⟨hcomplete, hkept, -⟩ :=
    complete_of_run Recorder.shadows_id ⟨rfl, rfl, rfl⟩ .new hrun
  have hderived := hcomplete rfl
  rw [if_pos hactive] at hderived
  exact ⟨hactive, hderived.1, hkept .reset rfl⟩

-- A reset of an empty knowledge base that was reasoned about stops the engine, and still a complete
-- result is shown.
theorem complete_of_reset :
    (run blank [.reason, .reset]).2.reasoner.state = .beforeLoading ∧
      (run blank [.reason, .reset]).2.reasoner.backend.active = false ∧
      (run blank [.reason, .reset]).2.reasoner.shownMaterialisation {} = .complete := by
  decide +kernel

end Rulebook
