import Mathlib.Data.List.Forall2
import Rulebook.Proofs.Reasoner.Noting

namespace Rulebook

variable {β : Type}

namespace Workspace

variable {w : Workspace β} {a : Action}

-- The workspace with every change noted.
def noted (w : Workspace β) : Workspace β :=
  { w with reasoner := w.reasoner.observe w.kb }

theorem noted_eq_iff : w.noted = w ↔ w.reasoner.shownState w.kb = w.reasoner.state := by
  rw [Reasoner.shownState_eq_state_iff]
  obtain ⟨kb, r⟩ := w
  simp [noted]

-- What a reasoner knows that shows itself current, and what it says when it does not.
structure Aware (w : Workspace β) : Prop where
  version : w.reasoner.state.Current →
    ∃ version, w.reasoner.loadedVersion = some version ∧ version ≤ w.kb.version
  hopeful : w.reasoner.state.Current → w.reasoner.materialisation ≠ .wrong
  wrong : w.reasoner.state = .knowledgeBaseChanged → w.reasoner.materialisation = .wrong

namespace Aware

theorem of_not_loaded (hs : ¬w.reasoner.state.Loaded) : w.Aware where
  version hc := absurd hc.loaded hs
  hopeful hc := absurd hc.loaded hs
  wrong hc := absurd (by simp [hc, ReasonerState.Loaded]) hs

theorem markChanged {kb : KnowledgeBase} {r : Reasoner β} (h : Aware ⟨kb, r⟩) :
    Aware ⟨kb, r.markChanged⟩ := by
  by_cases hc : r.state.Current
  · rw [Reasoner.markChanged_of_current hc]
    exact ⟨False.elim, False.elim, fun _ => rfl⟩
  · rwa [Reasoner.markChanged_of_not_current hc]

-- What is shown of the result is what is known of it once every change is noted.
theorem shownMaterialisation_eq (h : w.Aware) :
    w.reasoner.shownMaterialisation w.kb = w.noted.reasoner.materialisation := by
  rw [← Reasoner.shownMaterialisation_observe]
  rcases w.reasoner.observe_cases w.kb with ⟨-, hr⟩ | ⟨-, hr⟩
  · simp [noted, hr, Reasoner.shownMaterialisation, Reasoner.shownState]
  · have hshown := Reasoner.shownState_eq_state_iff.mpr hr
    simp only [noted, hr, Reasoner.shownMaterialisation, hshown]
    split
    next hs => exact (h.wrong hs).symm
    next => rfl

variable [Backend β] {drift : β → β → Prop}

theorem load {kb : KnowledgeBase} {r : Reasoner β} (hs : r.state = .beforeLoading) :
    Aware ⟨kb, (r.loadFresh kb).2⟩ := by
  have hl := r.loading_loadFresh kb
  generalize r.loadFresh kb = result at hl ⊢
  cases hl with
  | loaded _ _ _ => exact ⟨fun _ => ⟨kb.version, rfl, Nat.le_refl _⟩, nofun, nofun⟩
  | unusableSource _ => exact of_not_loaded (by simp [hs, ReasonerState.Loaded])
  | notActivated _ _ => exact of_not_loaded (by simp [hs, ReasonerState.Loaded])
  | notPopulated _ _ _ => exact of_not_loaded (by simp [hs, ReasonerState.Loaded])

theorem run {kb : KnowledgeBase} {r : Reasoner β} (h : Aware ⟨kb, r⟩) (counts : Bool)
    (hs : r.state = .afterLoading) : Aware ⟨kb, r.finish counts⟩ := by
  have hc : r.state.Current := by simp [hs, ReasonerState.Current]
  have hrunning := r.running_finish counts
  generalize r.runEvents counts = events at hrunning
  generalize r.finish counts = r' at hrunning ⊢
  cases hrunning with
  | @ended completed b _ =>
    refine ⟨fun _ => h.version hc, fun _ => ?_, fun hs => by cases hs⟩
    cases completed && counts <;> simp
  | failed _ => exact ⟨fun _ => h.version hc, fun _ => h.hopeful hc, fun hs => by cases hs⟩

-- One move of a workspace.
theorem move {e : List Event} {w w' : Workspace β} (h : w.Aware) (hm : Move drift e w w') :
    w'.Aware := by
  cases hm with
  | edit hkb =>
    refine ⟨fun hc => ?_, h.hopeful, h.wrong⟩
    obtain ⟨version, hv, hle⟩ := h.version hc
    exact ⟨version, hv, Nat.le_of_lt (Nat.lt_of_le_of_lt hle hkb)⟩
  | drift _ => exact ⟨h.version, h.hopeful, h.wrong⟩
  | observe =>
    unfold Reasoner.observe
    split
    · exact h.markChanged
    · exact h
  | notify => exact h.markChanged
  | unload _ => exact of_not_loaded id
  | close _ => exact of_not_loaded (Reasoner.not_loaded_close _)
  | load hs => exact load hs
  | run counts hs => exact h.run counts hs
  | configure settings _ _ _ => exact ⟨h.version, h.hopeful, h.wrong⟩
  | setLogLevel level _ => exact ⟨h.version, h.hopeful, h.wrong⟩
  | setLogFile path _ => exact ⟨h.version, h.hopeful, h.wrong⟩

theorem perform (h : w.Aware) (a : Action) : (w.perform a).2.Aware := by
  have hmoves : Moves (fun _ _ => False) _ w _ := .perform w a
  exact hmoves.invariant (I := fun _ w => w.Aware) .move [] h

theorem runs (h : w.Aware) (actions : List Action) : (w.run actions).2.Aware := by
  induction actions generalizing w with
  | nil => exact h
  | cons a actions ih => exact ih (h.perform a)

end Aware

variable [Backend β]

-- Do something, and tell the reasoner at once if that changed the knowledge base.
def performNotified (w : Workspace β) (a : Action) : Except ReasonerError Answer × Workspace β :=
  if (w.perform a).2.kb.version = w.kb.version then w.perform a
  else ((w.perform a).1, ((w.perform a).2.perform .notify).2)

theorem performNotified_of_version_eq (h : (w.perform a).2.kb.version = w.kb.version) :
    w.performNotified a = w.perform a :=
  if_pos h

theorem performNotified_of_not_current (h : ¬(w.perform a).2.reasoner.state.Current) :
    w.performNotified a = w.perform a := by
  unfold performNotified
  split
  · rfl
  · exact Prod.ext rfl (congrArg (Workspace.mk _) (Reasoner.markChanged_of_not_current h))

-- Noting a change after each edit and noting it at the end comes to the same.
theorem noted_edit (haware : w.Aware) {kb : KnowledgeBase}
    (hkb : kb = w.kb ∨ w.kb.version < kb.version) :
    (if kb.version = w.kb.version then { w.noted with kb := kb }
      else (({ w.noted with kb := kb } : Workspace β).perform .notify).2) =
      ({ w with kb := kb } : Workspace β).noted := by
  rcases hkb with rfl | hlt
  · simp [noted]
  · rw [if_neg (Nat.ne_of_gt hlt)]
    suffices h : (w.reasoner.observe w.kb).markChanged = w.reasoner.observe kb by
      simp [noted, Workspace.perform, h]
    by_cases hc : w.reasoner.state.Current
    · obtain ⟨version, hv, hle⟩ := haware.version hc
      have ha : w.reasoner.advanced kb = true := by
        simpa [Reasoner.advanced, hv] using Nat.ne_of_gt (Nat.lt_of_le_of_lt hle hlt)
      rw [Reasoner.observe_of_advanced ha]
      rcases w.reasoner.observe_cases w.kb with ⟨-, hr⟩ | ⟨-, hr⟩
      · rw [hr, Reasoner.markChanged_of_current hc]
        rfl
      · rw [hr]
    · rw [Reasoner.observe_of_not_current hc, Reasoner.observe_of_not_current hc,
        Reasoner.markChanged_of_not_current hc]

-- Told at once or not, an action comes to the same, unless the reasoner is closed with a change
-- that it has not noted.
theorem performNotified_noted (haware : w.Aware) (hclose : a = .close → w.noted = w) :
    w.noted.performNotified a = ((w.perform a).1, (w.perform a).2.noted) := by
  have hkb := w.kb_perform a
  have hedit {answer : Except ReasonerError Answer} {kb : KnowledgeBase}
      (hkb : kb = w.kb ∨ w.kb.version < kb.version) :
      (if kb.version = w.kb.version then (answer, { w.noted with kb := kb })
        else (answer, (({ w.noted with kb := kb } : Workspace β).perform .notify).2)) =
        (answer, ({ w with kb := kb } : Workspace β).noted) := by
    rw [← noted_edit haware hkb]
    split <;> rfl
  cases a with
  | add s => exact hedit hkb
  | addMany ss => exact hedit hkb
  | remove s => exact hedit hkb
  | notify =>
    rw [performNotified_of_version_eq rfl]
    refine Prod.ext rfl (congrArg (Workspace.mk w.kb) ?_)
    exact (Reasoner.markChanged_observe w.kb w.reasoner).symm
  | close =>
    rw [performNotified_of_version_eq rfl, hclose rfl]
    have hs : ¬w.reasoner.close.state.Current := fun hc => w.reasoner.not_loaded_close hc.loaded
    exact Prod.ext rfl (congrArg (Workspace.mk w.kb) (Reasoner.observe_of_not_current hs).symm)
  | _ =>
    rw [performNotified_of_version_eq rfl]
    simp [Workspace.perform, act, ask, noted]

-- A workspace but for what its reasoner says of the result.
def withMaterialisation (m : Materialisation) (w : Workspace β) : Workspace β :=
  { w with reasoner := { w.reasoner with materialisation := m } }

-- A closed reasoner stays closed, and what it says of the result does not matter any more.
theorem perform_of_closed (hs : w.reasoner.state = .afterClosing) (m : Materialisation)
    (a : Action) :
    (w.perform a).2.reasoner.state = .afterClosing ∧
      (w.withMaterialisation m).perform a =
        ((w.perform a).1, (w.perform a).2.withMaterialisation m) := by
  obtain ⟨kb, b, index, state, known, settings, version, completed⟩ := w
  obtain rfl : state = .afterClosing := hs
  have hobserve (known : Materialisation) :
      Reasoner.observe kb ⟨b, index, .afterClosing, known, settings, version, completed⟩ =
        ⟨b, index, .afterClosing, known, settings, version, completed⟩ :=
    Reasoner.observe_of_not_current id
  cases a with
  | load =>
    simp [Workspace.perform, act, withMaterialisation, Reasoner.load, hobserve, Reasoner.refusal]
  | reason =>
    simp [Workspace.perform, act, withMaterialisation, Reasoner.reason, Reasoner.prepare, hobserve,
      Reasoner.refusal]
  | supervise limit pace =>
    simp [Workspace.perform, act, withMaterialisation, Reasoner.superviseReason, Reasoner.prepare,
      hobserve, Reasoner.refusal]
  | reset =>
    simp [Workspace.perform, act, withMaterialisation, Reasoner.reset, hobserve, Reasoner.refusal]
  | setHeadStrategy strategy =>
    simp [Workspace.perform, act, withMaterialisation, Reasoner.setHeadStrategy, hobserve,
      Reasoner.refusal]
  | setTimeout seconds =>
    simp only [Workspace.perform, act, withMaterialisation, Reasoner.setTimeout]
    split <;> exact ⟨rfl, rfl⟩
  | _ => exact ⟨rfl, rfl⟩

end Workspace

-- What is seen of a step: its result, and what the reasoner shows afterwards.
structure Observation where
  result : Except ReasonerError Answer
  state : ReasonerState
  materialisation : Materialisation
  completed : Bool

-- The same is seen, but for what a closed reasoner says of the result.
structure Observation.Agree (o o' : Observation) : Prop where
  result : o.result = o'.result
  state : o.state = o'.state
  materialisation : o.state ≠ .afterClosing → o.materialisation = o'.materialisation
  completed : o.completed = o'.completed

-- Only these look at the knowledge base anew.
def Action.Derives : Action → Prop
  | load | reason | supervise _ _ => True
  | _ => False

namespace Workspace

section Observations

-- What is seen after a step.
def observation (step : Except ReasonerError Answer × Workspace β) : Observation where
  result := step.1
  state := step.2.reasoner.shownState step.2.kb
  materialisation := step.2.reasoner.shownMaterialisation step.2.kb
  completed := step.2.reasoner.completed

-- What is seen when one thing is done after the other, in some way to do them.
def observations
    (perform : Workspace β → Action → Except ReasonerError Answer × Workspace β)
    (w : Workspace β) : List Action → List Observation
  | [] => []
  | a :: actions =>
    observation (perform w a) :: observations perform (perform w a).2 actions

theorem observation_noted (answer : Except ReasonerError Answer) (w : Workspace β) :
    observation (answer, w.noted) = observation (answer, w) := by
  simp [observation, noted]

variable [Backend β]

-- At some point the reasoner is closed while it shows a change that it has not noted.
def ClosesUnnoted (w : Workspace β) : List Action → Prop
  | [] => False
  | a :: actions =>
    a = .close ∧ w.reasoner.shownState w.kb ≠ w.reasoner.state ∨
      ClosesUnnoted (w.perform a).2 actions

variable {w : Workspace β}

-- Closing with a change that has not been noted: the eager reasoner says that the result is wrong,
-- the other one still says what it said of the load.
theorem performNotified_close_noted (h : w.noted ≠ w) :
    w.noted.performNotified .close =
      ((w.perform .close).1, (w.perform .close).2.withMaterialisation .wrong) := by
  rw [performNotified_of_version_eq rfl]
  obtain ⟨kb, r⟩ := w
  rcases r.observe_cases kb with ⟨⟨hc, -⟩, hr⟩ | ⟨-, hr⟩
  · rcases ReasonerState.current_iff.mp hc with hs | hs <;>
      simp [Workspace.perform, withMaterialisation, noted, hr, Reasoner.close, hs]
  · simp [noted, hr] at h

theorem materialisation_close_ne (haware : w.Aware) (h : w.noted ≠ w) :
    w.reasoner.close.materialisation ≠ .wrong := by
  rcases w.reasoner.observe_cases w.kb with ⟨⟨hc, -⟩, -⟩ | ⟨-, hr⟩
  · have hm := haware.hopeful hc
    rcases ReasonerState.current_iff.mp hc with hs | hs <;> simpa [Reasoner.close, hs] using hm
  · exact absurd (by rw [noted, hr]) h

theorem agree_of_closed (hs : w.reasoner.state = .afterClosing) (m : Materialisation)
    (actions : List Action) :
    List.Forall₂ Observation.Agree (observations Workspace.perform w actions)
      (observations performNotified (w.withMaterialisation m) actions) := by
  induction actions generalizing w with
  | nil => exact .nil
  | cons a actions ih =>
    obtain ⟨hs', hperform⟩ := perform_of_closed hs m a
    have hnotified : (w.withMaterialisation m).performNotified a =
        ((w.perform a).1, (w.perform a).2.withMaterialisation m) := by
      rw [← hperform]
      refine performNotified_of_not_current ?_
      rw [hperform]
      simp [withMaterialisation, hs', ReasonerState.Current]
    unfold observations
    rw [hnotified]
    refine .cons ⟨rfl, ?_, ?_, rfl⟩ (ih hs')
    · simp [observation, withMaterialisation, Reasoner.shownState, hs']
    · simp [observation, Reasoner.shownState, hs']

-- The two ways to learn of changes, from a workspace and from the same with every change noted.
theorem agree_noted (haware : w.Aware) (actions : List Action) :
    List.Forall₂ Observation.Agree (observations Workspace.perform w actions)
      (observations performNotified w.noted actions) := by
  induction actions generalizing w with
  | nil => exact .nil
  | cons a actions ih =>
    unfold observations
    by_cases hclose : a = .close → w.noted = w
    · rw [performNotified_noted haware hclose, observation_noted]
      exact .cons ⟨rfl, rfl, fun _ => rfl, rfl⟩ (ih (haware.perform a))
    · obtain ⟨rfl, hnoted⟩ := Classical.not_imp.mp hclose
      have hs : (w.perform .close).2.reasoner.state = .afterClosing := w.reasoner.state_close
      rw [performNotified_close_noted hnoted]
      refine .cons ⟨rfl, ?_, ?_, rfl⟩ (agree_of_closed hs _ actions)
      · simp [observation, withMaterialisation, Reasoner.shownState, hs]
      · simp [observation, Reasoner.shownState, hs]

theorem observations_eq_iff (haware : w.Aware) (actions : List Action) :
    observations Workspace.perform w actions = observations performNotified w.noted actions ↔
      ¬w.ClosesUnnoted actions := by
  induction actions generalizing w with
  | nil => simp [observations, ClosesUnnoted]
  | cons a actions ih =>
    unfold observations ClosesUnnoted
    by_cases hclose : a = .close → w.noted = w
    · rw [performNotified_noted haware hclose, observation_noted]
      have hshown : ¬(a = .close ∧ w.reasoner.shownState w.kb ≠ w.reasoner.state) := by
        rintro ⟨ha, hne⟩
        exact hne (noted_eq_iff.mp (hclose ha))
      simpa [hshown] using ih (haware.perform a)
    · obtain ⟨rfl, hnoted⟩ := Classical.not_imp.mp hclose
      have hs : (w.perform .close).2.reasoner.state = .afterClosing := w.reasoner.state_close
      rw [performNotified_close_noted hnoted]
      refine iff_of_false (fun he => ?_) fun hn => hn (.inl ⟨rfl, ?_⟩)
      · have hm := congrArg Observation.materialisation (List.cons.inj he).1
        simp [observation, Reasoner.shownMaterialisation, Reasoner.shownState, hs,
          withMaterialisation] at hm
        exact materialisation_close_ne haware hnoted hm
      · exact fun he => hnoted (noted_eq_iff.mpr he)

-- What is derived is shown as wrong.
def SaysWrong (w : Workspace β) : Prop :=
  w.reasoner.shownMaterialisation w.kb = .wrong

theorem materialisation_performNotified {a : Action} (ha : ¬a.Derives)
    (h : w.reasoner.materialisation = .wrong) :
    (w.performNotified a).2.reasoner.materialisation = .wrong := by
  have hperform : (w.perform a).2.reasoner.materialisation = .wrong := by
    cases a with
    | load | reason | supervise => exact absurd trivial ha
    | reset => exact Reasoner.materialisation_reset h
    | close => exact Reasoner.materialisation_close h
    | notify => exact Reasoner.materialisation_markChanged h
    | setTimeout seconds => exact Reasoner.materialisation_setTimeout seconds h
    | setHeadStrategy strategy => exact Reasoner.materialisation_setHeadStrategy strategy h
    | setLogLevel level => exact Reasoner.materialisation_setLogLevel level h
    | setLogFile path => exact Reasoner.materialisation_setLogFile path h
    | _ => exact h
  unfold performNotified
  split
  · exact hperform
  · exact Reasoner.materialisation_markChanged hperform

-- A result that shows as wrong stays wrong until the next load or run, but for closing with a
-- change that has not been noted.
theorem saysWrong_perform (haware : w.Aware) {a : Action} (ha : ¬a.Derives)
    (hclose : ¬w.ClosesUnnoted [a]) (h : w.SaysWrong) : (w.perform a).2.SaysWrong := by
  have hnoted : a = .close → w.noted = w := by
    intro hc
    by_contra hne
    exact hclose (.inl ⟨hc, fun he => hne (noted_eq_iff.mpr he)⟩)
  have hstep := performNotified_noted haware hnoted
  rw [SaysWrong, haware.shownMaterialisation_eq] at h
  rw [SaysWrong, (haware.perform a).shownMaterialisation_eq]
  simpa [hstep] using materialisation_performNotified ha h

end Observations

end Workspace

open Workspace

-- Noticing changes late comes to the same as being told of each at once. Only one thing tells the
-- two apart: a reasoner that is closed before it has noted a change takes back that its result
-- is wrong. Otherwise only a load or a run does that.
theorem observations_of_opened [Backend β] {b : β} {r : Reasoner β} (hopened : Opened b r)
    (kb : KnowledgeBase) (actions : List Action) :
    List.Forall₂ Observation.Agree (observations perform ⟨kb, r⟩ actions)
      (observations performNotified ⟨kb, r⟩ actions) ∧
    (observations perform ⟨kb, r⟩ actions = observations performNotified ⟨kb, r⟩ actions ↔
      ¬ClosesUnnoted ⟨kb, r⟩ actions) ∧
    ∀ a, ¬a.Derives → ¬ClosesUnnoted (run ⟨kb, r⟩ actions).2 [a] →
      (run ⟨kb, r⟩ actions).2.SaysWrong → ((run ⟨kb, r⟩ actions).2.perform a).2.SaysWrong := by
  have hs := hopened.state_eq
  have haware : Aware ⟨kb, r⟩ := .of_not_loaded (by simp [hs, ReasonerState.Loaded])
  have hnoted : noted ⟨kb, r⟩ = ⟨kb, r⟩ := by
    rw [noted, Reasoner.observe_of_not_current (by simp [hs, ReasonerState.Current])]
  refine ⟨?_, ?_, fun a => saysWrong_perform (haware.runs actions)⟩
  · simpa [hnoted] using agree_noted haware actions
  · simpa [hnoted] using observations_eq_iff haware actions

-- A fact is added after a run.

def Workspace.blank : Workspace Recorder :=
  ⟨{}, .new {}⟩

def Action.runThenAdd : List Action :=
  .reason :: Workspace.withFact.kb.statements.map .add

-- The result is wrong then, as it would be had the reasoner been told of the fact, and it is still
-- wrong after a reset.
theorem observations_blank :
    observations perform blank Action.runThenAdd =
      observations performNotified blank Action.runThenAdd ∧
    ((run blank Action.runThenAdd).2.perform .reset).2.SaysWrong := by
  have h := observations_of_opened (.new (b := ({} : Recorder))) {} Action.runThenAdd
  refine ⟨h.2.1.mpr ?_, h.2.2 .reset id ?_ rfl⟩
  · simp [ClosesUnnoted, Action.runThenAdd, withFact]
  · simp [ClosesUnnoted]

-- Once the reasoner is closed the result is complete again. Had the reasoner been told of the
-- fact, it would still be wrong.
theorem complete_of_close_unnoted :
    (observations perform blank (Action.runThenAdd ++ [.close])).map
        Observation.materialisation = [.complete, .wrong, .complete] ∧
      (observations performNotified blank (Action.runThenAdd ++ [.close])).map
        Observation.materialisation = [.complete, .wrong, .wrong] := by
  decide +kernel

end Rulebook
