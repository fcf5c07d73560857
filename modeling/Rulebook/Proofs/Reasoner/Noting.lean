import Rulebook.Proofs.Reasoner.Correctness

namespace Rulebook

theorem ReasonerState.current_iff {s : ReasonerState} :
    s.Current ↔ s = .afterLoading ∨ s = .afterReasoning := by
  cases s <;> simp [Current]

variable {β : Type}

namespace Reasoner

variable {kb : KnowledgeBase} {r : Reasoner β}

theorem markChanged_of_current (h : r.state.Current) :
    r.markChanged = { r with state := .knowledgeBaseChanged, materialisation := .wrong } := by
  rcases ReasonerState.current_iff.mp h with hs | hs <;> simp [markChanged, hs]

theorem markChanged_of_not_current (h : ¬r.state.Current) : r.markChanged = r := by
  unfold markChanged
  split
  next hs => exact absurd (by simp [hs, ReasonerState.Current]) h
  next hs => exact absurd (by simp [hs, ReasonerState.Current]) h
  next => rfl

theorem not_current_markChanged (r : Reasoner β) : ¬r.markChanged.state.Current := by
  by_cases h : r.state.Current
  · rw [markChanged_of_current h]
    exact id
  · rwa [markChanged_of_not_current h]

@[simp] theorem markChanged_markChanged (r : Reasoner β) :
    r.markChanged.markChanged = r.markChanged :=
  markChanged_of_not_current r.not_current_markChanged

theorem materialisation_markChanged (h : r.materialisation = .wrong) :
    r.markChanged.materialisation = .wrong := by
  by_cases hc : r.state.Current
  · rw [markChanged_of_current hc]
  · rwa [markChanged_of_not_current hc]

-- There is a change to note, or there is not.
theorem observe_cases (kb : KnowledgeBase) (r : Reasoner β) :
    (r.state.Current ∧ r.advanced kb = true) ∧
        r.observe kb = { r with state := .knowledgeBaseChanged, materialisation := .wrong } ∨
      (r.state.Current → r.advanced kb = false) ∧ r.observe kb = r := by
  unfold observe
  by_cases hc : r.state.Current
  · cases ha : r.advanced kb with
    | true => exact .inl ⟨⟨hc, rfl⟩, by simpa using markChanged_of_current hc⟩
    | false => exact .inr ⟨fun _ => rfl, by simp⟩
  · exact .inr ⟨fun h => absurd h hc, by simp [markChanged_of_not_current hc]⟩

theorem observe_of_advanced (h : r.advanced kb = true) : r.observe kb = r.markChanged := by
  simp [observe, h]

theorem observe_of_not_current (h : ¬r.state.Current) : r.observe kb = r := by
  rcases observe_cases kb r with ⟨⟨hc, -⟩, -⟩ | ⟨-, hr⟩
  · exact absurd hc h
  · exact hr

theorem observe_of_not_advanced (h : r.advanced kb = false) : r.observe kb = r := by
  simp [observe, h]

-- A reasoner that shows itself current has nothing to note.
theorem advanced_eq_false_of_observe (hc : r.state.Current) (h : r.observe kb = r) :
    r.advanced kb = false := by
  rcases observe_cases kb r with ⟨-, hr⟩ | ⟨ha, -⟩
  · rw [h] at hr
    rw [hr] at hc
    exact hc.elim
  · exact ha hc

@[simp] theorem observe_observe (kb : KnowledgeBase) (r : Reasoner β) :
    (r.observe kb).observe kb = r.observe kb := by
  rcases observe_cases kb r with ⟨-, hr⟩ | ⟨-, hr⟩
  · rw [hr]
    exact observe_of_not_current id
  · rw [hr, hr]

-- Being told of a change and noting one come to the same in either order.
theorem markChanged_observe (kb : KnowledgeBase) (r : Reasoner β) :
    r.markChanged.observe kb = (r.observe kb).markChanged := by
  rw [observe_of_not_current r.not_current_markChanged]
  unfold observe
  split
  · exact r.markChanged_markChanged.symm
  · rfl

theorem materialisation_observe (h : r.materialisation = .wrong) :
    (r.observe kb).materialisation = .wrong := by
  unfold observe
  split
  · exact materialisation_markChanged h
  · exact h

@[simp] theorem observe_backend (kb : KnowledgeBase) (r : Reasoner β) :
    (r.observe kb).backend = r.backend := by
  rcases observe_cases kb r with ⟨-, hr⟩ | ⟨-, hr⟩ <;> rw [hr]

@[simp] theorem observe_index (kb : KnowledgeBase) (r : Reasoner β) :
    (r.observe kb).index = r.index := by
  rcases observe_cases kb r with ⟨-, hr⟩ | ⟨-, hr⟩ <;> rw [hr]

@[simp] theorem observe_settings (kb : KnowledgeBase) (r : Reasoner β) :
    (r.observe kb).settings = r.settings := by
  rcases observe_cases kb r with ⟨-, hr⟩ | ⟨-, hr⟩ <;> rw [hr]

@[simp] theorem observe_completed (kb : KnowledgeBase) (r : Reasoner β) :
    (r.observe kb).completed = r.completed := by
  rcases observe_cases kb r with ⟨-, hr⟩ | ⟨-, hr⟩ <;> rw [hr]

@[simp] theorem observe_state_eq_afterClosing :
    (r.observe kb).state = .afterClosing ↔ r.state = .afterClosing := by
  rcases observe_cases kb r with ⟨⟨hc, -⟩, hr⟩ | ⟨-, hr⟩
  · rw [hr]
    rcases ReasonerState.current_iff.mp hc with hs | hs <;> simp [hs]
  · rw [hr]

@[simp] theorem observe_state_eq_beforeLoading :
    (r.observe kb).state = .beforeLoading ↔ r.state = .beforeLoading := by
  rcases observe_cases kb r with ⟨⟨hc, -⟩, hr⟩ | ⟨-, hr⟩
  · rw [hr]
    rcases ReasonerState.current_iff.mp hc with hs | hs <;> simp [hs]
  · rw [hr]

-- Engine and settings do not matter to what there is to note.
theorem observe_configure (kb : KnowledgeBase) (r : Reasoner β) (settings : ReasonerSettings)
    (b : β) :
    ({ r with settings := settings, backend := b } : Reasoner β).observe kb =
      { r.observe kb with settings := settings, backend := b } := by
  let r' : Reasoner β := { r with settings := settings, backend := b }
  rcases observe_cases kb r with ⟨⟨hc, ha⟩, hr⟩ | ⟨ha, hr⟩
  · rw [hr]
    exact (observe_of_advanced (r := r') ha).trans (markChanged_of_current (r := r') hc)
  · rw [hr]
    by_cases hc : r.state.Current
    · exact observe_of_not_advanced (r := r') (ha hc)
    · exact observe_of_not_current (r := r') hc

-- What is shown of a reasoner does not tell whether it has noted a change.

@[simp] theorem shownState_observe (kb : KnowledgeBase) (r : Reasoner β) :
    (r.observe kb).shownState kb = r.shownState kb := by
  rcases observe_cases kb r with ⟨⟨hc, ha⟩, hr⟩ | ⟨-, hr⟩
  · rw [hr]
    rcases ReasonerState.current_iff.mp hc with hs | hs <;> simp [shownState, hs, ha]
  · rw [hr]

@[simp] theorem shownMaterialisation_observe (kb : KnowledgeBase) (r : Reasoner β) :
    (r.observe kb).shownMaterialisation kb = r.shownMaterialisation kb := by
  have hshown := shownState_observe kb r
  rcases observe_cases kb r with ⟨⟨hc, ha⟩, hr⟩ | ⟨-, hr⟩
  · have hstate : r.shownState kb = .knowledgeBaseChanged := by
      rw [← hshown, hr]
      rfl
    simp [shownMaterialisation, hshown, hstate]
  · rw [hr]

-- A change that is not noted yet shows.
theorem shownState_eq_state_iff : r.shownState kb = r.state ↔ r.observe kb = r := by
  constructor
  · intro h
    rcases observe_cases kb r with ⟨⟨hc, ha⟩, -⟩ | ⟨-, hr⟩
    · rcases ReasonerState.current_iff.mp hc with hs | hs <;> simp [shownState, hs, ha] at h
    · exact hr
  · intro h
    unfold shownState
    cases hs : r.state with
    | afterLoading | afterReasoning =>
      simp [advanced_eq_false_of_observe (by simp [hs, ReasonerState.Current]) h]
    | _ => rfl

@[simp] theorem whenLoaded_observe {α : Type} (beforeLoading afterClosing : String)
    (kb : KnowledgeBase) (r : Reasoner β) (act : Except ReasonerError α) :
    (r.observe kb).whenLoaded beforeLoading afterClosing act =
      r.whenLoaded beforeLoading afterClosing act := by
  rcases observe_cases kb r with ⟨⟨hc, -⟩, hr⟩ | ⟨-, hr⟩
  · rw [hr]
    rcases ReasonerState.current_iff.mp hc with hs | hs <;> simp [whenLoaded, hs]
  · rw [hr]

-- Settings are changed alike, whether a change has been noted or not.

@[simp] theorem setAlgorithm_observe (kb : KnowledgeBase) (algorithm : Algorithm) (r : Reasoner β) :
    (r.observe kb).setAlgorithm algorithm = (r.setAlgorithm algorithm).observe kb := by
  have h := observe_configure kb r { r.settings with algorithm := algorithm } r.backend
  simp only [setAlgorithm, h, observe_settings, observe_backend]

@[simp] theorem setTimeout_observe (kb : KnowledgeBase) (seconds : Option Nat) (r : Reasoner β) :
    (r.observe kb).setTimeout seconds =
      ((r.setTimeout seconds).1, (r.setTimeout seconds).2.observe kb) := by
  have h := observe_configure kb r { r.settings with timeoutSeconds := seconds } r.backend
  unfold setTimeout
  split
  · rfl
  · simp only [h, observe_settings, observe_backend]

@[simp] theorem setHeadStrategy_observe (kb : KnowledgeBase) (strategy : HeadStrategy)
    (r : Reasoner β) :
    (r.observe kb).setHeadStrategy kb strategy = r.setHeadStrategy kb strategy := by
  unfold setHeadStrategy
  simp only [observe_observe]

@[simp] theorem observe_setHeadStrategy (kb : KnowledgeBase) (strategy : HeadStrategy)
    (r : Reasoner β) :
    (r.setHeadStrategy kb strategy).2.observe kb = (r.setHeadStrategy kb strategy).2 := by
  unfold setHeadStrategy
  simp only
  split
  next hs => exact observe_of_not_current (by simp [hs, ReasonerState.Current])
  next => exact observe_observe kb r

theorem materialisation_setTimeout (seconds : Option Nat) (h : r.materialisation = .wrong) :
    (r.setTimeout seconds).2.materialisation = .wrong := by
  unfold setTimeout
  split <;> exact h

theorem materialisation_setHeadStrategy (strategy : HeadStrategy)
    (h : r.materialisation = .wrong) :
    (r.setHeadStrategy kb strategy).2.materialisation = .wrong := by
  have hm : (r.observe kb).materialisation = .wrong := materialisation_observe h
  unfold setHeadStrategy
  simp only
  split <;> exact hm

variable [Backend β]

-- Operations that load take note of changes first, and afterwards there is nothing to note.

@[simp] theorem load_observe (kb : KnowledgeBase) (r : Reasoner β) :
    (r.observe kb).load kb = r.load kb := by
  unfold load
  simp only [observe_observe]

@[simp] theorem prepare_observe (kb : KnowledgeBase) (r : Reasoner β) :
    (r.observe kb).prepare kb = r.prepare kb := by
  unfold prepare
  simp only [observe_observe]

@[simp] theorem reset_observe (kb : KnowledgeBase) (r : Reasoner β) :
    (r.observe kb).reset kb = r.reset kb := by
  unfold reset
  simp only [observe_observe]

@[simp] theorem reason_observe (kb : KnowledgeBase) (r : Reasoner β) :
    (r.observe kb).reason kb = r.reason kb := by
  unfold reason
  rw [prepare_observe]

@[simp] theorem superviseReason_observe (kb : KnowledgeBase) (limit : Nat) (pace : Pace)
    (r : Reasoner β) :
    (r.observe kb).superviseReason kb limit pace = r.superviseReason kb limit pace := by
  unfold superviseReason
  rw [prepare_observe]

theorem observe_loadFresh (hs : ¬r.state.Current) :
    (r.loadFresh kb).2.observe kb = (r.loadFresh kb).2 := by
  have hl := loading_loadFresh kb r
  generalize r.loadFresh kb = result at hl ⊢
  cases hl with
  | loaded _ _ _ => exact observe_of_not_advanced (by simp [advanced])
  | unusableSource _ => exact observe_of_not_current hs
  | notActivated _ _ => exact observe_of_not_current hs
  | notPopulated _ _ _ => exact observe_of_not_current hs

@[simp] theorem observe_load (kb : KnowledgeBase) (r : Reasoner β) :
    (r.load kb).2.observe kb = (r.load kb).2 := by
  unfold load
  simp only
  split
  next => exact observe_observe kb r
  next hs => exact observe_loadFresh (by simp [hs, ReasonerState.Current])
  next => exact observe_loadFresh id

@[simp] theorem observe_prepare (kb : KnowledgeBase) (r : Reasoner β) :
    (r.prepare kb).2.observe kb = (r.prepare kb).2 := by
  unfold prepare
  simp only
  split
  next => exact observe_observe kb r
  next => exact observe_load kb _
  next => exact observe_observe kb r
  next => exact observe_load kb _
  next => exact observe_load kb _

theorem observe_finish (counts : Bool) (hs : r.state = .afterLoading) (h : r.observe kb = r) :
    (r.finish counts).observe kb = r.finish counts := by
  have ha : r.advanced kb = false :=
    advanced_eq_false_of_observe (by simp [hs, ReasonerState.Current]) h
  have hrunning := r.running_finish counts
  generalize r.runEvents counts = events at hrunning
  generalize r.finish counts = r' at hrunning ⊢
  cases hrunning with
  | ended _ => exact observe_of_not_advanced ha
  | failed _ => exact observe_of_not_advanced ha

theorem observe_reasoned (counts : Bool) (kb : KnowledgeBase) (r : Reasoner β) :
    (r.reasoned counts kb).observe kb = r.reasoned counts kb := by
  have hprepare := observe_prepare kb r
  unfold reasoned
  rcases hp : r.prepare kb with ⟨e | _, r'⟩
  · simpa [hp] using hprepare
  · rw [hp] at hprepare
    have hok : (r.prepare kb).1 = .ok () := by rw [hp]
    have hs := state_of_prepare_ok hok
    rw [hp] at hs
    exact observe_finish counts hs hprepare

@[simp] theorem observe_reason (kb : KnowledgeBase) (r : Reasoner β) :
    (r.reason kb).2.observe kb = (r.reason kb).2 := by
  rw [reason_eq_reasoned]
  exact observe_reasoned true kb r

@[simp] theorem observe_superviseReason (kb : KnowledgeBase) (limit : Nat) (pace : Pace)
    (r : Reasoner β) :
    (r.superviseReason kb limit pace).2.observe kb = (r.superviseReason kb limit pace).2 := by
  rw [superviseReason_eq_reasoned]
  exact observe_reasoned _ kb r

@[simp] theorem observe_reset (kb : KnowledgeBase) (r : Reasoner β) :
    (r.reset kb).2.observe kb = (r.reset kb).2 := by
  unfold reset
  simp only
  split
  next => exact observe_observe kb r
  next => exact observe_of_not_current id

-- Questions are answered from what is shown.

@[simp] theorem answerQuery_observe (kb : KnowledgeBase) (query : Atom) (nulls : Bool)
    (r : Reasoner β) :
    (r.observe kb).answerQuery kb query nulls = r.answerQuery kb query nulls := by
  unfold answerQuery whenQueryable
  rw [whenLoaded_observe, observe_backend, shownMaterialisation_observe]

@[simp] theorem countQueryAnswers_observe (kb : KnowledgeBase) (query : Atom) (nulls : Bool)
    (r : Reasoner β) :
    (r.observe kb).countQueryAnswers kb query nulls = r.countQueryAnswers kb query nulls := by
  unfold countQueryAnswers
  rw [answerQuery_observe]

@[simp] theorem exportQueryAnswers_observe (kb : KnowledgeBase) (query : Atom) (nulls : Bool)
    (file : OutputFile) (r : Reasoner β) :
    (r.observe kb).exportQueryAnswers kb query nulls file =
      r.exportQueryAnswers kb query nulls file := by
  unfold exportQueryAnswers whenQueryable
  rw [whenLoaded_observe, observe_backend, shownMaterialisation_observe]

@[simp] theorem holds_observe (kb : KnowledgeBase) (notion : CyclicityNotion) (r : Reasoner β) :
    (r.observe kb).holds notion = r.holds notion := by
  unfold holds checkCyclic
  rw [whenLoaded_observe, observe_backend]

@[simp] theorem checkForCycles_observe (kb : KnowledgeBase) (r : Reasoner β) :
    (r.observe kb).checkForCycles = r.checkForCycles := by
  simp only [checkForCycles, holdsAny, holds_observe]

@[simp] theorem setLogLevel_observe (kb : KnowledgeBase) (level : LogLevel) (r : Reasoner β) :
    (r.observe kb).setLogLevel level =
      ((r.setLogLevel level).1, (r.setLogLevel level).2.observe kb) := by
  have h := observe_configure kb r { r.settings with logLevel := level }
    (Backend.setLogLevel level r.backend)
  by_cases hs : r.state = .afterClosing
  · rw [observe_of_not_current (by simp [hs, ReasonerState.Current])]
    simp only [setLogLevel, hs]
    rw [observe_of_not_current (by simp [hs, ReasonerState.Current])]
  · have hs' : (r.observe kb).state ≠ .afterClosing := by simpa using hs
    simp only [setLogLevel, h, observe_settings, observe_backend]

@[simp] theorem setLogFile_observe (kb : KnowledgeBase) (path : Path) (r : Reasoner β) :
    (r.observe kb).setLogFile path =
      ((r.setLogFile path).1, (r.setLogFile path).2.observe kb) := by
  by_cases hs : r.state = .afterClosing
  · rw [observe_of_not_current (by simp [hs, ReasonerState.Current])]
    simp only [setLogFile, hs]
    rw [observe_of_not_current (by simp [hs, ReasonerState.Current])]
  · have hs' : (r.observe kb).state ≠ .afterClosing := by simpa using hs
    rcases hb : Backend.setLogFile path r.backend with ⟨e | _, b⟩
    · have h := observe_configure kb r r.settings b
      simp only [setLogFile, hb, h, observe_settings, observe_backend]
    · have h := observe_configure kb r r.settings b
      simp only [setLogFile, hb, h, observe_settings, observe_backend]

theorem close_of_open (h : r.state ≠ .afterClosing) :
    r.close =
      { r with
        state := .afterClosing
        loadedVersion := none
        backend := Backend.stop r.backend } := by
  unfold close
  split
  next hs => exact absurd hs h
  next => rfl

theorem state_close (r : Reasoner β) : r.close.state = .afterClosing := by
  by_cases hs : r.state = .afterClosing
  · simp [close, hs]
  · rw [close_of_open hs]

-- Operations that neither load nor run leave a wrong result wrong.

theorem materialisation_reset (h : r.materialisation = .wrong) :
    (r.reset kb).2.materialisation = .wrong := by
  have hm : (r.observe kb).materialisation = .wrong := materialisation_observe h
  unfold reset
  simp only
  split <;> exact hm

theorem materialisation_close (h : r.materialisation = .wrong) :
    r.close.materialisation = .wrong := by
  unfold close
  split <;> exact h

theorem materialisation_setLogLevel (level : LogLevel) (h : r.materialisation = .wrong) :
    (r.setLogLevel level).2.materialisation = .wrong := by
  unfold setLogLevel
  split <;> exact h

theorem materialisation_setLogFile (path : Path) (h : r.materialisation = .wrong) :
    (r.setLogFile path).2.materialisation = .wrong := by
  unfold setLogFile
  split
  · exact h
  · split <;> exact h

end Reasoner

end Rulebook
