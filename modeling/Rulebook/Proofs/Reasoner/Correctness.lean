import Rulebook.Proofs.Reasoner.Run
import Rulebook.Reasoner.Recorder

namespace Rulebook

def Event.loaded? : Event → Option KnowledgeBase
  | loaded kb => some kb
  | _ => none

-- Histories have the latest event first.

def lastLoad (h : List Event) : Option KnowledgeBase :=
  h.findSome? Event.loaded?

def sinceLoad (h : List Event) : List Event :=
  h.takeWhile (·.loaded?.isNone)

-- What was loaded last is no longer known to be the knowledge base.
def Stale (h : List Event) : Prop :=
  .changed ∈ sinceLoad h ∨ .notified ∈ sinceLoad h

instance (h : List Event) : Decidable (Stale h) :=
  inferInstanceAs (Decidable (_ ∨ _))

section History

variable {h : List Event}

@[simp] theorem lastLoad_loaded (kb : KnowledgeBase) : lastLoad (.loaded kb :: h) = some kb :=
  rfl

@[simp] theorem sinceLoad_loaded (kb : KnowledgeBase) : sinceLoad (.loaded kb :: h) = [] :=
  rfl

theorem lastLoad_cons {e : Event} (he : e.loaded? = none) : lastLoad (e :: h) = lastLoad h := by
  simp [lastLoad, he]

theorem sinceLoad_cons {e : Event} (he : e.loaded? = none) :
    sinceLoad (e :: h) = e :: sinceLoad h := by
  simp [sinceLoad, he]

theorem loaded_mem_of_lastLoad {kb : KnowledgeBase} (hl : lastLoad h = some kb) :
    .loaded kb ∈ h := by
  obtain ⟨e, he, hkb⟩ := List.exists_of_findSome?_eq_some hl
  cases e with
  | loaded kb' => exact Option.some.inj hkb ▸ he
  | completed => cases hkb
  | notified => cases hkb
  | changed => cases hkb

end History

-- The engine holds something, be it stale or not.
def ReasonerState.Loaded : ReasonerState → Prop
  | beforeLoading => False
  | afterClosing => False
  | _ => True

-- Nothing is known yet of a change since loading.
def ReasonerState.Current : ReasonerState → Prop
  | afterLoading => True
  | afterReasoning => True
  | _ => False

theorem ReasonerState.Current.loaded {s : ReasonerState} (h : s.Current) : s.Loaded := by
  cases s with
  | beforeLoading => exact h
  | afterClosing => exact h
  | _ => trivial

variable {β : Type}

namespace Reasoner

@[simp] theorem markChanged_index (r : Reasoner β) : r.markChanged.index = r.index := by
  unfold markChanged
  split <;> rfl

@[simp] theorem markChanged_loadedVersion (r : Reasoner β) :
    r.markChanged.loadedVersion = r.loadedVersion := by
  unfold markChanged
  split <;> rfl

@[simp] theorem markChanged_backend (r : Reasoner β) : r.markChanged.backend = r.backend := by
  unfold markChanged
  split <;> rfl

@[simp] theorem markChanged_settings (r : Reasoner β) : r.markChanged.settings = r.settings := by
  unfold markChanged
  split <;> rfl

theorem state_markChanged (r : Reasoner β) :
    r.state.Loaded ∧ r.markChanged.state = .knowledgeBaseChanged ∨
      ¬r.state.Loaded ∧ r.markChanged = r := by
  unfold markChanged
  cases hs : r.state <;> simp [hs, ReasonerState.Loaded]

theorem not_loaded_close [Backend β] (r : Reasoner β) : ¬r.close.state.Loaded := by
  unfold close
  split
  next hs => simp [hs, ReasonerState.Loaded]
  next => exact id

end Reasoner

-- What a loaded reasoner remembers of a load, and what has become of the knowledge base since.
structure Remembers (h : List Event) (w : Workspace β) (kb : KnowledgeBase) : Prop where
  loaded : lastLoad h = some kb
  version : w.reasoner.loadedVersion = some kb.version
  index : w.reasoner.index = .build kb.statements
  version_le : kb.version ≤ w.kb.version
  eq_of_version : kb.version = w.kb.version → kb = w.kb
  changed : .changed ∈ sinceLoad h ↔ kb.version ≠ w.kb.version

-- Engine, settings and state do not matter, and neither do events other than loads and changes.
theorem Remembers.congr {h h' : List Event} {w w' : Workspace β} {kb : KnowledgeBase}
    (hr : Remembers h w kb) (hload : lastLoad h' = lastLoad h)
    (hchanged : .changed ∈ sinceLoad h' ↔ .changed ∈ sinceLoad h) (hkb : w'.kb = w.kb)
    (hversion : w'.reasoner.loadedVersion = w.reasoner.loadedVersion)
    (hindex : w'.reasoner.index = w.reasoner.index) : Remembers h' w' kb where
  loaded := hload.trans hr.loaded
  version := hversion.trans hr.version
  index := hindex.trans hr.index
  version_le := hkb ▸ hr.version_le
  eq_of_version := hkb ▸ hr.eq_of_version
  changed := hchanged.trans (hkb ▸ hr.changed)

-- How a reasoner keeps track of its history.
structure Tracks (h : List Event) (w : Workspace β) : Prop where
  remembers : w.reasoner.state.Loaded → ∃ kb, Remembers h w kb
  stale : w.reasoner.state = .knowledgeBaseChanged → Stale h
  unnotified : w.reasoner.state.Current → .notified ∉ sinceLoad h
  unfinished : w.reasoner.state = .afterLoading → .completed ∉ sinceLoad h
  materialisation : w.reasoner.state.Current →
    w.reasoner.materialisation = if .completed ∈ sinceLoad h then .complete else .incomplete

namespace Tracks

variable {drift : β → β → Prop} {h : List Event} {kb : KnowledgeBase} {r : Reasoner β}

theorem of_not_loaded {w : Workspace β} (hs : ¬w.reasoner.state.Loaded) : Tracks h w where
  remembers hl := absurd hl hs
  stale hc := absurd (by simp [hc, ReasonerState.Loaded]) hs
  unnotified hc := absurd hc.loaded hs
  unfinished hc := absurd (by simp [hc, ReasonerState.Loaded]) hs
  materialisation hc := absurd hc.loaded hs

-- Engine and settings do not matter.
theorem congr (ht : Tracks h ⟨kb, r⟩) {r' : Reasoner β} (hstate : r'.state = r.state)
    (hmaterialisation : r'.materialisation = r.materialisation)
    (hversion : r'.loadedVersion = r.loadedVersion) (hindex : r'.index = r.index) :
    Tracks h ⟨kb, r'⟩ := by
  obtain ⟨hremembers, hstale, hunnotified, hunfinished, hm⟩ := ht
  refine ⟨?_, ?_, ?_, ?_, ?_⟩
  · intro hl
    obtain ⟨kb', hr⟩ := hremembers (hstate ▸ hl)
    exact ⟨kb', hr.congr rfl Iff.rfl rfl hversion hindex⟩
  · intro hs
    exact hstale (hstate ▸ hs)
  · intro hc
    exact hunnotified (hstate ▸ hc)
  · intro hs
    exact hunfinished (hstate ▸ hs)
  · intro hc
    exact hmaterialisation.trans (hm (hstate ▸ hc))

theorem of_reasoned {w : Workspace β} {loaded : KnowledgeBase}
    (hs : w.reasoner.state = .afterReasoning) (hr : Remembers h w loaded)
    (hunnotified : .notified ∉ sinceLoad h)
    (hm : w.reasoner.materialisation =
      if .completed ∈ sinceLoad h then .complete else .incomplete) :
    Tracks h w where
  remembers _ := ⟨loaded, hr⟩
  stale hc := by simp [hs] at hc
  unnotified _ := hunnotified
  unfinished hc := by simp [hs] at hc
  materialisation _ := hm

-- A change is noted, for a reason.
theorem markChanged {h' : List Event} (hstale : r.state.Loaded → Stale h')
    (hremembers : r.state.Loaded → ∃ kb', Remembers h' ⟨kb, r⟩ kb') :
    Tracks h' ⟨kb, r.markChanged⟩ := by
  rcases r.state_markChanged with ⟨hl, hs⟩ | ⟨hl, hr⟩
  · refine ⟨?_, fun _ => hstale hl, ?_, ?_, ?_⟩
    · intro _
      obtain ⟨kb', hr⟩ := hremembers hl
      exact ⟨kb', hr.congr rfl Iff.rfl rfl r.markChanged_loadedVersion r.markChanged_index⟩
    · intro hc
      simp [hs, ReasonerState.Current] at hc
    · intro hc
      simp [hs] at hc
    · intro hc
      simp [hs, ReasonerState.Current] at hc
  · rw [hr]
    exact of_not_loaded hl

theorem notify (ht : Tracks h ⟨kb, r⟩) : Tracks (.notified :: h) ⟨kb, r.markChanged⟩ := by
  have hsince : sinceLoad (.notified :: h) = .notified :: sinceLoad h := sinceLoad_cons rfl
  refine markChanged (fun _ => .inr (by simp [hsince])) ?_
  intro hl
  obtain ⟨kb', hr⟩ := ht.remembers hl
  exact ⟨kb', hr.congr (lastLoad_cons rfl) (by simp [hsince]) rfl rfl rfl⟩

theorem observe (ht : Tracks h ⟨kb, r⟩) : Tracks h ⟨kb, r.observe kb⟩ := by
  unfold Reasoner.observe
  split
  next ha =>
    refine markChanged (fun hl => .inl ?_) ht.remembers
    obtain ⟨kb', hr⟩ := ht.remembers hl
    have hversion : r.loadedVersion = some kb'.version := hr.version
    simp only [Reasoner.advanced, hversion, bne_iff_ne] at ha
    exact hr.changed.mpr (Ne.symm ha)
  next => exact ht

theorem edit (ht : Tracks h ⟨kb, r⟩) {kb' : KnowledgeBase} (hkb : kb.version < kb'.version) :
    Tracks (.changed :: h) ⟨kb', r⟩ := by
  have hsince : sinceLoad (.changed :: h) = .changed :: sinceLoad h := sinceLoad_cons rfl
  refine ⟨?_, fun _ => .inl (by simp [hsince]), ?_, ?_, ?_⟩
  · intro hl
    obtain ⟨loaded, hr⟩ := ht.remembers hl
    have hlt : loaded.version < kb'.version := Nat.lt_of_le_of_lt hr.version_le hkb
    refine ⟨loaded, (lastLoad_cons rfl).trans hr.loaded, hr.version, hr.index,
      Nat.le_of_lt hlt, ?_, ?_⟩
    · intro he
      exact absurd he (Nat.ne_of_lt hlt)
    · simpa [hsince] using Nat.ne_of_lt hlt
  · simpa [hsince] using ht.unnotified
  · simpa [hsince] using ht.unfinished
  · simpa [hsince] using ht.materialisation

-- What is shown of the result, told from the history alone.
theorem shownMaterialisation {w : Workspace β} (ht : Tracks h w)
    (hl : w.reasoner.state.Loaded) :
    w.reasoner.shownMaterialisation w.kb =
      if Stale h then .wrong else if .completed ∈ sinceLoad h then .complete else .incomplete := by
  obtain ⟨kb, hr⟩ := ht.remembers hl
  have hadvanced : w.reasoner.advanced w.kb = true ↔ .changed ∈ sinceLoad h := by
    simp only [Reasoner.advanced, hr.version, hr.changed, bne_iff_ne]
    exact ne_comm
  have hcurrent (hc : w.reasoner.state.Current) :
      (if w.reasoner.advanced w.kb then .wrong else w.reasoner.materialisation) =
        if Stale h then Materialisation.wrong
        else if .completed ∈ sinceLoad h then .complete else .incomplete := by
    have hstale : Stale h ↔ .changed ∈ sinceLoad h := or_iff_left (ht.unnotified hc)
    simp only [ht.materialisation hc, hadvanced, hstale]
  unfold Reasoner.shownMaterialisation Reasoner.shownState
  cases hs : w.reasoner.state with
  | beforeLoading => simp [hs, ReasonerState.Loaded] at hl
  | afterLoading =>
    rw [← hcurrent (by simp [hs, ReasonerState.Current])]
    cases w.reasoner.advanced w.kb <;> rfl
  | afterReasoning =>
    rw [← hcurrent (by simp [hs, ReasonerState.Current])]
    cases w.reasoner.advanced w.kb <;> rfl
  | knowledgeBaseChanged => simp [ht.stale hs]
  | afterClosing => simp [hs, ReasonerState.Loaded] at hl

variable [Backend β]

theorem load (hs : r.state = .beforeLoading) :
    Tracks (Event.ofLoad kb (r.loadFresh kb).1 ++ h) ⟨kb, (r.loadFresh kb).2⟩ := by
  have hl := Reasoner.loading_loadFresh kb r
  generalize r.loadFresh kb = result at hl ⊢
  cases hl with
  | loaded _ _ _ =>
    refine ⟨?_, ?_, ?_, ?_, ?_⟩
    · intro _
      exact ⟨kb, rfl, rfl, rfl, Nat.le_refl _, fun _ => rfl, by simp [Event.ofLoad]⟩
    · intro hc
      cases hc
    · simp [Event.ofLoad]
    · simp [Event.ofLoad]
    · simp [Event.ofLoad]
  | unusableSource _ => exact of_not_loaded (by simp [hs, ReasonerState.Loaded])
  | notActivated _ _ => exact of_not_loaded (by simp [hs, ReasonerState.Loaded])
  | notPopulated _ _ _ => exact of_not_loaded (by simp [hs, ReasonerState.Loaded])

-- A run adds nothing to the history but that it derived everything.
theorem run (ht : Tracks h ⟨kb, r⟩) (counts : Bool) (hs : r.state = .afterLoading) :
    Tracks (r.runEvents counts ++ h) ⟨kb, r.finish counts⟩ := by
  obtain ⟨kb', hr⟩ := ht.remembers (by simp [hs, ReasonerState.Loaded])
  have hunnotified := ht.unnotified (by simp [hs, ReasonerState.Current])
  have hunfinished := ht.unfinished hs
  have hm := ht.materialisation (by simp [hs, ReasonerState.Current])
  simp only [hunfinished, if_false] at hm
  have hrunning := r.running_finish counts
  generalize r.runEvents counts = events at hrunning ⊢
  generalize r.finish counts = r' at hrunning ⊢
  cases hrunning with
  | @ended completed b _ =>
    cases hcompleted : completed && counts with
    | true =>
      have hsince : sinceLoad (.completed :: h) = .completed :: sinceLoad h := sinceLoad_cons rfl
      exact of_reasoned rfl (hr.congr (lastLoad_cons rfl) (by simp [hsince]) rfl rfl rfl)
        (by simpa [hsince] using hunnotified) (by simp [hsince])
    | false =>
      exact of_reasoned rfl (hr.congr rfl Iff.rfl rfl rfl rfl) hunnotified
        (by simp [hunfinished])
  | failed _ =>
    exact of_reasoned rfl (hr.congr rfl Iff.rfl rfl rfl rfl) hunnotified
      (by simpa [hunfinished] using hm)

-- One move of a workspace.
theorem move {e : List Event} {w w' : Workspace β} (ht : Tracks h w) (hm : Move drift e w w') :
    Tracks (e ++ h) w' := by
  cases hm with
  | edit hkb => exact ht.edit hkb
  | drift _ => exact ht.congr rfl rfl rfl rfl
  | observe => exact ht.observe
  | notify => exact ht.notify
  | unload _ => exact of_not_loaded id
  | close _ => exact of_not_loaded (by simp [Reasoner.not_loaded_close])
  | load hs => exact load hs
  | run counts hs => exact ht.run counts hs
  | configure settings _ _ _ => exact ht.congr rfl rfl rfl rfl
  | setLogLevel level _ => exact ht.congr rfl rfl rfl rfl
  | setLogFile path _ => exact ht.congr rfl rfl rfl rfl

end Tracks

variable [Backend β]

theorem Opened.state_eq {b : β} {r : Reasoner β} (h : Opened b r) : r.state = .beforeLoading := by
  cases h with
  | new => rfl
  | configured h =>
    unfold Reasoner.configured at h
    split at h
    · cases h
    · obtain rfl := Except.ok.inj h
      rfl

theorem Run.tracks {drift : β → β → Prop} {start w : Workspace β}
    {steps : List (Workspace β × Action)} (hstart : start.reasoner.state = .beforeLoading)
    (h : Run drift start steps w) : Tracks (history steps) w := by
  have ht : Tracks [] start := .of_not_loaded (by simp [hstart, ReasonerState.Loaded])
  simpa using h.moves.invariant .move [] ht

-- What an answer says of its own worth. Only answers to queries say something.
def Answer.correctness? : Answer → Option Correctness
  | answers a => some a.correctness
  | count a => some a.correctness
  | exported a => some a.materialisation.correctness
  | _ => none

namespace Reasoner

omit [Backend β] in
theorem whenQueryable_eq_ok {α : Type} {r : Reasoner β} {act : Except ReasonerError α} {a : α}
    (h : r.whenQueryable act = .ok a) : r.state.Loaded ∧ act = .ok a := by
  unfold whenQueryable whenLoaded at h
  split at h
  next => cases h
  next => cases h
  next hbefore hclosed =>
    refine ⟨?_, h⟩
    cases hs : r.state with
    | beforeLoading => exact absurd hs hbefore
    | afterClosing => exact absurd hs hclosed
    | _ => trivial

theorem answerQuery_eq_ok {kb : KnowledgeBase} {query : Atom} {nulls : Bool} {r : Reasoner β}
    {a : QueryAnswers} (h : r.answerQuery kb query nulls = .ok a) :
    r.state.Loaded ∧ a.materialisation = r.shownMaterialisation kb := by
  obtain ⟨hl, h⟩ := whenQueryable_eq_ok h
  split at h
  · cases h
  · obtain rfl := Except.ok.inj h
    exact ⟨hl, rfl⟩

theorem exportQueryAnswers_eq_ok {kb : KnowledgeBase} {query : Atom} {nulls : Bool}
    {file : OutputFile} {r : Reasoner β} {a : Export}
    (h : r.exportQueryAnswers kb query nulls file = .ok a) :
    r.state.Loaded ∧ a.materialisation = r.shownMaterialisation kb := by
  obtain ⟨hl, h⟩ := whenQueryable_eq_ok h
  split at h
  · cases h
  · split at h
    · cases h
    · obtain rfl := Except.ok.inj h
      exact ⟨hl, rfl⟩

end Reasoner

private theorem exists_of_map_eq_ok {ε α γ : Type} {x : Except ε α} {f : α → γ} {c : γ}
    (h : x.map f = .ok c) : ∃ a, x = .ok a ∧ f a = c := by
  cases x with
  | error e => cases h
  | ok a => exact ⟨a, rfl, Except.ok.inj h⟩

-- An answer says what the reasoner shows at that time.
theorem Workspace.correctness_of_perform {w : Workspace β} {a : Action} {answer : Answer}
    {tag : Correctness} (h : (w.perform a).1 = .ok answer) (htag : answer.correctness? = some tag) :
    w.reasoner.state.Loaded ∧ tag = (w.reasoner.shownMaterialisation w.kb).correctness := by
  have hquiet {α : Type} {x : Except ReasonerError α} {f : α → Answer}
      (hx : x.map f = .ok answer) (hf : ∀ a, (f a).correctness? = none) : False := by
    obtain ⟨a, -, rfl⟩ := exists_of_map_eq_ok hx
    simp [hf a] at htag
  cases a with
  | query atom nulls =>
    obtain ⟨a, ha, rfl⟩ := exists_of_map_eq_ok h
    obtain ⟨hl, hm⟩ := Reasoner.answerQuery_eq_ok ha
    obtain rfl := Option.some.inj htag
    exact ⟨hl, congrArg Materialisation.correctness hm⟩
  | count atom nulls =>
    obtain ⟨c, hc, rfl⟩ := exists_of_map_eq_ok h
    obtain ⟨a, ha, rfl⟩ := exists_of_map_eq_ok hc
    obtain ⟨hl, hm⟩ := Reasoner.answerQuery_eq_ok ha
    obtain rfl := Option.some.inj htag
    exact ⟨hl, congrArg Materialisation.correctness hm⟩
  | exportCsv atom nulls path =>
    obtain ⟨a, ha, rfl⟩ := exists_of_map_eq_ok h
    obtain ⟨hl, hm⟩ := Reasoner.exportQueryAnswers_eq_ok ha
    obtain rfl := Option.some.inj htag
    exact ⟨hl, congrArg Materialisation.correctness hm⟩
  | load | reason | supervise | reset | checkNotion | checkForCycles | setTimeout
  | setHeadStrategy | setLogLevel | setLogFile => exact (hquiet h fun _ => rfl).elim
  | close | add | addMany | remove | notify | setAlgorithm =>
    obtain rfl := Except.ok.inj h
    cases htag

-- In every run, whatever the engine does, an answer is tagged by what happened since the last
-- load: as possibly wrong after a change or a notice, else as complete after a run that derived
-- everything. What was compiled for an answer that is tagged as complete are the statements of
-- that moment.
theorem correctness_of_run {drift : β → β → Prop} {b : β} {r : Reasoner β} {kb : KnowledgeBase}
    {steps : List (Workspace β × Action)} {w : Workspace β} {a : Action} {answer : Answer}
    {tag : Correctness} (hopened : Opened b r) (hrun : Run drift ⟨kb, r⟩ steps w)
    (hanswer : (w.perform a).1 = .ok answer) (htag : answer.correctness? = some tag) :
    (tag =
      if Stale (Run.history steps) then .incorrect
      else if .completed ∈ sinceLoad (Run.history steps) then .soundAndComplete
      else .soundButIncomplete) ∧
    ∃ loaded, lastLoad (Run.history steps) = some loaded ∧
      w.reasoner.index = .build loaded.statements ∧
      (tag = .soundAndComplete → loaded.statements = w.kb.statements) := by
  have ht := hrun.tracks hopened.state_eq
  obtain ⟨hl, htag⟩ := Workspace.correctness_of_perform hanswer htag
  rw [ht.shownMaterialisation hl] at htag
  obtain ⟨loaded, hr⟩ := ht.remembers hl
  refine ⟨?_, loaded, hr.loaded, hr.index, ?_⟩
  · rw [htag]
    split
    · rfl
    · split <;> rfl
  · intro hcomplete
    have hstale : ¬Stale (Run.history steps) := by
      intro hs
      rw [if_pos hs, hcomplete] at htag
      cases htag
    have hversion : loaded.version = w.kb.version :=
      Decidable.byContradiction fun hne => hstale (.inl (hr.changed.mpr hne))
    exact congrArg KnowledgeBase.statements (hr.eq_of_version hversion)

-- A fact is loaded, and a run derives everything.

def Workspace.withFact : Workspace Recorder :=
  ⟨⟨[.fact ⟨⟨"r", [.constant "c"]⟩, rfl⟩], 1⟩, .new ({} : Recorder)⟩

def Workspace.withFactLoaded : Workspace Recorder :=
  (withFact.perform .load).2

def Workspace.withFactReasoned : Workspace Recorder :=
  (withFactLoaded.perform .reason).2

def Workspace.withFactSteps : List (Workspace Recorder × Action) :=
  [(withFactLoaded, .reason), (withFact, .load)]

-- The answer to a query is complete then.
theorem correctness_withFactReasoned :
    (Correctness.soundAndComplete =
      if Stale (Run.history Workspace.withFactSteps) then .incorrect
      else if .completed ∈ sinceLoad (Run.history Workspace.withFactSteps) then .soundAndComplete
      else .soundButIncomplete) ∧
    ∃ kb, lastLoad (Run.history Workspace.withFactSteps) = some kb ∧
      Workspace.withFactReasoned.reasoner.index = .build kb.statements ∧
      (Correctness.soundAndComplete = .soundAndComplete →
        kb.statements = Workspace.withFactReasoned.kb.statements) := by
  have hrun : Run (fun _ _ => False) Workspace.withFact Workspace.withFactSteps
      Workspace.withFactReasoned :=
    .action .reason (.action .load .start)
  have hanswer : (Workspace.withFactReasoned.perform (.query ⟨"r", [.universal "X"]⟩ true)).1 =
      .ok (.answers ⟨[[.constant "c"]], .complete⟩) := rfl
  exact correctness_of_run .new hrun hanswer rfl

end Rulebook
