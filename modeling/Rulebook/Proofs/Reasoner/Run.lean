import Rulebook.Reasoner.Action

namespace Rulebook

-- What matters to the worth of later answers.
inductive Event
  -- a knowledge base was handed to the engine
  | loaded (kb : KnowledgeBase)
  -- a run derived everything, and nobody had given up on it
  | completed
  -- the reasoner was told of a change
  | notified
  -- the version of the knowledge base changed
  | changed
  deriving DecidableEq

-- The event of loading a knowledge base, if that succeeds.
def Event.ofLoad (kb : KnowledgeBase) : Except ReasonerError Unit → List Event
  | .ok () => [.loaded kb]
  | .error _ => []

variable {β : Type} [Backend β]

namespace Reasoner

-- The event of a run, by what the engine answers when it is called. A run that was given up on
-- does not count.
def runEvents (counts : Bool) (r : Reasoner β) : List Event :=
  match (Backend.materialize (r.settings.algorithm = .skolemChase) r.settings.timeoutSeconds
    r.backend).1 with
  | .ok completed => if completed && counts then [.completed] else []
  | .error _ => []

-- The reasoner after a run.
def finish (counts : Bool) (r : Reasoner β) : Reasoner β :=
  match r.launch with
  | (.error _, r) => r
  | (.ok completed, r) => r.record (completed && counts)

-- The event of preparing for a run: what was loaded already is not loaded again.
def prepareEvents (kb : KnowledgeBase) (r : Reasoner β) : List Event :=
  if (r.observe kb).state = .afterLoading then [] else Event.ofLoad kb (r.prepare kb).1

-- What a run does to a reasoner, with the events, whether or not the engine reports its end.
inductive Running (counts : Bool) (r : Reasoner β) : List Event × Reasoner β → Prop
  | ended {completed : Bool} {b : β}
      (hrun : Backend.materialize (r.settings.algorithm = .skolemChase) r.settings.timeoutSeconds
        r.backend = (.ok completed, b)) :
      Running counts r
        (if completed && counts then [.completed] else [],
          { r with
            backend := b
            state := .afterReasoning
            completed := completed && counts
            materialisation := if completed && counts then .complete else .incomplete })
  | failed {e : BackendError} {b : β}
      (hrun : Backend.materialize (r.settings.algorithm = .skolemChase) r.settings.timeoutSeconds
        r.backend = (.error e, b)) :
      Running counts r ([], { r with backend := b, state := .afterReasoning })

theorem running_finish (counts : Bool) (r : Reasoner β) :
    Running counts r (r.runEvents counts, r.finish counts) := by
  unfold runEvents finish launch
  rcases hrun : Backend.materialize (r.settings.algorithm = .skolemChase)
    r.settings.timeoutSeconds r.backend with ⟨e | completed, b⟩
  · exact .failed hrun
  · exact .ended hrun

def reasonEvents (counts : Bool) (kb : KnowledgeBase) (r : Reasoner β) : List Event :=
  match r.prepare kb with
  | (.error _, _) => r.prepareEvents kb
  | (.ok (), r') => r'.runEvents counts ++ r.prepareEvents kb

-- The reasoner after reasoning.
def reasoned (counts : Bool) (kb : KnowledgeBase) (r : Reasoner β) : Reasoner β :=
  match r.prepare kb with
  | (.error _, r') => r'
  | (.ok (), r') => r'.finish counts

theorem reason_eq_reasoned (kb : KnowledgeBase) (r : Reasoner β) :
    (r.reason kb).2 = r.reasoned true kb := by
  unfold reason reasoned
  rcases r.prepare kb with ⟨e | _, r'⟩
  · rfl
  · unfold finish
    rcases hl : r'.launch with ⟨e | completed, r''⟩
    · simp [hl]
    · simp [hl]

-- Only a run within its limit counts.
theorem superviseReason_eq_reasoned (kb : KnowledgeBase) (limit : Nat) (pace : Pace)
    (r : Reasoner β) :
    (r.superviseReason kb limit pace).2 = r.reasoned (pace = .withinLimit) kb := by
  unfold superviseReason reasoned
  rcases r.prepare kb with ⟨e | _, r'⟩
  · rfl
  · unfold finish
    rcases hl : r'.launch with ⟨e | completed, r''⟩
    · cases pace <;> simp [hl]
    · cases pace <;> simp [hl, settle, Pace.ticketAtEnd, Ticket.abandon, Ticket.finish]

-- What loading does to a reasoner, success and the ways to fail.
inductive Loading (kb : KnowledgeBase) (r : Reasoner β) :
    Except ReasonerError Unit × Reasoner β → Prop
  | loaded {config : String} {b b' : β}
      (hconfig : (Classification.build kb.statements).sourceConfiguration = .ok config)
      (hactivate : Backend.activate config r.backend = (.ok (), b))
      (hpopulate : populate r.settings (.build kb.statements) b = (.ok (), b')) :
      Loading kb r (.ok (),
        { r with
          backend := b'
          index := .build kb.statements
          state := .afterLoading
          materialisation := .incomplete
          completed := false
          loadedVersion := some kb.version })
  | unusableSource {e : SourceError}
      (hconfig : (Classification.build kb.statements).sourceConfiguration = .error e) :
      Loading kb r (.error (.configuration e.message), { r with index := .build kb.statements })
  | notActivated {config : String} {e : BackendError} {b : β}
      (hconfig : (Classification.build kb.statements).sourceConfiguration = .ok config)
      (hactivate : Backend.activate config r.backend = (.error e, b)) :
      Loading kb r (.error (.ofBackend e), { r with index := .build kb.statements, backend := b })
  | notPopulated {config : String} {e : ReasonerError} {b b' : β}
      (hconfig : (Classification.build kb.statements).sourceConfiguration = .ok config)
      (hactivate : Backend.activate config r.backend = (.ok (), b))
      (hpopulate : populate r.settings (.build kb.statements) b = (.error e, b')) :
      Loading kb r
        (.error e, { r with index := .build kb.statements, backend := Backend.stop b' })

theorem loading_loadFresh (kb : KnowledgeBase) (r : Reasoner β) :
    Loading kb r (r.loadFresh kb) := by
  unfold loadFresh
  simp only
  split
  · exact .unusableSource ‹_›
  · split
    · exact .notActivated ‹_› ‹_›
    · split
      · exact .notPopulated ‹_› ‹_› ‹_›
      · exact .loaded ‹_› ‹_› ‹_›

theorem index_loadFresh (kb : KnowledgeBase) (r : Reasoner β) :
    (r.loadFresh kb).2.index = .build kb.statements := by
  have hl := loading_loadFresh kb r
  generalize r.loadFresh kb = result at hl ⊢
  cases hl <;> rfl

-- A load that succeeds leaves a loaded reasoner.
theorem state_of_loadFresh_ok {kb : KnowledgeBase} {r : Reasoner β}
    (h : (r.loadFresh kb).1 = .ok ()) : (r.loadFresh kb).2.state = .afterLoading := by
  have hl := loading_loadFresh kb r
  generalize r.loadFresh kb = result at h hl ⊢
  cases hl with
  | loaded _ _ _ => rfl
  | unusableSource _ => cases h
  | notActivated _ _ => cases h
  | notPopulated _ _ _ => cases h

theorem index_of_load_ok {kb : KnowledgeBase} {r : Reasoner β}
    (h : (r.load kb).1 = .ok ()) : (r.load kb).2.index = .build kb.statements := by
  unfold load at h ⊢
  simp only at h ⊢
  split at h
  · cases h
  · exact index_loadFresh _ _
  · exact index_loadFresh _ _

theorem state_of_load_ok {kb : KnowledgeBase} {r : Reasoner β}
    (h : (r.load kb).1 = .ok ()) : (r.load kb).2.state = .afterLoading := by
  unfold load at h ⊢
  simp only at h ⊢
  split at h
  · cases h
  · exact state_of_loadFresh_ok h
  · exact state_of_loadFresh_ok h

theorem state_of_prepare_ok {kb : KnowledgeBase} {r : Reasoner β}
    (h : (r.prepare kb).1 = .ok ()) : (r.prepare kb).2.state = .afterLoading := by
  unfold prepare at h ⊢
  simp only at h ⊢
  split at h
  · cases h
  · exact state_of_load_ok h
  · assumption
  · exact state_of_load_ok h
  · exact state_of_load_ok h

end Reasoner

-- The moves that operations are made of, with their events, the latest first. Between two
-- operations the engine itself may drift to another state.
inductive Move (drift : β → β → Prop) : List Event → Workspace β → Workspace β → Prop
  | edit {kb kb' : KnowledgeBase} {r : Reasoner β} (h : kb.version < kb'.version) :
      Move drift [.changed] ⟨kb, r⟩ ⟨kb', r⟩
  | drift {kb : KnowledgeBase} {r : Reasoner β} {b : β} (h : drift r.backend b) :
      Move drift [] ⟨kb, r⟩ ⟨kb, { r with backend := b }⟩
  | observe {kb : KnowledgeBase} {r : Reasoner β} :
      Move drift [] ⟨kb, r⟩ ⟨kb, r.observe kb⟩
  | notify {kb : KnowledgeBase} {r : Reasoner β} :
      Move drift [.notified] ⟨kb, r⟩ ⟨kb, r.markChanged⟩
  | unload {kb : KnowledgeBase} {r : Reasoner β} (hs : r.state ≠ .afterClosing) :
      Move drift [] ⟨kb, r⟩ ⟨kb, r.unload⟩
  | close {kb : KnowledgeBase} {r : Reasoner β} (hs : r.state ≠ .afterClosing) :
      Move drift [] ⟨kb, r⟩ ⟨kb, r.close⟩
  | load {kb : KnowledgeBase} {r : Reasoner β} (hs : r.state = .beforeLoading) :
      Move drift (Event.ofLoad kb (r.loadFresh kb).1) ⟨kb, r⟩ ⟨kb, (r.loadFresh kb).2⟩
  | run {kb : KnowledgeBase} {r : Reasoner β} (counts : Bool) (hs : r.state = .afterLoading) :
      Move drift (r.runEvents counts) ⟨kb, r⟩ ⟨kb, r.finish counts⟩
  | configure {kb : KnowledgeBase} {r : Reasoner β} (settings : ReasonerSettings)
      (hlevel : settings.logLevel = r.settings.logLevel)
      (hstrategy : r.state = .beforeLoading ∨ settings.headStrategy = r.settings.headStrategy)
      (htimeout : settings.timeoutSeconds = some 0 → r.settings.timeoutSeconds = some 0) :
      Move drift [] ⟨kb, r⟩ ⟨kb, { r with settings := settings }⟩
  | setLogLevel {kb : KnowledgeBase} {r : Reasoner β} (level : LogLevel)
      (hs : r.state ≠ .afterClosing) :
      Move drift [] ⟨kb, r⟩
        ⟨kb, { r with
          settings := { r.settings with logLevel := level }
          backend := Backend.setLogLevel level r.backend }⟩
  | setLogFile {kb : KnowledgeBase} {r : Reasoner β} (path : Path)
      (hs : r.state ≠ .afterClosing) :
      Move drift [] ⟨kb, r⟩ ⟨kb, { r with backend := (Backend.setLogFile path r.backend).2 }⟩

inductive Moves (drift : β → β → Prop) : List Event → Workspace β → Workspace β → Prop
  | refl {w : Workspace β} : Moves drift [] w w
  | tail {h e : List Event} {w w' w'' : Workspace β} (hs : Moves drift h w w')
      (hm : Move drift e w' w'') : Moves drift (e ++ h) w w''

namespace Moves

variable {drift : β → β → Prop} {h e : List Event} {w w' w'' : Workspace β}

theorem single (hm : Move drift e w w') : Moves drift e w w' := by
  simpa using Moves.tail .refl hm

theorem trans (hs : Moves drift h w w') (hs' : Moves drift e w' w'') :
    Moves drift (e ++ h) w w'' := by
  induction hs' with
  | refl => exact hs
  | tail _ hm ih => simpa only [List.append_assoc] using (ih hs).tail hm

-- What every move keeps, a sequence of moves keeps.
theorem invariant {I : List Event → Workspace β → Prop}
    (hstep : ∀ {h e w w'}, I h w → Move drift e w w' → I (e ++ h) w')
    (h₀ : List Event) (hI : I h₀ w) (hs : Moves drift h w w') : I (h ++ h₀) w' := by
  induction hs with
  | refl => exact hI
  | tail _ hm ih => simpa only [List.append_assoc] using hstep (ih hI) hm

-- Every operation is a sequence of moves.

section Operations

variable (kb : KnowledgeBase) (r : Reasoner β)

theorem load : Moves drift (Event.ofLoad kb (r.load kb).1) ⟨kb, r⟩ ⟨kb, (r.load kb).2⟩ := by
  have hobserve : Moves drift [] ⟨kb, r⟩ ⟨kb, r.observe kb⟩ := .single .observe
  unfold Reasoner.load
  simp only
  split
  next => exact hobserve
  next hs => simpa using hobserve.trans (.single (.load hs))
  next hclosed hbefore =>
    simpa using (hobserve.trans (.single (.unload hclosed))).trans (.single (.load rfl))

theorem prepare : Moves drift (r.prepareEvents kb) ⟨kb, r⟩ ⟨kb, (r.prepare kb).2⟩ := by
  have hobserve : Moves drift [] ⟨kb, r⟩ ⟨kb, r.observe kb⟩ := .single .observe
  unfold Reasoner.prepareEvents Reasoner.prepare
  cases hs : (r.observe kb).state with
  | beforeLoading => simpa [hs] using hobserve.trans (load kb _)
  | afterLoading => simpa [hs] using hobserve
  | afterReasoning =>
    have hunload := hobserve.trans (.single (.unload (by simp [hs])))
    simpa [hs] using hunload.trans (load kb _)
  | knowledgeBaseChanged =>
    have hunload := hobserve.trans (.single (.unload (by simp [hs])))
    simpa [hs] using hunload.trans (load kb _)
  | afterClosing => simpa [hs, Event.ofLoad] using hobserve

theorem reasoned (counts : Bool) :
    Moves drift (r.reasonEvents counts kb) ⟨kb, r⟩ ⟨kb, r.reasoned counts kb⟩ := by
  have hprepare : Moves drift _ _ _ := prepare kb r
  unfold Reasoner.reasonEvents Reasoner.reasoned
  rcases hp : r.prepare kb with ⟨e | _, r'⟩
  · simpa [hp] using hprepare
  · have hok : (r.prepare kb).1 = .ok () := by rw [hp]
    have hs := Reasoner.state_of_prepare_ok hok
    simpa [hp] using hprepare.trans (.single (.run counts hs))

theorem reset : Moves drift [] ⟨kb, r⟩ ⟨kb, (r.reset kb).2⟩ := by
  have hobserve : Moves drift [] ⟨kb, r⟩ ⟨kb, r.observe kb⟩ := .single .observe
  unfold Reasoner.reset
  simp only
  split
  next => exact hobserve
  next hs => exact hobserve.trans (.single (.unload hs))

theorem close : Moves drift [] ⟨kb, r⟩ ⟨kb, r.close⟩ := by
  by_cases hs : r.state = .afterClosing
  · simpa [Reasoner.close, hs] using Moves.refl
  · exact .single (.close hs)

theorem setAlgorithm (algorithm : Algorithm) :
    Moves drift [] ⟨kb, r⟩ ⟨kb, r.setAlgorithm algorithm⟩ :=
  .single (.configure _ rfl (.inr rfl) id)

theorem setTimeout (seconds : Option Nat) :
    Moves drift [] ⟨kb, r⟩ ⟨kb, (r.setTimeout seconds).2⟩ := by
  unfold Reasoner.setTimeout
  split
  next => exact .refl
  next hs => exact .single (.configure _ rfl (.inr rfl) fun h => absurd h hs)

theorem setHeadStrategy (strategy : HeadStrategy) :
    Moves drift [] ⟨kb, r⟩ ⟨kb, (r.setHeadStrategy kb strategy).2⟩ := by
  have hobserve : Moves drift [] ⟨kb, r⟩ ⟨kb, r.observe kb⟩ := .single .observe
  unfold Reasoner.setHeadStrategy
  simp only
  split
  next hs =>
    let settings := { (r.observe kb).settings with headStrategy := strategy }
    exact hobserve.trans (.single (.configure settings rfl (.inl hs) id))
  next => exact hobserve

theorem setLogLevel (level : LogLevel) :
    Moves drift [] ⟨kb, r⟩ ⟨kb, (r.setLogLevel level).2⟩ := by
  unfold Reasoner.setLogLevel
  split
  next => exact .refl
  next hs => exact .single (.setLogLevel level hs)

theorem setLogFile (path : Path) :
    Moves drift [] ⟨kb, r⟩ ⟨kb, (r.setLogFile path).2⟩ := by
  unfold Reasoner.setLogFile
  split
  next => exact .refl
  next hs =>
    have hmove : Moves drift [] ⟨kb, r⟩ _ := .single (.setLogFile path hs)
    split
    next _ _ hb => simpa [hb] using hmove
    next _ hb => simpa [hb] using hmove

end Operations

end Moves

namespace Workspace

-- What happens when something is done, the latest first.
def events (w : Workspace β) : Action → List Event
  | .load => Event.ofLoad w.kb (w.reasoner.load w.kb).1
  | .reason => w.reasoner.reasonEvents true w.kb
  | .supervise _ pace => w.reasoner.reasonEvents (pace = .withinLimit) w.kb
  | .notify => [.notified]
  | a => if (w.perform a).2.kb.version = w.kb.version then [] else [.changed]

-- What is loaded is the knowledge base of that moment.
theorem eq_of_loaded_mem_events {w : Workspace β} {a : Action} {kb : KnowledgeBase}
    (h : .loaded kb ∈ w.events a) : kb = w.kb := by
  have hload {result : Except ReasonerError Unit}
      (h : .loaded kb ∈ Event.ofLoad w.kb result) : kb = w.kb := by
    cases result with
    | error e => simp [Event.ofLoad] at h
    | ok u => simpa [Event.ofLoad] using h
  have hprepare (h : .loaded kb ∈ w.reasoner.prepareEvents w.kb) : kb = w.kb := by
    unfold Reasoner.prepareEvents at h
    split at h
    · cases h
    · exact hload h
  have hreason {counts : Bool} (h : .loaded kb ∈ w.reasoner.reasonEvents counts w.kb) :
      kb = w.kb := by
    unfold Reasoner.reasonEvents at h
    split at h
    · exact hprepare h
    next r' _ =>
      rcases List.mem_append.mp h with h | h
      · unfold Reasoner.runEvents at h
        split at h
        · split at h <;> simp at h
        · cases h
      · exact hprepare h
  have hquiet {w' : Workspace β}
      (h : .loaded kb ∈ if w'.kb.version = w.kb.version then [] else [Event.changed]) : False := by
    split at h <;> simp at h
  cases a with
  | load => exact hload h
  | reason => exact hreason h
  | supervise limit pace => exact hreason h
  | notify => simp [events] at h
  | _ => exact (hquiet h).elim

-- Every change of the statements is a new version.
theorem kb_perform (w : Workspace β) (a : Action) :
    (w.perform a).2.kb = w.kb ∨ w.kb.version < (w.perform a).2.kb.version := by
  cases a with
  | add s => exact .inr (Nat.lt_succ_self _)
  | addMany ss =>
    simp only [perform, KnowledgeBase.addMany]
    split
    · exact .inl rfl
    · exact .inr (Nat.lt_succ_self _)
  | remove s =>
    simp only [perform, KnowledgeBase.remove]
    split
    · exact .inr (Nat.lt_succ_self _)
    · exact .inl rfl
  | _ => exact .inl rfl

end Workspace

namespace Moves

variable {drift : β → β → Prop}

-- An operation on the statements leaves the reasoner alone.
private theorem edit {w : Workspace β} {kb : KnowledgeBase}
    (h : kb = w.kb ∨ w.kb.version < kb.version) :
    Moves drift (if kb.version = w.kb.version then [] else [.changed]) w ⟨kb, w.reasoner⟩ := by
  rcases h with rfl | h
  · simpa using Moves.refl
  · simpa [Nat.ne_of_gt h] using Moves.single (.edit h)

-- An operation that leaves the statements alone, and with them their version.
private theorem quiet {w w' : Workspace β} (hkb : w'.kb = w.kb) (h : Moves drift [] w w') :
    Moves drift (if w'.kb.version = w.kb.version then [] else [.changed]) w w' := by
  simpa only [hkb, if_true] using h

theorem perform (w : Workspace β) (a : Action) :
    Moves drift (w.events a) w (w.perform a).2 := by
  have hkb := w.kb_perform a
  cases a with
  | load => exact load w.kb w.reasoner
  | reason =>
    have h : Moves drift _ _ _ := reasoned w.kb w.reasoner true
    rwa [← Reasoner.reason_eq_reasoned] at h
  | supervise limit pace =>
    have h : Moves drift _ _ _ := reasoned w.kb w.reasoner (pace = .withinLimit)
    rwa [← Reasoner.superviseReason_eq_reasoned w.kb limit] at h
  | notify => exact .single .notify
  | add s => exact edit hkb
  | addMany ss => exact edit hkb
  | remove s => exact edit hkb
  | reset => exact quiet rfl (reset w.kb w.reasoner)
  | close => exact quiet rfl (close w.kb w.reasoner)
  | setAlgorithm algorithm => exact quiet rfl (setAlgorithm w.kb w.reasoner algorithm)
  | setTimeout seconds => exact quiet rfl (setTimeout w.kb w.reasoner seconds)
  | setHeadStrategy strategy => exact quiet rfl (setHeadStrategy w.kb w.reasoner strategy)
  | setLogLevel level => exact quiet rfl (setLogLevel w.kb w.reasoner level)
  | setLogFile path => exact quiet rfl (setLogFile w.kb w.reasoner path)
  | query atom nulls => exact quiet rfl .refl
  | count atom nulls => exact quiet rfl .refl
  | exportCsv atom nulls path => exact quiet rfl .refl
  | checkNotion notion => exact quiet rfl .refl
  | checkForCycles => exact quiet rfl .refl

end Moves

-- A reasoner before anything has been done with it.
inductive Opened (b : β) : Reasoner β → Prop
  | new : Opened b (.new b)
  | configured {settings : ReasonerSettings} {r : Reasoner β}
      (h : Reasoner.configured b settings = .ok r) : Opened b r

-- A run from a workspace: what was done and where, the latest first. Between two operations the
-- engine itself may drift to another state.
inductive Run (drift : β → β → Prop) (start : Workspace β) :
    List (Workspace β × Action) → Workspace β → Prop
  | start : Run drift start [] start
  | action {steps : List (Workspace β × Action)} {w : Workspace β} (a : Action)
      (h : Run drift start steps w) : Run drift start ((w, a) :: steps) (w.perform a).2
  | drift {steps : List (Workspace β × Action)} {w : Workspace β} {b : β}
      (h : Run drift start steps w) (hb : drift w.reasoner.backend b) :
      Run drift start steps { w with reasoner := { w.reasoner with backend := b } }

namespace Run

variable {drift : β → β → Prop} {start w : Workspace β} {steps : List (Workspace β × Action)}

theorem mono {drift' : β → β → Prop} (hdrift : ∀ b b', drift b b' → drift' b b')
    (h : Run drift start steps w) : Run drift' start steps w := by
  induction h with
  | start => exact .start
  | action a _ ih => exact .action a ih
  | drift _ hb ih => exact .drift ih (hdrift _ _ hb)

-- The events of a run, the latest first.
def history (steps : List (Workspace β × Action)) : List Event :=
  steps.flatMap fun step => step.1.events step.2

-- The knowledge bases that a run comes along.
def knowledgeBases (steps : List (Workspace β × Action)) (w : Workspace β) : List KnowledgeBase :=
  w.kb :: steps.map fun step => step.1.kb

theorem moves (h : Run drift start steps w) : Moves drift (history steps) start w := by
  induction h with
  | start => exact .refl
  | action a _ ih => exact ih.trans (.perform _ a)
  | drift _ hb ih => exact ih.tail (.drift hb)

theorem mem_knowledgeBases_of_loaded {kb : KnowledgeBase} (h : .loaded kb ∈ history steps) :
    kb ∈ knowledgeBases steps w := by
  obtain ⟨step, hstep, hkb⟩ := List.mem_flatMap.mp h
  rw [Workspace.eq_of_loaded_mem_events hkb]
  exact List.mem_cons_of_mem _ (List.mem_map_of_mem hstep)

-- Later knowledge bases are the same or have later versions.
theorem pairwise_knowledgeBases (h : Run drift start steps w) :
    (knowledgeBases steps w).Pairwise fun kb kb' => kb = kb' ∨ kb'.version < kb.version := by
  induction h with
  | start => simp [knowledgeBases]
  | @action steps w a _ ih =>
    refine List.pairwise_cons.mpr ⟨?_, ih⟩
    intro kb hkb
    have hle : w.kb = kb ∨ kb.version < w.kb.version := by
      rcases List.mem_cons.mp hkb with rfl | hkb
      · exact .inl rfl
      · exact (List.pairwise_cons.mp ih).1 kb hkb
    rcases w.kb_perform a with he | hlt
    · rwa [he]
    · rcases hle with rfl | hle
      · exact .inr hlt
      · exact .inr (Nat.lt_trans hle hlt)
  | drift _ _ ih => exact ih

-- A run has one knowledge base for each version that it comes along.
theorem eq_of_version (h : Run drift start steps w) {kb kb' : KnowledgeBase}
    (hkb : kb ∈ knowledgeBases steps w) (hkb' : kb' ∈ knowledgeBases steps w)
    (hversion : kb.version = kb'.version) : kb = kb' := by
  have hpair := h.pairwise_knowledgeBases
  refine List.Pairwise.forall_of_forall_of_flip
    (R := fun kb kb' : KnowledgeBase => kb.version = kb'.version → kb = kb')
    (fun _ _ _ => rfl) (hpair.imp ?_) (hpair.imp ?_) hkb hkb' hversion
  · intro kb kb' hle hv
    exact hle.resolve_right (by omega)
  · intro kb kb' hle hv
    exact (hle.resolve_right (by omega)).symm

end Run

end Rulebook
