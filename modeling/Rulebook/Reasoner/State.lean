namespace Rulebook

-- Where a reasoner is in its life.
inductive ReasonerState
  -- nothing has been handed to the engine
  | beforeLoading
  -- the engine holds the compiled statements
  | afterLoading
  -- a run has been started, and perhaps finished
  | afterReasoning
  -- the knowledge base is no longer what was loaded
  | knowledgeBaseChanged
  -- for good
  | afterClosing
  deriving DecidableEq

def ReasonerState.text : ReasonerState → String
  | beforeLoading => "BEFORE_LOADING"
  | afterLoading => "AFTER_LOADING"
  | afterReasoning => "AFTER_REASONING"
  | knowledgeBaseChanged => "KNOWLEDGE_BASE_CHANGED"
  | afterClosing => "AFTER_CLOSING"

-- What can be said of a set of answers.
inductive Correctness
  | soundAndComplete
  | soundButIncomplete
  | incorrect
  deriving DecidableEq

def Correctness.text : Correctness → String
  | soundAndComplete => "sound and complete"
  | soundButIncomplete => "sound but possibly incomplete"
  | incorrect => "possibly incorrect"

-- Whether the result of reasoning can be trusted.
inductive Materialisation
  -- there is none yet, or the run stopped early
  | incomplete
  -- everything has been derived
  | complete
  -- the knowledge base has changed since
  | wrong
  deriving DecidableEq

def Materialisation.text : Materialisation → String
  | incomplete => "INCOMPLETE"
  | complete => "COMPLETE"
  | wrong => "WRONG"

def Materialisation.correctness : Materialisation → Correctness
  | incomplete => .soundButIncomplete
  | complete => .soundAndComplete
  | wrong => .incorrect

-- Criteria on rules. All but the last are sufficient for every run to end; the last is
-- sufficient for some run not to end.
inductive CyclicityNotion
  | ja
  | rja
  | mfa
  | rmfa
  | mfc
  deriving DecidableEq

def CyclicityNotion.text : CyclicityNotion → String
  | ja => "JA"
  | rja => "RJA"
  | mfa => "MFA"
  | rmfa => "RMFA"
  | mfc => "MFC"

inductive CyclicCheck
  | cyclic
  | nonCyclic
  deriving DecidableEq

def CyclicCheck.text : CyclicCheck → String
  | cyclic => "Cyclic"
  | nonCyclic => "NonCyclic"

-- The verdict over all notions.
inductive Cyclicity
  | acyclic
  | cyclic
  | undetermined
  deriving DecidableEq

def Cyclicity.text : Cyclicity → String
  | acyclic => "Acyclic"
  | cyclic => "Cyclic"
  | undetermined => "Undetermined"

end Rulebook
