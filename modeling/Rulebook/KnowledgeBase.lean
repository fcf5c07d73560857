import Rulebook.Diagnostic
import Rulebook.Statement

namespace Rulebook

-- Statements in order, and how often they have been changed.
structure KnowledgeBase where
  statements : List Statement := []
  version : Nat := 0
  deriving DecidableEq

namespace KnowledgeBase

def add (s : Statement) (kb : KnowledgeBase) : KnowledgeBase :=
  ⟨kb.statements ++ [s], kb.version + 1⟩

-- Adding several statements is one change, and adding none is no change.
def addMany (ss : List Statement) (kb : KnowledgeBase) : KnowledgeBase :=
  if ss.isEmpty then kb else ⟨kb.statements ++ ss, kb.version + 1⟩

-- Remove the first occurrence of a statement, if there is one.
def remove (s : Statement) (kb : KnowledgeBase) : Bool × KnowledgeBase :=
  if kb.statements.any (·.same s) then
    (true, ⟨kb.statements.eraseP (·.same s), kb.version + 1⟩)
  else (false, kb)

def ofStatements (ss : List Statement) : KnowledgeBase :=
  ({} : KnowledgeBase).addMany ss

def facts (kb : KnowledgeBase) : List Fact :=
  kb.statements.filterMap Statement.fact?

def rules (kb : KnowledgeBase) : List Rule :=
  kb.statements.filterMap Statement.rule?

def declarations (kb : KnowledgeBase) : List Declaration :=
  kb.statements.filterMap Statement.declaration?

end KnowledgeBase

-- Why a knowledge base cannot be read from a file or written to one.
inductive KbError
  | read (path : String)
  | write (path : String)
  | parse (path message : String)
  deriving DecidableEq

namespace KbError

def diagnostic : KbError → Diagnostic
  | read path =>
    ⟨"chaseward::kb::read", "failed to read knowledge base: " ++ path,
      some "Ensure the file exists and is readable."⟩
  | write path =>
    ⟨"chaseward::kb::write", "failed to write knowledge base: " ++ path,
      some "Ensure the parent directory exists and you have write permissions."⟩
  | parse path message =>
    ⟨"chaseward::kb::parse", "failed to parse knowledge base " ++ path ++ ": " ++ message,
      some ("The file must be a JSON array of statements, each one of \x7b\"fact\": ...\x7d, " ++
        "\x7b\"rule\": ...\x7d or \x7b\"data_source\": ...\x7d.")⟩

end KbError

end Rulebook
