import Rulebook.Exchange.Model
import Rulebook.Json.Printer
import Rulebook.Json.Text
import Rulebook.KnowledgeBase

namespace Rulebook.KnowledgeBase

def toJson? (kb : KnowledgeBase) : Option Json :=
  (kb.statements.mapM Statement.toJson?).map .array

-- The text of the file that a knowledge base is saved to. A file that cannot be written does not
-- matter if there is no text to write.
def saveFile (path : Path) (writable : Bool) (kb : KnowledgeBase) : Except KbError String :=
  match kb.toJson? with
  | none => .error (.parse path.shown "path contains invalid UTF-8 characters")
  | some j => if writable then .ok (j.pretty 0) else .error (.write path.shown)

-- Read a saved knowledge base. All statements are added at once.
def load (text : String) : Decoded KnowledgeBase :=
  (Json.decode (Json.asList Statement.ofJson) text).map ofStatements

-- The knowledge base in a file, given what the file holds if it can be read.
def loadFile (path : Path) : Option String → Except KbError KnowledgeBase
  | none => .error (.read path.shown)
  | some text =>
    match load text with
    | .ok kb => .ok kb
    | .error .malformed => .error (.parse path.shown "malformed JSON")
    | .error (.model e) => .error (.parse path.shown e.message)

end Rulebook.KnowledgeBase
