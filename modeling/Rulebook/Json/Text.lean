import Rulebook.Json.Reader
import Rulebook.Json.Record

namespace Rulebook.Json

-- Read a value from a text. What stands after the value comes into view last.
def decode {α : Type} (ofJson : Json → Decoded α) (text : String) : Decoded α :=
  match ofJson (read text).value with
  | .error e => .error e
  | .ok a => if (read text).complete then .ok a else .error .malformed

end Rulebook.Json
