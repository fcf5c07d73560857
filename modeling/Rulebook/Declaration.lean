import Rulebook.Predicate
import Rulebook.DataSource

namespace Rulebook

-- Says where tuples of a predicate come from. A declaration without a source stands for the
-- facts that the knowledge base itself holds.
structure Declaration where
  predicate : Predicate
  source : Option DataSource
  deriving DecidableEq

namespace Declaration

def localFacts (p : Predicate) : Declaration :=
  ⟨p, none⟩

def isLocalFacts (d : Declaration) : Bool :=
  d.source.isNone

def text (d : Declaration) : String :=
  "@source " ++ d.predicate.text ++ ": " ++ (d.source.map DataSource.text).getD "facts" ++ " ."

instance : Ord Declaration :=
  ⟨compareLex (compareOn predicate) (compareOn fun d => d.source.toList)⟩

instance : Std.TransOrd Declaration :=
  inferInstanceAs (Std.TransCmp
    (compareLex (compareOn predicate) (compareOn fun d : Declaration => d.source.toList)))

-- The same declaration, perhaps with a differently spelled path.
def same (d e : Declaration) : Bool :=
  compare d e == .eq

end Declaration

end Rulebook
