import Rulebook.Rule
import Rulebook.Declaration

namespace Rulebook

-- What a knowledge base is made of.
inductive Statement
  | fact (fact : Fact)
  | rule (rule : Rule)
  | dataSource (declaration : Declaration)
  deriving DecidableEq

namespace Statement

def text : Statement → String
  | fact f => f.text
  | rule r => r.text
  | dataSource d => d.text

-- The same statement, perhaps with a differently spelled path.
def same : Statement → Statement → Bool
  | fact f, fact g => f = g
  | rule r, rule s => r = s
  | dataSource d, dataSource e => d.same e
  | _, _ => false

def fact? : Statement → Option Fact
  | fact f => some f
  | _ => none

def rule? : Statement → Option Rule
  | rule r => some r
  | _ => none

def declaration? : Statement → Option Declaration
  | dataSource d => some d
  | _ => none

end Statement

end Rulebook
