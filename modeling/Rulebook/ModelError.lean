import Rulebook.Diagnostic
import Rulebook.Text.Quoted

namespace Rulebook

-- What can carry a name.
inductive Named
  | predicate
  | term
  deriving DecidableEq

def Named.text : Named → String
  | .predicate => "predicate"
  | .term => "term"

-- Why a fact, a rule, an atom or a term cannot be built.
inductive ModelError
  | nonGroundFact (atom : String)
  | emptyHead
  | emptyConjunction
  | blankLanguageTag (value : String)
  | emptyName (what : Named)
  deriving DecidableEq

namespace ModelError

def message : ModelError → String
  | nonGroundFact atom => "fact " ++ atom ++ " is not ground"
  | emptyHead => "rule head must contain at least one atom"
  | emptyConjunction => "conjunction must contain at least one literal"
  | blankLanguageTag value => "language tag of string " ++ Text.quoted value ++ " is blank"
  | emptyName what => what.text ++ " name must not be empty"

def code : ModelError → String
  | nonGroundFact _ => "chaseward::model::non_ground_fact"
  | emptyHead => "chaseward::model::empty_head"
  | emptyConjunction => "chaseward::model::empty_conjunction"
  | blankLanguageTag _ => "chaseward::model::blank_language_tag"
  | emptyName _ => "chaseward::model::empty_name"

def help : ModelError → String
  | nonGroundFact _ =>
    "Facts may only contain constants and language-tagged strings. " ++
      "Write the statement as a rule if it needs variables."
  | emptyHead => "Every rule derives something: give the head at least one positive literal."
  | emptyConjunction => "Remove the empty conjunction or add a literal to it."
  | blankLanguageTag _ => "Language-tagged strings need a non-blank tag such as \"en\"."
  | emptyName _ => "Predicates, constants and variables are identified by a non-empty name."

def diagnostic (e : ModelError) : Diagnostic :=
  ⟨e.code, e.message, some e.help⟩

end ModelError

end Rulebook
