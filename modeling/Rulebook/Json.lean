namespace Rulebook

-- A JSON value. Numbers are kept as written and members in their order. Escapes may make a string
-- that is no text: where it stands for a value nothing is kept of it, and where it names a member
-- the name is left empty. A text that stops being JSON is read up to there, and `broken` stands
-- for the rest of it.
inductive Json
  | null
  | bool (value : Bool)
  | number (literal : String)
  | string (text : String)
  | array (items : List Json)
  | object (members : List (String × Json))
  | noText
  | misnamed (value : Json)
  | broken
  deriving Inhabited

namespace Json

mutual

-- Nothing in the value is broken.
def intact : Json → Bool
  | .broken => false
  | .misnamed v => intact v
  | .array items => intactItems items
  | .object members => intactMembers members
  | _ => true

def intactItems : List Json → Bool
  | [] => true
  | v :: items => intact v && intactItems items

def intactMembers : List (String × Json) → Bool
  | [] => true
  | (_, v) :: members => intact v && intactMembers members

end

def ofNat (n : Nat) : Json :=
  .number (toString n)

def strings (texts : List String) : Json :=
  .array (texts.map .string)

end Json

end Rulebook
