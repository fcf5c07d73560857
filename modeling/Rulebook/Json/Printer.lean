import Rulebook.Json

namespace Rulebook.Json

-- The four hexadecimal digits of a control character.
def controlDigits (n : Nat) : List Char :=
  ['0', '0', Nat.digitChar (n / 16), Nat.digitChar (n % 16)]

-- Quotes, backslashes and controls are escaped, and nothing else.
def escapedChar (c : Char) : List Char :=
  if c = '"' then ['\\', '"']
  else if c = '\\' then ['\\', '\\']
  else if c = '\x08' then ['\\', 'b']
  else if c = '\t' then ['\\', 't']
  else if c = '\n' then ['\\', 'n']
  else if c = '\x0c' then ['\\', 'f']
  else if c = '\r' then ['\\', 'r']
  else if c.toNat < 0x20 then ['\\', 'u'] ++ controlDigits c.toNat
  else [c]

def stringText (s : String) : String :=
  String.ofList ('"' :: s.toList.flatMap escapedChar ++ ['"'])

mutual

-- Without any blanks.
def compact : Json → String
  | .null => "null"
  | .bool true => "true"
  | .bool false => "false"
  | .number literal => literal
  | .string text => stringText text
  | .array items => "[" ++ ",".intercalate (compactItems items) ++ "]"
  | .object members => "\x7b" ++ ",".intercalate (compactMembers members) ++ "\x7d"
  | .noText | .misnamed _ | .broken => ""

def compactItems : List Json → List String
  | [] => []
  | v :: items => compact v :: compactItems items

def compactMembers : List (String × Json) → List String
  | [] => []
  | (k, v) :: members => (stringText k ++ ":" ++ compact v) :: compactMembers members

end

-- The start of a line at a depth.
def margin (depth : Nat) : String :=
  String.ofList (List.replicate (2 * depth) ' ')

-- Parts between brackets, each on a line of its own. Without parts the brackets stay together.
def laidOut (depth : Nat) (opening closing : String) (parts : List String) : String :=
  if parts.isEmpty then opening ++ closing
  else
    opening ++ "\n" ++ ",\n".intercalate (parts.map (margin (depth + 1) ++ ·)) ++ "\n" ++
      margin depth ++ closing

mutual

-- One item or member a line, indented by its depth.
def pretty (depth : Nat) : Json → String
  | .null => "null"
  | .bool true => "true"
  | .bool false => "false"
  | .number literal => literal
  | .string text => stringText text
  | .array items => laidOut depth "[" "]" (prettyItems (depth + 1) items)
  | .object members => laidOut depth "\x7b" "\x7d" (prettyMembers (depth + 1) members)
  | .noText | .misnamed _ | .broken => ""

def prettyItems (depth : Nat) : List Json → List String
  | [] => []
  | v :: items => pretty depth v :: prettyItems depth items

def prettyMembers (depth : Nat) : List (String × Json) → List String
  | [] => []
  | (k, v) :: members => (stringText k ++ ": " ++ pretty depth v) :: prettyMembers depth members

end

end Rulebook.Json
