import Rulebook.Toml.Moment
import Rulebook.Toml.Number
import Rulebook.Toml.Table
import Rulebook.Toml.Text

namespace Rulebook.Toml

def isBareKeyChar (c : Char) : Bool :=
  c.isAlphanum || c = '-' || c = '_'

-- A part of a key, bare or quoted.
def keyPart? (cs : List Char) : Option (String × List Char) :=
  match oneLine? cs with
  | some found => some found
  | none =>
    match cs.span isBareKeyChar with
    | ([], _) => none
    | (name, r) => some (String.ofList name, r)

def paddedKeyPart? (cs : List Char) : Option (String × List Char) :=
  (keyPart? (skipBlanks cs)).map fun (k, r) => (k, skipBlanks r)

-- Arrays, inline tables and keys may be nested less than this deep.
def nestingLimit : Nat := 80

-- Parts with dots between them.
def key? (cs : List Char) : Option (List String × List Char) :=
  match separated '.' paddedKeyPart? cs with
  | ([], _) => none
  | (parts, r) => if parts.length < nestingLimit then some (parts, r) else none

def boolean? : Reader Json
  | 't' :: 'r' :: 'u' :: 'e' :: r => some (.bool true, r)
  | 'f' :: 'a' :: 'l' :: 's' :: 'e' :: r => some (.bool false, r)
  | _ => none

-- A value that is no array and no inline table.
def scalar? (cs : List Char) : Option (Json × List Char) :=
  match text? cs with
  | some (s, r) => some (.string s, r)
  | none => boolean? cs <|> moment? cs <|> number? cs

-- A key, an equals sign and a value.
def keyValue? (value : Reader Json) : Reader (List String × Json) := fun cs => do
  let (key, r) ← key? cs
  let (v, r) ← value (skipBlanks (← expect '=' r))
  return ((key, v), r)

def item? (value : Reader Json) (cs : List Char) : Option (Json × List Char) :=
  (value (skipGap cs)).map fun (v, r) => (v, skipGap r)

-- The items of an array after its bracket. The last one may be followed by a comma.
def arrayBody? (value : Reader Json) (cs : List Char) : Option (Json × List Char) := do
  let (items, r) := separated ',' (item? value) cs
  let r := if items.isEmpty then r else (expect ',' r).getD r
  return (.array items, ← expect ']' (skipGap r))

-- The entries of an inline table after its bracket, on one line.
def inlineTableBody? (value : Reader Json) (cs : List Char) : Option (Json × List Char) := do
  let padded : Reader (List String × Json) := fun cs =>
    (keyValue? value cs).map fun (e, r) => (e, skipBlanks r)
  let (entries, r) := separated ',' padded cs
  let r ← expect '\x7d' (skipBlanks r)
  return ((← Table.ofEntries? entries []).toJson, r)

-- A value with so many levels of nesting at most.
def value? : (depth : Nat) → Reader Json
  | 0, cs => scalar? cs
  | depth + 1, cs =>
    match cs with
    | '[' :: r => arrayBody? (value? depth) r
    | '\x7b' :: r => inlineTableBody? (value? depth) r
    | _ => scalar? cs

end Rulebook.Toml
