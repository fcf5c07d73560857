import Rulebook.Json
import Rulebook.ModelError

namespace Rulebook

-- Why a value cannot be read from JSON: it has not the right form, or the form is right and what
-- it says is not allowed.
inductive DecodeError
  | malformed
  | model (cause : ModelError)
  deriving DecidableEq

abbrev Decoded (α : Type) := Except DecodeError α

namespace Json

-- Where a value is looked at and found allowed or not.
def checked {α : Type} (r : Except ModelError α) : Decoded α :=
  r.mapError .model

def asString : Json → Decoded String
  | .string s => .ok s
  | _ => .error .malformed

def asBool : Json → Decoded Bool
  | .bool b => .ok b
  | _ => .error .malformed

-- The value of decimal digits, if there are any and nothing else.
def naturalOf? (cs : List Char) : Option Nat :=
  if cs.isEmpty || !cs.all Char.isDigit then none else some (Nat.ofDigitChars 10 cs 0)

-- A count is written with digits only and is below 2^64.
def asNat : Json → Decoded Nat
  | .number literal =>
    match naturalOf? literal.toList with
    | some n => if n < 0x10000000000000000 then .ok n else .error .malformed
    | none => .error .malformed
  | _ => .error .malformed

def asOption {α : Type} (decode : Json → Decoded α) : Json → Decoded (Option α)
  | .null => .ok none
  | v => (decode v).map some

-- The items are read in order, and the first error is reported.
def asList {α : Type} (decode : Json → Decoded α) : Json → Decoded (List α)
  | .array items => items.mapM decode
  | _ => .error .malformed

-- An object with a single member, whose name says what its value is.
def asChoice {α : Type} (choices : List (String × (Json → Decoded α))) : Json → Decoded α
  | .object ((name, v) :: rest) =>
    match choices.lookup name with
    | none => .error .malformed
    | some decode =>
      match decode v with
      | .error e => .error e
      | .ok a => if rest.isEmpty then .ok a else .error .malformed
  | _ => .error .malformed

-- How a format writes records and names.
structure Dialect where
  -- a value without content
  isUnit : Json → Bool
  -- a record written as a list of its fields has nothing after them
  exactLists : Bool

-- One of some names, or an object with the name and no content.
def asName {α : Type} (dialect : Dialect) (names : List (String × α)) : Json → Decoded α
  | .string s => (names.lookup s).elim (.error .malformed) .ok
  | .object [(s, v)] =>
    if dialect.isUnit v then (names.lookup s).elim (.error .malformed) .ok else .error .malformed
  | _ => .error .malformed

-- A field of a record that is being read into a state.
structure RecordField (σ : Type) where
  name : String
  read : Json → σ → Decoded σ

-- A field that fills its slot once.
def RecordField.slot {σ α : Type} (name : String) (decode : Json → Decoded α) (get : σ → Option α)
    (set : α → σ → σ) : RecordField σ where
  name := name
  read v s := if (get s).isSome then .error .malformed else (decode v).map (set · s)

def isMisnamed : Json → Bool
  | .misnamed _ => true
  | _ => false

-- Members in the order written. Those of other names only have to be JSON.
def readMembers {σ : Type} (fields : List (RecordField σ)) : List (String × Json) → σ → Decoded σ
  | [], s => .ok s
  | (name, v) :: members, s =>
    match fields.find? (·.name = name) with
    | some field =>
      match field.read v s with
      | .error e => .error e
      | .ok s => readMembers fields members s
    | none =>
      if v.intact && !v.isMisnamed then readMembers fields members s else .error .malformed

-- The fields in their order, as far as there are items.
def readItems {σ : Type} (exact : Bool) : List (RecordField σ) → List Json → σ → Decoded σ
  | _, [], s => .ok s
  | [], _ :: _, s => if exact then .error .malformed else .ok s
  | field :: fields, v :: items, s =>
    match field.read v s with
    | .error e => .error e
    | .ok s => readItems exact fields items s

-- A record: an object, or a list of its fields.
def asRecord {σ : Type} (dialect : Dialect) (fields : List (RecordField σ)) (start : σ) :
    Json → Decoded σ
  | .object members => readMembers fields members start
  | .array items => readItems dialect.exactLists fields items start
  | _ => .error .malformed

-- How JSON text itself writes records and names.
def plain : Dialect where
  isUnit
    | .null => true
    | _ => false
  exactLists := true

-- What a field has to hold.
def required {α : Type} (slot : Option α) : Decoded α :=
  slot.elim (.error .malformed) .ok

end Json

end Rulebook
