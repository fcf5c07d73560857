import Rulebook.Json.Record
import Rulebook.Statement

-- How terms, atoms, rules and statements are written in JSON and read from it. What is read is
-- checked where its closing bracket stands.

namespace Rulebook

open Json

namespace Term

def toJson : Term → Json
  | constant n => .object [("constant", .string n)]
  | universal n => .object [("universal_variable", .string n)]
  | existential n => .object [("existential_variable", .string n)]
  | langString value lang =>
    .object [("language_string", .object [("value", .string value), ("lang", .string lang)])]

structure LangStringSlots where
  value : Option String := none
  lang : Option String := none

def langStringFields : List (RecordField LangStringSlots) :=
  [.slot "value" asString (·.value) fun a s => { s with value := some a },
   .slot "lang" asString (·.lang) fun a s => { s with lang := some a }]

-- A tag that is read is taken as it is.
def langStringOfJson (j : Json) : Decoded Term := do
  let s ← asRecord plain langStringFields {} j
  return langString (← required s.value) (← required s.lang)

def ofJson : Json → Decoded Term :=
  asChoice
    [("constant", fun j => (asString j).map constant),
     ("universal_variable", fun j => (asString j).map universal),
     ("existential_variable", fun j => (asString j).map existential),
     ("language_string", langStringOfJson)]

end Term

namespace Predicate

def toJson (p : Predicate) : Json :=
  .object [("name", .string p.name), ("arity", .ofNat p.arity)]

structure Slots where
  name : Option String := none
  arity : Option Nat := none

def fields : List (RecordField Slots) :=
  [.slot "name" asString (·.name) fun a s => { s with name := some a },
   .slot "arity" asNat (·.arity) fun a s => { s with arity := some a }]

def ofJson (j : Json) : Decoded Predicate := do
  let s ← asRecord plain fields {} j
  return ⟨← required s.name, ← required s.arity⟩

end Predicate

namespace Atom

def toJson (a : Atom) : Json :=
  .object [("predicate", .string a.name), ("terms", .array (a.terms.map Term.toJson))]

structure Slots where
  predicate : Option String := none
  terms : Option (List Term) := none

def fields : List (RecordField Slots) :=
  [.slot "predicate" asString (·.predicate) fun a s => { s with predicate := some a },
   .slot "terms" (asList Term.ofJson) (·.terms) fun a s => { s with terms := some a }]

def ofJson (j : Json) : Decoded Atom := do
  let s ← asRecord plain fields {} j
  checked (Atom.new (← required s.predicate) (← required s.terms))

end Atom

namespace Literal

def toJson : Literal → Json
  | positive a => .object [("positive", a.toJson)]
  | negative a => .object [("negative", a.toJson)]

def ofJson : Json → Decoded Literal :=
  asChoice
    [("positive", fun j => (Atom.ofJson j).map positive),
     ("negative", fun j => (Atom.ofJson j).map negative)]

end Literal

namespace Fact

def toJson (f : Fact) : Json :=
  f.atom.toJson

def ofJson (j : Json) : Decoded Fact := do
  checked (Fact.new (← Atom.ofJson j))

end Fact

namespace Rule

def toJson (r : Rule) : Json :=
  .object
    [("head", .array (r.head.map fun c => .array (c.map Atom.toJson))),
     ("body", .array (r.body.map fun c => .array (c.map Literal.toJson)))]

structure Slots where
  head : Option (List (List Atom)) := none
  body : Option (List (List Literal)) := none

def fields : List (RecordField Slots) :=
  [.slot "head" (asList (asList Atom.ofJson)) (·.head) fun a s => { s with head := some a },
   .slot "body" (asList (asList Literal.ofJson)) (·.body) fun a s => { s with body := some a }]

def ofJson (j : Json) : Decoded Rule := do
  let s ← asRecord plain fields {} j
  checked (Rule.new (← required s.head) (← required s.body))

end Rule

namespace DataSource

def pathToJson? (path : Path) : Option Json :=
  path.text?.map fun s => .object [("path", .string s)]

-- A path that is not text cannot be written.
def toJson? : DataSource → Option Json
  | csvFile path => (pathToJson? path).map fun j => .object [("csv_file", j)]
  | rdfFile path => (pathToJson? path).map fun j => .object [("rdf_file", j)]
  | sparqlQuery endpoint selection query =>
    some <| .object
      [("sparql_query", .object
        [("endpoint", .string endpoint), ("variables", .string selection),
         ("query", .string query)])]

def pathFields : List (RecordField (Option String)) :=
  [.slot "path" asString id fun a _ => some a]

def pathOfJson (j : Json) : Decoded Path := do
  let s ← asRecord plain pathFields none j
  return .ofText (← required s)

structure QuerySlots where
  endpoint : Option String := none
  selection : Option String := none
  query : Option String := none

def queryFields : List (RecordField QuerySlots) :=
  [.slot "endpoint" asString (·.endpoint) fun a s => { s with endpoint := some a },
   .slot "variables" asString (·.selection) fun a s => { s with selection := some a },
   .slot "query" asString (·.query) fun a s => { s with query := some a }]

def queryOfJson (j : Json) : Decoded DataSource := do
  let s ← asRecord plain queryFields {} j
  return sparqlQuery (← required s.endpoint) (← required s.selection) (← required s.query)

def ofJson : Json → Decoded DataSource :=
  asChoice
    [("csv_file", fun j => (pathOfJson j).map csvFile),
     ("rdf_file", fun j => (pathOfJson j).map rdfFile),
     ("sparql_query", queryOfJson)]

end DataSource

namespace Declaration

-- A missing source is not written.
def toJson? (d : Declaration) : Option Json :=
  (d.source.mapM DataSource.toJson?).map fun source =>
    .object (("predicate", d.predicate.toJson) :: (source.map fun j => ("source", j)).toList)

structure Slots where
  predicate : Option Predicate := none
  source : Option (Option DataSource) := none

def fields : List (RecordField Slots) :=
  [.slot "predicate" Predicate.ofJson (·.predicate) fun a s => { s with predicate := some a },
   .slot "source" (asOption DataSource.ofJson) (·.source) fun a s => { s with source := some a }]

def ofJson (j : Json) : Decoded Declaration := do
  let s ← asRecord plain fields {} j
  return ⟨← required s.predicate, s.source.join⟩

end Declaration

namespace Statement

def toJson? : Statement → Option Json
  | fact f => some (.object [("fact", f.toJson)])
  | rule r => some (.object [("rule", r.toJson)])
  | dataSource d => d.toJson?.map fun j => .object [("data_source", j)]

def ofJson : Json → Decoded Statement :=
  asChoice
    [("fact", fun j => (Fact.ofJson j).map fact),
     ("rule", fun j => (Rule.ofJson j).map rule),
     ("data_source", fun j => (Declaration.ofJson j).map dataSource)]

end Statement

end Rulebook
