import Rulebook.Json

namespace Rulebook.Toml

-- How a table came to be.
inductive Origin
  -- by a header of its own
  | header
  -- on the way to a table with a header
  | passage
  -- by a dotted key
  | dotted
  deriving DecidableEq

-- What a key stands for in a table that is being built.
inductive Node
  | leaf (value : Json)
  | table (origin : Origin) (members : List (String × Node))
  -- an array of tables, each begun by a header
  | tables (elements : List (List (String × Node)))

abbrev Table := List (String × Node)

namespace Table

-- Change what a key stands for, if the change is allowed. A new key comes last.
def alter? (key : String) (change : Option Node → Option Node) : Table → Option Table
  | [] => (change none).map fun n => [(key, n)]
  | (k, n) :: t =>
    if k = key then (change (some n)).map fun n => (k, n) :: t
    else (alter? key change t).map ((k, n) :: ·)

def insertNew? (key : String) (n : Node) : Table → Option Table :=
  alter? key fun old => if old.isSome then none else some n

-- Change the table at a path. Tables that are not there are made. Inside an array of tables the
-- last one is meant. A dotted key leads through no table that has a header of its own.
def within? (isDotted : Bool) (change : Origin → Table → Option Table) (origin : Origin) :
    List String → Table → Option Table
  | [], t => change origin t
  | key :: path, t =>
    alter? key
      (fun
        | none =>
          let origin := if isDotted then Origin.dotted else .passage
          (within? isDotted change origin path []).map (.table origin)
        | some (.leaf _) => none
        | some (.table origin members) =>
          if isDotted && origin = .header then none
          else (within? isDotted change origin path members).map (.table origin)
        | some (.tables elements) =>
          match elements.reverse with
          | [] => none
          | last :: before =>
            (within? isDotted change .header path last).map fun last =>
              .tables (before.reverse ++ [last]))
      t

-- A value with its key. A dotted key only adds to tables that dotted keys made.
def addKeyValue? (key : List String) (value : Json) (t : Table) : Option Table :=
  match key.reverse with
  | [] => none
  | last :: path =>
    let add (origin : Origin) (t : Table) : Option Table :=
      if path.isEmpty || origin = .dotted then insertNew? last (.leaf value) t else none
    within? true add .header path.reverse t

def ofEntries? (entries : List (List String × Json)) (start : Table) : Option Table :=
  entries.foldlM (fun t e => addKeyValue? e.1 e.2 t) start

-- The entries below a header go into one table. A table that so far was only passed through gets
-- its header once.
def addTable? (path : List String) (entries : List (List String × Json)) (t : Table) :
    Option Table :=
  match path.reverse with
  | [] => none
  | last :: above =>
    let build : Option Node → Option Node
      | none => (ofEntries? entries []).map (.table .header)
      | some (.table .passage members) => (ofEntries? entries members).map (.table .header)
      | some _ => none
    within? false (fun _ => alter? last build) .header above.reverse t

-- The entries below a header of an array of tables go into a new table at its end.
def addElement? (path : List String) (entries : List (List String × Json)) (t : Table) :
    Option Table :=
  match path.reverse with
  | [] => none
  | last :: above =>
    let build : Option Node → Option Node
      | none => (ofEntries? entries []).map fun new => .tables [new]
      | some (.tables elements) =>
        (ofEntries? entries []).map fun new => .tables (elements ++ [new])
      | some _ => none
    within? false (fun _ => alter? last build) .header above.reverse t

end Table

mutual

def Node.toJson : Node → Json
  | .leaf v => v
  | .table _ members => .object (membersToJson members)
  | .tables elements => .array (elementsToJson elements)

def membersToJson : List (String × Node) → List (String × Json)
  | [] => []
  | (k, n) :: t => (k, n.toJson) :: membersToJson t

def elementsToJson : List (List (String × Node)) → List Json
  | [] => []
  | t :: elements => .object (membersToJson t) :: elementsToJson elements

end

def Table.toJson (t : Table) : Json :=
  .object (membersToJson t)

end Rulebook.Toml
