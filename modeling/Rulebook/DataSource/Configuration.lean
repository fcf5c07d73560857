import Rulebook.DataSource

namespace Rulebook

-- Why a source cannot be handed to an engine.
inductive SourceError
  | noFileName (path : String)
  | unknownExtension (path : String) (allowed : List String)
  | incompleteQuery (source : String)
  deriving DecidableEq

def SourceError.message : SourceError → String
  | noFileName path => "source path " ++ path ++ " has no file name"
  | unknownExtension path allowed =>
    "source file " ++ path ++ " must end in one of " ++ ", ".intercalate allowed
  | incompleteQuery source => "SPARQL source " ++ source ++ " needs an endpoint and variables"

-- How an engine is told of a source: a type and its parameters in order.
structure SourceParameters where
  kind : String
  values : List String
  deriving DecidableEq

namespace DataSource

-- The allowed extensions, longest first: the first one that fits is removed.
def csvExtensions : List String := [".csv.gz", ".csv"]
def rdfExtensions : List String := [".nt.gz", ".nt"]

-- The text before an ending.
def withoutEnding? (ending cs : List Char) : Option (List Char) :=
  if ending <:+ cs then some (cs.take (cs.length - ending.length)) else none

-- A file name without the first extension that fits, if something is left.
def stem? (extensions : List String) (fileName : String) : Option String :=
  (extensions.findSome? fun e => withoutEnding? e.toList fileName.toList).bind fun cs =>
    if cs.isEmpty then none else some (String.ofList cs)

-- A file is given by its directory and its stem. The name has to be text, and a directory that is
-- none is given as it is shown.
def fileParameters (extensions : List String) (path : Path) :
    Except SourceError SourceParameters :=
  match path.nameText? with
  | none => .error (.noFileName path.shown)
  | some name =>
    match stem? extensions name with
    | none => .error (.unknownExtension path.shown extensions)
    | some stem => .ok ⟨"INMEMORY", [path.folder, stem]⟩

-- A parameter takes one line.
def oneLine (s : String) : String :=
  String.ofList (s.toList.map fun c => if c = '\n' then ' ' else c)

def parameters : DataSource → Except SourceError SourceParameters
  | csvFile path => fileParameters csvExtensions path
  | rdfFile path => fileParameters rdfExtensions path
  | s@(sparqlQuery endpoint selection query) =>
    if endpoint.isEmpty || selection.isEmpty then .error (.incompleteQuery s.text)
    else .ok ⟨"SPARQL", [endpoint, selection, query].map oneLine⟩

-- The lines that tell an engine of one source, each a key and a value.
def configurationLines (index predicate : String) (p : SourceParameters) : List (String × String) :=
  ("EDB" ++ index ++ "_predname", predicate) :: ("EDB" ++ index ++ "_type", p.kind) ::
    p.values.zipIdx.map fun v => ("EDB" ++ index ++ "_param" ++ toString v.2, v.1)

-- The lines in order, and an empty line at the end.
def configurationBlock (index predicate : String) (p : SourceParameters) : String :=
  String.join ((configurationLines index predicate p).map fun l => l.1 ++ "=" ++ l.2 ++ "\n") ++
    "\n"

-- The block of the source at a position among all sources, which feeds a predicate.
def configuration (index : Nat) (predicate : String) (s : DataSource) :
    Except SourceError String :=
  s.parameters.map (configurationBlock (toString index) predicate)

-- The block with places left open for the position and the predicate.
def configurationTemplate (s : DataSource) : Except SourceError String :=
  s.parameters.map (configurationBlock "\x7bindex\x7d" "\x7bpredicate\x7d")

end DataSource

end Rulebook
