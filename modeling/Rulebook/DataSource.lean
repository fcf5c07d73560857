import Rulebook.Path

namespace Rulebook

-- Where the tuples of a predicate come from, outside the knowledge base.
inductive DataSource
  | csvFile (path : Path)
  | rdfFile (path : Path)
  | sparqlQuery (endpoint selection query : String)
  deriving DecidableEq

namespace DataSource

def text : DataSource → String
  | csvFile path => "load-csv(\"" ++ path.shown ++ "\")"
  | rdfFile path => "load-rdf(\"" ++ path.shown ++ "\")"
  | sparqlQuery endpoint selection query =>
    "sparql(<" ++ endpoint ++ ">, \"" ++ selection ++ "\", \"" ++ query ++ "\")"

-- Sources are ordered by kind, then by the components of a path or the texts of a query. Two
-- sources that compare equal are the same source, perhaps with differently spelled paths.

def rank : DataSource → Nat
  | csvFile _ => 0
  | rdfFile _ => 1
  | sparqlQuery _ _ _ => 2

def pathComponents : DataSource → List Path.Component
  | csvFile path => path.components
  | rdfFile path => path.components
  | sparqlQuery _ _ _ => []

def queryParts : DataSource → List String
  | csvFile _ => []
  | rdfFile _ => []
  | sparqlQuery endpoint selection query => [endpoint, selection, query]

instance : Ord DataSource :=
  ⟨compareLex (compareOn rank) (compareLex (compareOn pathComponents) (compareOn queryParts))⟩

instance : Std.TransOrd DataSource :=
  inferInstanceAs (Std.TransCmp
    (compareLex (compareOn rank) (compareLex (compareOn pathComponents) (compareOn queryParts))))

theorem compare_eq_iff {s t : DataSource} :
    compare s t = .eq ↔
      s.rank = t.rank ∧ s.pathComponents = t.pathComponents ∧ s.queryParts = t.queryParts := by
  refine compareLex_eq_eq.trans ?_
  rw [compareLex_eq_eq]
  simp only [compareOn, Std.compare_eq_iff_eq]

end DataSource

end Rulebook
