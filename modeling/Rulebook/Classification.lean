import Rulebook.Alias
import Rulebook.DataSource.Configuration
import Rulebook.Statement

namespace Rulebook

-- How the predicates of a knowledge base are split for an engine. A predicate with a single
-- source and no rules is read from that source. Every other source goes to a stand-in of its
-- own, from which an import rule takes the tuples.
structure Classification where
  edb : List (Predicate × Declaration) := []
  aliased : List Predicate := []
  aliases : List (Declaration × Predicate) := []
  idb : List Predicate := []
  facts : List (Predicate × List Fact) := []
  rules : List Rule := []
  deriving DecidableEq

namespace Classification

-- Give a declaration its stand-in.
def addAlias (d : Declaration) (c : Classification) : Classification :=
  { c with
    rules := Sorted.insert (importRule d.predicate d.alias) c.rules
    aliases := Sorted.insertNew d d.alias c.aliases
    aliased := Sorted.insert d.predicate c.aliased }

-- The first source of a predicate is its own. A second one, or one of a predicate with rules or
-- stand-ins, makes stand-ins of them all.
def register (d : Declaration) (c : Classification) : Classification :=
  if d.predicate ∈ c.idb || d.predicate ∈ c.aliased then
    if Sorted.contains d c.aliases then c else c.addAlias d
  else
    match Sorted.lookup d.predicate c.edb with
    | none => { c with edb := Sorted.insertNew d.predicate d c.edb }
    | some own =>
      if own.same d then c
      else
        let c' := { c with edb := Sorted.erase d.predicate c.edb }
        (addAlias own c').addAlias d

-- A predicate in a rule head keeps no source of its own.
def derive (p : Predicate) (c : Classification) : Classification :=
  if p ∈ c.idb then c
  else
    let c' :=
      match Sorted.lookup p c.edb with
      | none => c
      | some own => ({ c with edb := Sorted.erase p c.edb } : Classification).addAlias own
    { c' with idb := Sorted.insert p c'.idb }

def visitFact (f : Fact) (c : Classification) : Classification :=
  let c := c.register (.localFacts f.predicate)
  { c with facts := Sorted.alter (fun fs => fs.getD [] ++ [f]) f.predicate c.facts }

def visitRule (r : Rule) (c : Classification) : Classification :=
  r.headPredicates.foldl (fun c p => c.derive p) { c with rules := Sorted.insert r c.rules }

def visit (c : Classification) : Statement → Classification
  | .fact f => c.visitFact f
  | .rule r => c.visitRule r
  | .dataSource d => c.register d

-- Each statement is looked at once, in order.
def build (statements : List Statement) : Classification :=
  statements.foldl visit {}

def aliasFor (d : Declaration) (c : Classification) : Option Predicate :=
  Sorted.lookup d c.aliases

def hasSources (c : Classification) : Bool :=
  !c.edb.isEmpty || !c.aliased.isEmpty

-- The predicate that the facts of the knowledge base over a predicate are loaded into.
def factTarget (p : Predicate) (c : Classification) : Option Predicate :=
  if Sorted.contains p c.edb then some p else c.aliasFor (.localFacts p)

-- The sources outside the knowledge base with the predicates that they are loaded into: first
-- those that a predicate has for its own, then those with stand-ins.
def external (c : Classification) : List (Predicate × DataSource) :=
  c.edb.filterMap (fun e => e.2.source.map (e.1, ·)) ++
    c.aliases.filterMap (fun e => e.1.source.map (e.2, ·))

-- What an engine is told of each external source. The first unusable source is reported.
def sourceBlocks (c : Classification) : Except SourceError (List String) :=
  c.external.zipIdx.mapM fun e => e.1.2.configuration e.2 e.1.1.engineName

def sourceConfiguration (c : Classification) : Except SourceError String :=
  c.sourceBlocks.map String.join

end Classification

end Rulebook
