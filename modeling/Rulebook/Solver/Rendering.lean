import Rulebook.Statement

namespace Rulebook

-- The solvers whose input syntax is known.
inductive Solver
  | clingo
  | dlv
  deriving DecidableEq

def Solver.text : Solver → String
  | .clingo => "clingo"
  | .dlv => "dlv"

def Solver.names : List (String × Solver) :=
  [("clingo", .clingo), ("dlv", .dlv)]

namespace Rendering

-- A name as an identifier: whatever is no ASCII letter or digit becomes an underscore.
def sanitize (name : String) : String :=
  String.ofList (name.toList.map fun c => if c.isAlphanum then c else '_')

-- Visit the elements of a list in order, handing on a state.
def thread {α β σ : Type} (f : α → σ → β × σ) : List α → σ → List β × σ
  | [], s => ([], s)
  | a :: l, s =>
    let (b, s) := f a s
    let (bs, s) := thread f l s
    (b :: bs, s)

-- The existential variables of a statement met so far, with the texts that stand for them.
structure Skolems where
  line : Nat
  known : List (String × String)

-- The number of the line for the statement at a position. Lines are counted from one, and line
-- numbers have 64 bits.
def lineNumber (index : Nat) : Nat :=
  (index + 1) % 0x10000000000000000

-- No variable of the statement at a position has been met.
def Skolems.start (index : Nat) : Skolems :=
  ⟨lineNumber index, []⟩

-- The text of an existential variable met for the first time: a function of the first universal
-- variable beside it.
def skolemTerm (line : Nat) (terms : List Term) : String :=
  match terms.find? (·.kind = .universal) with
  | some u => "f" ++ toString line ++ "(" ++ sanitize u.name ++ ")"
  | none => "f" ++ toString line

-- A variable keeps the text that it got where it was met first.
def skolemize (terms : List Term) (name : String) (s : Skolems) : String × Skolems :=
  match s.known.lookup name with
  | some text => (text, s)
  | none =>
    let text := skolemTerm s.line terms
    (text, { s with known := (name, text) :: s.known })

def term (terms : List Term) : Term → Skolems → String × Skolems
  | .existential name, s => skolemize terms name s
  | t, s => (sanitize t.name, s)

def atom (a : Atom) (s : Skolems) : String × Skolems :=
  let (texts, s) := thread (term a.terms) a.terms s
  (sanitize a.name ++ "(" ++ ", ".intercalate texts ++ ")", s)

def conjunction (atoms : List Atom) (s : Skolems) : String × Skolems :=
  let (texts, s) := thread atom atoms s
  (", ".intercalate texts, s)

def disjunction (disjuncts : List (List Atom)) (s : Skolems) : String × Skolems :=
  let (texts, s) := thread conjunction disjuncts s
  (" | ".intercalate texts, s)

-- Solvers get only the positive part of a body.
def positivePart (body : List (List Literal)) : List (List Atom) :=
  body.map (·.filterMap Literal.positive?)

-- One rule with the given head and the positive part of the body.
def ruleLine (head : List (List Atom)) (body : List (List Literal)) (s : Skolems) :
    String × Skolems :=
  let (headText, s) := disjunction head s
  let (bodyText, s) := disjunction (positivePart body) s
  (headText ++ " :- " ++ bodyText ++ " .", s)

-- For DLV a conjunction in the head is split: one rule for each of its atoms.
def heads : Solver → List (List Atom) → List (List (List Atom))
  | .dlv, [conjunction] => conjunction.map fun a => [[a]]
  | _, head => [head]

def rule (solver : Solver) (r : Rule) (s : Skolems) : String :=
  "\n".intercalate (thread (fun head s => ruleLine head r.body s) (heads solver r.head) s).1

-- The statement at a position. Sources leave an empty line.
def statement (solver : Solver) (index : Nat) : Statement → String
  | .fact f => (atom f.atom (.start index)).1 ++ " ."
  | .rule r => rule solver r (.start index)
  | .dataSource _ => ""

-- What a solver is given of a list of statements.
def program (solver : Solver) (statements : List Statement) : String :=
  String.join (statements.zipIdx.map fun s => statement solver s.2 s.1 ++ "\n")

end Rendering

end Rulebook
