import Rulebook.Toml.Value

namespace Rulebook.Toml

-- What a line of a document can say.
inductive Line
  | entry (key : List String) (value : Json)
  | table (path : List String)
  | element (path : List String)

-- A header between its brackets, or an entry.
def line? : Reader Line
  | '[' :: '[' :: r => do
    let (path, r) ← key? r
    return (.element path, ← expect ']' (← expect ']' r))
  | '[' :: r => do
    let (path, r) ← key? r
    return (.table path, ← expect ']' r)
  | cs => do
    let ((key, v), r) ← keyValue? (value? (nestingLimit - 1)) cs
    return (.entry key v, r)

-- All lines that say something. Every step takes at least one character.
def lines? : (fuel : Nat) → (taken : List Line) → List Char → Option (List Line)
  | 0, _, _ => none
  | fuel + 1, taken, cs =>
    match skipGap cs with
    | [] => some taken.reverse
    | c :: r =>
      match line? (c :: r) with
      | none => none
      | some (line, r) =>
        match endLine? r with
        | none => none
        | some r => lines? fuel (line :: taken) r

-- The entries before the next header, and the lines from there on.
def entriesOf : List Line → List (List String × Json) × List Line
  | .entry key v :: lines =>
    let (entries, lines) := entriesOf lines
    ((key, v) :: entries, lines)
  | lines => ([], lines)

theorem length_entriesOf_le (lines : List Line) : (entriesOf lines).2.length ≤ lines.length := by
  fun_induction entriesOf lines with
  | case1 key v lines entries rest h ih =>
    rw [h] at ih
    exact Nat.le_succ_of_le ih
  | case2 => exact Nat.le_refl _

-- Put the tables of the remaining headers into a table.
def addSections? (lines : List Line) (t : Table) : Option Table :=
  match lines with
  | [] => some t
  | .entry _ _ :: _ => none
  | .table path :: lines =>
    (t.addTable? path (entriesOf lines).1).bind (addSections? (entriesOf lines).2)
  | .element path :: lines =>
    (t.addElement? path (entriesOf lines).1).bind (addSections? (entriesOf lines).2)
termination_by lines.length
decreasing_by
  all_goals exact Nat.lt_succ_of_le (length_entriesOf_le _)

-- The entries before the first header belong to the document itself.
def build? (lines : List Line) : Option Table := do
  let (entries, rest) := entriesOf lines
  addSections? rest (← Table.ofEntries? entries [])

def withoutMark : List Char → List Char
  | '\ufeff' :: cs => cs
  | cs => cs

-- The table that a document writes, as an object. A byte order mark in front does not count.
def read? (text : String) : Option Json := do
  let cs := withoutMark text.toList
  let lines ← lines? (cs.length + 1) [] cs
  return (← build? lines).toJson

end Rulebook.Toml
