import Rulebook.Script.Tool.Option

namespace Rulebook.Script

-- Programs that tell how two files differ.

-- Both files, unless one of them cannot be read.
def readBoth (tool first second : String) : Work (Option (String × String)) := do
  match ← readEach tool "" [first, second] with
  | [(_, some a), (_, some b)] => return some (a, b)
  | _ => return none

namespace Comparing

-- The first place where two texts differ, and its line.
def firstDifference : (place line : Nat) → List Char → List Char → Option (Nat × Nat)
  | place, line, a :: as, b :: bs =>
    if a = b then firstDifference (place + 1) (if a = '\n' then line + 1 else line) as bs
    else some (place, line)
  | _, _, _, _ => none

-- The lengths of the longest common parts of a list that starts with a line and of the rests of
-- another one, from those without the line.
def commonRow (line : String) : (others : List String) → (below : List Nat) → List Nat
  | [], _ => [0]
  | other :: others, below =>
    let rest := commonRow line others below.tail
    let n := if line = other then below.tail.headD 0 + 1 else max (below.headD 0) (rest.headD 0)
    n :: rest

def commonRows (a b : List String) : List (List Nat) :=
  a.foldr (fun line rows => commonRow line b (rows.headD []) :: rows)
    [List.replicate (b.length + 1) 0]

inductive Edit
  | keep
  | remove (line : String)
  | add (line : String)

-- How one list of lines becomes another one, where a place tells how much of it is there already.
def edits : (fuel : Nat) → (rows : List (List Nat)) → (place : Nat) → (a b : List String) →
    List Edit
  | 0, _, _, _, _ => []
  | _ + 1, _, _, [], b => b.map .add
  | _ + 1, _, _, a, [] => a.map .remove
  | fuel + 1, rows, place, x :: a, y :: b =>
    if x = y then .keep :: edits fuel rows.tail (place + 1) a b
    else if (rows.tail.headD []).getD place 0 ≥ (rows.headD []).getD (place + 1) 0 then
      .remove x :: edits fuel rows.tail place a (y :: b)
    else .add y :: edits fuel rows (place + 1) (x :: a) b

-- A range of lines after so many.
def range (before count : Nat) : String :=
  if count = 0 then toString before
  else if count = 1 then toString (before + 1)
  else toString (before + 1) ++ "," ++ toString (before + count)

-- A change of lines with the lines themselves.
def change (i j : Nat) (removed added : List String) : List String :=
  if removed.isEmpty && added.isEmpty then []
  else
    let kind := if removed.isEmpty then "a" else if added.isEmpty then "d" else "c"
    (range i removed.length ++ kind ++ range j added.length) :: removed.map ("< " ++ ·) ++
      (if kind = "c" then ["---"] else []) ++ added.map ("> " ++ ·)

-- All changes, where so many lines are before them on both sides.
def changes : (i j : Nat) → (removed added : List String) → List Edit → List String
  | i, j, removed, added, [] => change i j removed added
  | i, j, removed, added, e :: es =>
    match e with
    | .keep =>
      change i j removed added ++
        changes (i + removed.length + 1) (j + added.length + 1) [] [] es
    | .remove line => changes i j (removed ++ [line]) added es
    | .add line => changes i j removed (added ++ [line]) es

end Comparing

open Comparing in
def diffTool (args : List String) : Work Nat :=
  let forms : List OptionForm := [⟨'q', "brief", .nothing⟩, ⟨'s', "", .nothing⟩]
  withOptions "diff" forms 2 args fun g => do
    match g.operands with
    | [first, second] =>
      match ← readBoth "diff" first second with
      | none => return 2
      | some (s, t) =>
        if s = t then
          if g.has 's' then
            printLine ("Files " ++ first ++ " and " ++ second ++ " are identical")
          return 0
        else
          let a := linesOf s
          let b := linesOf t
          if g.has 'q' then printLine ("Files " ++ first ++ " and " ++ second ++ " differ")
          else
            print (unlines (changes 0 0 [] []
              (edits (a.length + b.length + 1) (commonRows a b) 0 a b)))
          return 1
    | names => misuse "diff" ("missing operand after '" ++ names.getLast?.getD "diff" ++ "'") 2

open Comparing in
def cmpTool (args : List String) : Work Nat :=
  let forms : List OptionForm := [⟨'s', "quiet", .nothing⟩, ⟨'s', "silent", .nothing⟩]
  withOptions "cmp" forms 2 args fun g => do
    let (first, second) := (g.operands.headD "-", g.operands.getD 1 "-")
    match ← readBoth "cmp" first second with
    | none => return 2
    | some (s, t) =>
      if s = t then return 0
      else
        match firstDifference 1 1 s.toList t.toList with
        | some (place, line) =>
          if !g.has 's' then
            printLine (first ++ " " ++ second ++ " differ: char " ++ toString place ++
              ", line " ++ toString line)
        | none =>
          let shorter := if s.length < t.length then first else second
          if !g.has 's' then toolComplain "cmp" ("EOF on " ++ shorter)
        return 1

end Rulebook.Script
