import Rulebook.Script.Integer

namespace Rulebook.Script.Rights

-- What the user, the group and others may do with files: three bits for each, to read, to write and
-- to run.

-- A change of rights for some of them.
structure Change where
  who : List Nat
  sign : Char
  rights : Nat

-- The places of the user, the group and others among the bits.
def place? (c : Char) : Option Nat :=
  [('u', 64), ('g', 8), ('o', 1)].lookup c

def places : List Nat :=
  [64, 8, 1]

-- The bits that a letter stands for: a right, or what somebody has.
def right? (before : Nat) (c : Char) : Option Nat :=
  match c with
  | 'r' => some 4
  | 'w' => some 2
  | 'x' => some 1
  | 'X' => some (if places.any fun p => before / p % 2 = 1 then 1 else 0)
  | 's' => some 0
  | c => (place? c).map fun p => before / p % 8

-- The changes behind those whom they concern.
def actions? (before : Nat) (who : List Nat) : (fuel : Nat) → List Char →
    Option (List Change × List Char)
  | 0, _ => none
  | fuel + 1, sign :: r =>
    if sign ∈ ['+', '-', '='] then
      let (letters, rest) := r.span fun c => (right? before c).isSome
      let rights := (letters.filterMap (right? before)).foldl (· ||| ·) 0
      match actions? before who fuel rest with
      | some (more, rest) => some (⟨who, sign, rights⟩ :: more, rest)
      | none => some ([⟨who, sign, rights⟩], rest)
    else none
  | _ + 1, [] => none

-- The changes that a mode asks for, in parts with commas between them.
def changes? (before : Nat) : (fuel : Nat) → List Char → Option (List Change)
  | 0, _ => none
  | _ + 1, [] => some []
  | fuel + 1, cs =>
    let (names, r) := cs.span fun c => c = 'a' || (place? c).isSome
    let who := if names.isEmpty || 'a' ∈ names then places else names.filterMap place?
    match actions? before who (r.length + 1) r with
    | some (l, []) => some l
    | some (l, ',' :: rest) => (changes? before fuel rest).map (l ++ ·)
    | _ => none

def apply (rights : Nat) (c : Change) : Nat :=
  c.who.eraseDups.foldl
    (fun rights p =>
      let old := rights / p % 8
      let new :=
        match c.sign with
        | '+' => old ||| c.rights
        | '-' => old &&& (7 - c.rights)
        | _ => c.rights
      rights - old * p + new * p)
    rights

-- The rights after a change that is written with letters.
def after? (mode : String) (before : Nat) : Option Nat :=
  (changes? before (mode.length + 1) mode.toList).map (·.foldl apply before)

end Rulebook.Script.Rights
