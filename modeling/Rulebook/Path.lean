import Rulebook.Bytes

namespace Rulebook

-- A file path, kept as written: bytes, which need not be text. Where two paths are compared, only
-- their components count.
structure Path where
  bytes : List UInt8
  deriving DecidableEq, Inhabited

namespace Path

def ofText (s : String) : Path :=
  ⟨Bytes.ofText s⟩

-- The path as text, unless it is none.
def text? (p : Path) : Option String :=
  Bytes.text? p.bytes

-- The path as it is shown to a reader.
def shown (p : Path) : String :=
  Bytes.shown p.bytes

inductive Component
  | root
  | current
  | parent
  | name (bytes : List UInt8)
  deriving DecidableEq

namespace Component

-- Components are ordered by kind, names by their bytes.

def rank : Component → Nat
  | root => 0
  | current => 1
  | parent => 2
  | name _ => 3

def label : Component → List UInt8
  | name bytes => bytes
  | _ => []

instance : Ord Component := ⟨compareLex (compareOn rank) (compareOn label)⟩

instance : Std.TransOrd Component :=
  inferInstanceAs (Std.TransCmp (compareLex (compareOn rank) (compareOn label)))

instance : Std.LawfulEqOrd Component where
  eq_of_compare {c d} h := by
    obtain ⟨hr, hl⟩ := compareLex_eq_eq.mp h
    have hr := Std.compare_eq_iff_eq.mp hr
    have hl := Std.compare_eq_iff_eq.mp hl
    cases c <;> cases d <;> simp_all [rank, label]

end Component

-- The bytes that mean something in a path: '/' and '.'.
abbrev slash : UInt8 := 0x2f
abbrev dot : UInt8 := 0x2e

-- The stretches between separators.
def segments (bytes : List UInt8) : List (List UInt8) :=
  bytes.splitOn slash

-- A stretch that leads nowhere: nothing, or a single dot.
def isIdle (segment : List UInt8) : Bool :=
  segment = [] || segment = [dot]

def componentOf (segment : List UInt8) : Component :=
  if segment = [dot, dot] then .parent else .name segment

-- What a path starts with: the root, or the current directory when it is spelled out.
def start (bytes : List UInt8) : Option Component :=
  match segments bytes with
  | [] :: _ :: _ => some .root
  | first :: _ => if first = [dot] then some .current else none
  | [] => none

-- Past the first place, idle stretches do not count.
def components (p : Path) : List Component :=
  (start p.bytes).toList ++ (((segments p.bytes).filter (!isIdle ·)).map componentOf)

-- The last component, if it is a name.
def fileName? (p : Path) : Option (List UInt8) :=
  match p.components.getLast? with
  | some (.name name) => some name
  | _ => none

-- The file name as text, if there is one and it is text.
def nameText? (p : Path) : Option String :=
  p.fileName?.bind Bytes.text?

-- Leave out idle stretches at the end.
def dropIdleEnd (segments : List (List UInt8)) : List (List UInt8) :=
  (segments.reverse.dropWhile isIdle).reverse

def join (segments : List (List UInt8)) : List UInt8 :=
  [slash].intercalate segments

-- What stands before the last component, without the separators and idle stretches at its end. The
-- root and a leading dot stay.
def directory (p : Path) : Path :=
  let lead := if (start p.bytes).isSome then 1 else 0
  ⟨p.bytes.take lead ++
    join (dropIdleEnd (dropIdleEnd (segments (p.bytes.drop lead))).dropLast)⟩

-- Where a file is said to be. A path without a directory is one in the current directory.
def folder (p : Path) : String :=
  if p.directory.shown.isEmpty then "." else p.directory.shown

-- The part of the file name after its last dot. A name whose only dot leads it has no extension.
def extension? (p : Path) : Option (List UInt8) :=
  match p.fileName? with
  | none => none
  | some name =>
    match (name.splitOn dot).reverse with
    | last :: rest => if rest = [] || rest = [[]] then none else some last
    | [] => none

def extensionText? (p : Path) : Option String :=
  p.extension?.bind Bytes.text?

end Path

end Rulebook
