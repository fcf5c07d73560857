import Rulebook.Path

namespace Rulebook

-- A file that is to be written, and why it cannot be, if it cannot.
structure OutputFile where
  path : Path
  refusal : Option String := none
  deriving DecidableEq

namespace OutputFile

-- A part of a path that names something, and does not just stay or go up.
def namesSomething (segment : List UInt8) : Bool :=
  !Path.isIdle segment && segment ≠ [Path.dot, Path.dot]

-- Names have at most 255 bytes.
def isTooLong (segment : List UInt8) : Bool :=
  segment.length > 255

def tooLong : String := "File name too long (os error 36)"

-- Why a path does not lead through a name in a folder that is empty.
def obstacle (segment : List UInt8) : Option String :=
  if !namesSomething segment then none
  else if isTooLong segment then some tooLong
  else some "No such file or directory (os error 2)"

-- Why a path cannot be written in a folder that is empty: there are no folders on the way, and it
-- must not end like one.
def refusalOf (path : Path) : Option String :=
  let segments := Path.segments path.bytes
  if 0 ∈ path.bytes then some "file name contained an unexpected NUL byte"
  else if path.bytes.length ≥ 4096 then some tooLong
  else
    match segments.reverse.dropWhile (· = []) with
    | last :: before =>
      match before.reverse.findSome? obstacle with
      | some reason => some reason
      | none =>
        if segments.getLast? = some [] then some "Is a directory (os error 21)"
        else if isTooLong last then some tooLong
        else none
    | [] => none

-- The file that a path names in a folder that is empty.
def inEmptyFolder (path : Path) : OutputFile :=
  ⟨path, refusalOf path⟩

end OutputFile

end Rulebook
