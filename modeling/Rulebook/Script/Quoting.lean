import Rulebook.Script.Integer
import Rulebook.Script.Octets

namespace Rulebook.Script

-- Words in complaints.

def isPrinted (c : Char) : Bool :=
  ' ' ≤ c && c ≤ '~'

-- A character that is shown by letters or digits after a backslash.
def escapedChar (c : Char) : String :=
  match [('\x07', "\\a"), ('\x08', "\\b"), ('\t', "\\t"), ('\n', "\\n"), ('\x0b', "\\v"),
    ('\x0c', "\\f"), ('\r', "\\r")].lookup c with
  | some text => text
  | none =>
    let ds := digits 8 c.toNat
    "\\" ++ String.ofList (List.replicate (3 - ds.length) '0') ++ ds

-- A word between quotes.
def quoted (s : String) : String :=
  let shown (c : Char) : String :=
    if c = '\\' || c = '\'' then String.ofList ['\\', c]
    else if isPrinted c then String.singleton c
    else escapedChar c
  "'" ++ String.join (s.toList.map shown) ++ "'"

namespace ShellWord

-- Characters that mean something to a shell, some of them only in front of a word or alone.
def isSpecial (s : String) (first : Bool) (c : Char) : Bool :=
  if c = '\x7b' || c = '\x7d' then s.length = 1
  else if c = '#' || c = '~' then first
  else !c.isAlphanum && c ∉ ['%', '+', ',', '-', '.', '/', ']', '_', '@', ':']

-- Whether a word means the same between quotes of both kinds.
def isAlike (s : String) : Bool :=
  s.toList.all fun c => c = ' ' || c = '\'' || (isPrinted c && !isSpecial s false c)

-- The characters of a word between quotes. Those that are not printed stand between quotes of their
-- own.
def body : (escaped : Bool) → List Char → String
  | false, [] => "'"
  | true, [] => "'"
  | escaped, c :: cs =>
    if !isPrinted c then
      (if escaped then "" else "'$'") ++ escapedChar c ++ body true cs
    else
      (if escaped then "''" else "") ++
        (if c = '\'' then "'\\''" else String.singleton c) ++ body false cs

-- A word between quotes, from which a shell would read it again.
def always (s : String) : String :=
  if s.contains '\'' && isAlike s then "\"" ++ s ++ "\"" else "'" ++ body false s.toList

-- The same, where words that mean only themselves have no quotes.
def asNeeded (s : String) : String :=
  let plain := (s.toList.zipIdx.all fun (c, i) => isPrinted c && !isSpecial s (i = 0) c)
  if s ≠ "" && plain then s else always s

-- The name of a file in front of a colon.
def inFront (s : String) : String :=
  if s.contains ':' then always s else asNeeded s

end ShellWord

end Rulebook.Script
