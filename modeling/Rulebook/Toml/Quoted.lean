import Rulebook.Json.Printer
import Rulebook.Toml.Layout

namespace Rulebook.Toml

-- The longest run of a character.
def longestRun (q : Char) (cs : List Char) : Nat :=
  (cs.foldl (fun (best, run) c => if c = q then (max best (run + 1), run + 1) else (best, 0))
    (0, 0)).1

-- The four ways to write a text.
structure Style where
  quote : Char
  multiline : Bool
  deriving DecidableEq

def Style.basic : Style := ⟨'"', false⟩
def Style.literal : Style := ⟨'\'', false⟩
def Style.multilineBasic : Style := ⟨'"', true⟩
def Style.multilineLiteral : Style := ⟨'\'', true⟩

-- The first style that shows a text without escapes, with basic quotes before literal ones and
-- one line before several. A text that needs escapes gets basic quotes.
def styleFor (cs : List Char) : Style :=
  let clean := cs.all fun c => isPlain c || c = '\n'
  let newline := '\n' ∈ cs
  let unescaped := clean && '\\' ∉ cs
  if unescaped && !newline && longestRun '"' cs = 0 then .basic
  else if clean && !newline && longestRun '\'' cs = 0 then .literal
  else if unescaped && longestRun '"' cs ≤ 2 then .multilineBasic
  else if clean && longestRun '\'' cs ≤ 2 then .multilineLiteral
  else if newline then .multilineBasic
  else .basic

def upperHex (n : Nat) : List Char :=
  (Nat.toDigits 16 n).map Char.toUpper

-- One character between basic quotes. Of the quotes in a row so many may stay as they are.
def basicChar (multiline : Bool) (c : Char) : List Char :=
  if c = '\\' then ['\\', '\\']
  else if c = '\x08' then ['\\', 'b']
  else if c = '\t' then ['\\', 't']
  else if c = '\n' then (if multiline then [c] else ['\\', 'n'])
  else if c = '\x0c' then ['\\', 'f']
  else if c = '\r' then ['\\', 'r']
  else if isPlain c then [c]
  else
    let digits := upperHex c.toNat
    ['\\', 'u'] ++ List.replicate (4 - digits.length) '0' ++ digits

-- A text between basic quotes, after a run of quotes.
def basicChars (multiline : Bool) (run : Nat) : List Char → List Char
  | [] => []
  | c :: cs =>
    if c = '"' then
      if run < (if multiline then 2 else 0) then c :: basicChars multiline (run + 1) cs
      else '\\' :: c :: basicChars multiline 0 cs
    else basicChar multiline c ++ basicChars multiline 0 cs

def Style.delimiter (s : Style) : List Char :=
  List.replicate (if s.multiline then 3 else 1) s.quote

-- A text with a line end in it starts on a line of its own.
def Style.write (s : Style) (cs : List Char) : List Char :=
  let start := if s.multiline && '\n' ∈ cs then ['\n'] else []
  let body := if s.quote = '"' then basicChars s.multiline 0 cs else cs
  s.delimiter ++ start ++ body ++ s.delimiter

def quotedText (text : String) : String :=
  String.ofList ((styleFor text.toList).write text.toList)

end Rulebook.Toml
