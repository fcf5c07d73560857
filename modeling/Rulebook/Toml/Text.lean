import Rulebook.Json.Reader
import Rulebook.Toml.Layout

namespace Rulebook.Toml

-- The character whose number is written with some hexadecimal digits.
def numbered? (count : Nat) : Reader Char := fun cs => do
  let digits ← (cs.take count).mapM Json.hexDigit?
  let n := digits.foldl (fun n d => n * 16 + d) 0
  if digits.length = count && n.isValidChar then some (Char.ofNat n, cs.drop count) else none

-- The character after a backslash.
def escape? : Reader Char
  | 'b' :: r => some ('\x08', r)
  | 't' :: r => some ('\t', r)
  | 'n' :: r => some ('\n', r)
  | 'f' :: r => some ('\x0c', r)
  | 'r' :: r => some ('\r', r)
  | '"' :: r => some ('"', r)
  | '\\' :: r => some ('\\', r)
  | 'u' :: r => numbered? 4 r
  | 'U' :: r => numbered? 8 r
  | _ => none

-- The text up to the closing quote, on one line. Every step takes at least one character.
def basicBody? : (fuel : Nat) → (taken : List Char) → Reader String
  | 0, _, _ => none
  | _ + 1, _, [] => none
  | fuel + 1, taken, c :: r =>
    if c = '"' then some (String.ofList taken.reverse, r)
    else if c = '\\' then
      match escape? r with
      | some (c, r) => basicBody? fuel (c :: taken) r
      | none => none
    else if isPlain c then basicBody? fuel (c :: taken) r
    else none

-- Without escapes, and so without the quote itself.
def literalBody? (cs : List Char) : Option (String × List Char) :=
  let body := cs.takeWhile (· ≠ '\'')
  if body.all isPlain then
    (expect '\'' (cs.dropWhile (· ≠ '\''))).map fun r => (String.ofList body, r)
  else none

def skipBlankLines : List Char → List Char
  | ' ' :: r => skipBlankLines r
  | '\t' :: r => skipBlankLines r
  | '\n' :: r => skipBlankLines r
  | '\r' :: '\n' :: r => skipBlankLines r
  | cs => cs

-- What follows a backslash at the end of a line, from the next character that is no blank on.
def continuation? (cs : List Char) : Option (List Char) :=
  (lineBreak? (skipBlanks cs)).map skipBlankLines

-- The text up to three closing quotes. One or two more quotes before them belong to the text, and
-- line ends count as line feeds.
def multilineBody? (quote : Char) (escapes : Bool) :
    (fuel : Nat) → (taken : List Char) → Reader String
  | 0, _, _ => none
  | _ + 1, _, [] => none
  | fuel + 1, taken, c :: r =>
    if c = quote then
      let run := ((c :: r).takeWhile (· = quote)).length
      if run < 3 then multilineBody? quote escapes fuel (c :: taken) r
      else
        let extra := min (run - 3) 2
        let text := (List.replicate extra quote ++ taken).reverse
        some (String.ofList text, (c :: r).drop (extra + 3))
    else if escapes && c = '\\' then
      match continuation? r with
      | some r => multilineBody? quote escapes fuel taken r
      | none =>
        match escape? r with
        | some (c, r) => multilineBody? quote escapes fuel (c :: taken) r
        | none => none
    else
      match lineBreak? (c :: r) with
      | some r => multilineBody? quote escapes fuel ('\n' :: taken) r
      | none => if isPlain c then multilineBody? quote escapes fuel (c :: taken) r else none

-- A line end right after the opening quotes does not count.
def multiline? (quote : Char) (escapes : Bool) (cs : List Char) : Option (String × List Char) :=
  let r := (lineBreak? cs).getD cs
  multilineBody? quote escapes r.length [] r

-- A quoted text on one line.
def oneLine? : Reader String
  | '"' :: r => basicBody? r.length [] r
  | '\'' :: r => literalBody? r
  | _ => none

def text? : Reader String
  | '"' :: '"' :: '"' :: r => multiline? '"' true r
  | '\'' :: '\'' :: '\'' :: r => multiline? '\'' false r
  | cs => oneLine? cs

end Rulebook.Toml
