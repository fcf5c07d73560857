import Rulebook.Text.Unprintable
import Rulebook.Text.Extender

namespace Rulebook.Text

-- A number in lower-case hexadecimal, without leading zeros.
def hex (n : Nat) : List Char :=
  Nat.toDigits 16 n

-- How one character appears inside a quoted text of a message: the quote and the backslash are
-- escaped, the usual controls have short escapes, and whatever would not show on its own is
-- written by its number.
def quotedChar (c : Char) : List Char :=
  if c = '"' then ['\\', '"']
  else if c = '\\' then ['\\', '\\']
  else if c = '\n' then ['\\', 'n']
  else if c = '\r' then ['\\', 'r']
  else if c = '\t' then ['\\', 't']
  else if c.toNat = 0 then ['\\', '0']
  else if 0x20 ≤ c.toNat && c.toNat < 0x7f then [c]
  else if isExtender c || isUnprintable c then
    ['\\', 'u', '\x7b'] ++ hex c.toNat ++ ['\x7d']
  else [c]

-- A text between quotes, as messages show it.
def quoted (s : String) : String :=
  String.ofList ('"' :: s.toList.flatMap quotedChar ++ ['"'])

end Rulebook.Text
