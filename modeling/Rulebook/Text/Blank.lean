namespace Rulebook.Text

-- The white space characters of the standard, in ascending ranges.
def blankRanges : List (Nat × Nat) :=
  [(0x9, 0xd), (0x20, 0x20), (0x85, 0x85), (0xa0, 0xa0), (0x1680, 0x1680), (0x2000, 0x200a),
   (0x2028, 0x2029), (0x202f, 0x202f), (0x205f, 0x205f), (0x3000, 0x3000)]

def isBlankChar (c : Char) : Bool :=
  blankRanges.any fun r => r.1 ≤ c.toNat && c.toNat ≤ r.2

-- A text is blank when it holds nothing but white space; the empty text is blank.
def isBlank (s : String) : Bool :=
  s.toList.all isBlankChar

end Rulebook.Text
