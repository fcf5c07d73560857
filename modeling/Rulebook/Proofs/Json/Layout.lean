import Rulebook.Proofs.Json.Token

namespace Rulebook.Json

-- The blanks of a text: before the parts of a value and its closing bracket, by their depth, and
-- after a colon.
structure Layout where
  gap : Nat → List Char
  space : List Char
  gap_blank : ∀ depth, ∀ c ∈ gap depth, isSpace c = true
  space_blank : ∀ c ∈ space, isSpace c = true

namespace Layout

def tight : Layout where
  gap _ := []
  space := []
  gap_blank := by simp
  space_blank := by simp

def lines : Layout where
  gap depth := '\n' :: List.replicate (2 * depth) ' '
  space := [' ']
  gap_blank := by simp +contextual [isSpace]
  space_blank := by simp [isSpace]

-- The parts of a value after the first, and the closing bracket.
def tail (l : Layout) (depth : Nat) (closing : Char) : List (List Char) → List Char
  | [] => l.gap depth ++ [closing]
  | part :: parts => ',' :: l.gap (depth + 1) ++ part ++ l.tail depth closing parts

-- Parts between brackets. Without parts the brackets stay together.
def enclose (l : Layout) (depth : Nat) (opening closing : Char) : List (List Char) → List Char
  | [] => [opening, closing]
  | part :: parts => opening :: l.gap (depth + 1) ++ part ++ l.tail depth closing parts

end Layout

mutual

-- The text of a value in a layout.
def laid (l : Layout) (depth : Nat) : Json → List Char
  | .null => "null".toList
  | .bool true => "true".toList
  | .bool false => "false".toList
  | .number literal => literal.toList
  | .string text => (stringText text).toList
  | .array items => l.enclose depth '[' ']' (laidItems l (depth + 1) items)
  | .object members => l.enclose depth '\x7b' '\x7d' (laidMembers l (depth + 1) members)
  | .noText | .misnamed _ | .broken => []

def laidItems (l : Layout) (depth : Nat) : List Json → List (List Char)
  | [] => []
  | v :: items => laid l depth v :: laidItems l depth items

def laidMembers (l : Layout) (depth : Nat) : List (String × Json) → List (List Char)
  | [] => []
  | (k, v) :: members =>
    ((stringText k).toList ++ ':' :: l.space ++ laid l depth v) :: laidMembers l depth members

end

-- Both printers lay values out.

theorem toList_intercalate_comma (depth : Nat) (closing : Char) (part : String)
    (parts : List String) :
    (",".intercalate (part :: parts)).toList ++ [closing] =
      part.toList ++ Layout.tight.tail depth closing (parts.map String.toList) := by
  induction parts generalizing part with
  | nil => simp [Layout.tail, Layout.tight]
  | cons next parts ih =>
    rw [String.intercalate_cons_cons, String.toList_append, List.append_assoc, ih next]
    simp [Layout.tail, Layout.tight]

theorem toList_intercalate_line (depth : Nat) (closing : Char) (part : String)
    (parts : List String) :
    (",\n".intercalate ((part :: parts).map (margin (depth + 1) ++ ·))).toList ++
        ('\n' :: (margin depth).toList ++ [closing]) =
      (margin (depth + 1)).toList ++ part.toList ++
        Layout.lines.tail depth closing (parts.map String.toList) := by
  induction parts generalizing part with
  | nil => simp [Layout.tail, Layout.lines, margin]
  | cons next parts ih =>
    have ih := ih next
    rw [List.map_cons] at ih
    rw [List.map_cons, List.map_cons, String.intercalate_cons_cons, String.toList_append,
      List.append_assoc, ih]
    simp [Layout.tail, Layout.lines, margin]

theorem toList_brackets (depth : Nat) (opening closing : Char) (parts : List String) :
    opening :: (",".intercalate parts).toList ++ [closing] =
      Layout.tight.enclose depth opening closing (parts.map String.toList) := by
  cases parts with
  | nil => simp [Layout.enclose]
  | cons part parts =>
    rw [List.cons_append, toList_intercalate_comma depth]
    simp [Layout.enclose, Layout.tight]

theorem toList_laidOut (depth : Nat) (opening closing : Char) (parts : List String) :
    (laidOut depth opening.toString closing.toString parts).toList =
      Layout.lines.enclose depth opening closing (parts.map String.toList) := by
  cases parts with
  | nil => simp [laidOut, Layout.enclose]
  | cons part parts =>
    have h := toList_intercalate_line depth closing part parts
    have hgap : Layout.lines.gap (depth + 1) = '\n' :: (margin (depth + 1)).toList := by
      simp [Layout.lines, margin]
    simpa [laidOut, Layout.enclose, hgap] using h

mutual

theorem toList_compact (depth : Nat) : ∀ j : Json, (compact j).toList = laid .tight depth j
  | .null | .bool true | .bool false | .number _ | .string _ => rfl
  | .array items => by
    rw [laid, ← toList_compactItems (depth + 1) items, ← toList_brackets]
    simp [compact]
  | .object members => by
    rw [laid, ← toList_compactMembers (depth + 1) members, ← toList_brackets]
    simp [compact]
  | .noText | .misnamed _ | .broken => rfl

theorem toList_compactItems (depth : Nat) : ∀ items : List Json,
    (compactItems items).map String.toList = laidItems .tight depth items
  | [] => rfl
  | v :: items => by
    simp [compactItems, laidItems, toList_compact depth v, toList_compactItems depth items]

theorem toList_compactMembers (depth : Nat) : ∀ members : List (String × Json),
    (compactMembers members).map String.toList = laidMembers .tight depth members
  | [] => rfl
  | (k, v) :: members => by
    simp [compactMembers, laidMembers, toList_compact depth v, toList_compactMembers depth members,
      Layout.tight]

end

mutual

theorem toList_pretty : ∀ (depth : Nat) (j : Json), (pretty depth j).toList = laid .lines depth j
  | _, .null | _, .bool true | _, .bool false | _, .number _ | _, .string _ => by
    simp [pretty, laid]
  | depth, .array items => by
    simp only [pretty, laid, ← toList_prettyItems (depth + 1) items]
    exact toList_laidOut depth '[' ']' _
  | depth, .object members => by
    simp only [pretty, laid, ← toList_prettyMembers (depth + 1) members]
    exact toList_laidOut depth '\x7b' '\x7d' _
  | _, .noText | _, .misnamed _ | _, .broken => by simp [pretty, laid]

theorem toList_prettyItems : ∀ (depth : Nat) (items : List Json),
    (prettyItems depth items).map String.toList = laidItems .lines depth items
  | _, [] => rfl
  | depth, v :: items => by
    simp [prettyItems, laidItems, toList_pretty depth v, toList_prettyItems depth items]

theorem toList_prettyMembers : ∀ (depth : Nat) (members : List (String × Json)),
    (prettyMembers depth members).map String.toList = laidMembers .lines depth members
  | _, [] => rfl
  | depth, (k, v) :: members => by
    simp [prettyMembers, laidMembers, toList_pretty depth v, toList_prettyMembers depth members,
      Layout.lines]

end

end Rulebook.Json
