import Rulebook.Script.Pattern
import Rulebook.Script.Tool.Stream

namespace Rulebook.Script

namespace Selection

-- Places that are selected: from one to another, counted from one.
abbrev Ranges := List (Nat × Option Nat)

def contains (ranges : Ranges) (n : Nat) : Bool :=
  ranges.any fun r => r.1 ≤ n && r.2.all (n ≤ ·)

-- What is wrong with a list of places, which are fields or not.
inductive Fault
  | value (text : String)
  | tooLarge (digits : String)
  | zero
  | decreasing
  | endless
  | tooManyDashes
  deriving DecidableEq

def Fault.text (fields : Bool) : Fault → String
  | value t =>
    (if fields then "invalid field value " else "invalid byte/character position ") ++ quoted t
  | tooLarge ds =>
    (if fields then "field number " else "byte/character offset ") ++ quoted ds ++ " is too large"
  | zero =>
    (if fields then "fields" else "byte/character positions") ++ " are numbered from 1"
  | decreasing => "invalid decreasing range"
  | endless => "invalid range with no endpoint: -"
  | tooManyDashes => if fields then "invalid field range" else "invalid byte or character range"

-- A number in a list of places, and what follows it.
def place? (cs : List Char) : Except Fault (Option Nat × List Char) :=
  let (ds, r) := cs.span Char.isDigit
  if ds.isEmpty then .ok (none, r)
  else
    let n := ofDigits 10 ds
    if n < 18446744073709551615 then .ok (some n, r) else .error (.tooLarge (String.ofList ds))

def endsRange (cs : List Char) : Bool :=
  cs.head?.all (· ∈ [',', ' ', '\t'])

-- The range in front of a list of places, and what follows it.
def range? (cs : List Char) : Except Fault ((Nat × Option Nat) × List Char) := do
  let (first, r) ← place? cs
  match r with
  | '-' :: r =>
    if first = some 0 then throw .zero
    let (last, r) ← place? r
    if r.head? = some '-' then throw .tooManyDashes
    if !endsRange r then throw (.value (String.ofList r))
    if first.isNone && last.isNone then throw .endless
    if last.any (· < first.getD 1) then throw .decreasing
    return ((first.getD 1, last), r)
  | r =>
    if !endsRange r then throw (.value (String.ofList r))
    match first with
    | none | some 0 => throw .zero
    | some n => return ((n, some n), r)

-- The ranges in a list of places.
def ranges? : (fuel : Nat) → List Char → Except Fault Ranges
  | 0, _ => .ok []
  | fuel + 1, cs => do
    let (range, r) ← range? cs
    match r with
    | [] => return [range]
    | _ :: r => return range :: (← ranges? fuel r)

def forms : List OptionForm :=
  [⟨'b', "bytes", .value⟩, ⟨'c', "characters", .value⟩, ⟨'f', "fields", .value⟩,
   ⟨'d', "delimiter", .value⟩, ⟨'s', "only-delimited", .nothing⟩, ⟨'n', "", .nothing⟩,
   ⟨'z', "zero-terminated", .nothing⟩, ⟨'κ', "complement", .nothing⟩,
   ⟨'ω', "output-delimiter", .value⟩]

-- The elements at the places that are selected.
def select {α : Type} (ranges : Ranges) (others : Bool) (l : List α) : List α :=
  (l.zipIdx 1).filterMap fun (a, n) => if contains ranges n != others then some a else none

-- Stretches of bytes that are selected, each for itself.
def stretches (ranges : Ranges) (others : Bool) (l : List Char) : List (List Char) :=
  let chosen := (l.zipIdx 1).map fun (c, n) => (c, contains ranges n != others, n)
  let groups := chosen.splitBy fun a b =>
    a.2.1 == b.2.1 && !(b.2.1 && !others && ranges.any fun r => r.1 = b.2.2 &&
      !ranges.any fun q => q.1 < r.1 && q.2.all (r.1 - 1 ≤ ·))
  (groups.filter fun g => g.head?.any (·.2.1)).map fun g => g.map (·.1)

def fieldsOf (ranges : Ranges) (others : Bool) (delimiter : Char) (joint : String)
    (onlyDelimited : Bool) (line : List Char) : Option String :=
  if delimiter ∉ line then (if onlyDelimited then none else some (String.ofList line))
  else
    let fields := (line.splitOn delimiter).map String.ofList
    some (joint.intercalate (select ranges others fields))

-- What is wrong with the options, of which the first fault in their order counts.
def misuse? : (listed : Bool) → List (Char × String) → Option String
  | listed, o :: os =>
    if o.1 = 'd' && o.2.length > 1 then some "the delimiter must be a single character"
    else if o.1 ∈ ['b', 'c', 'f'] then
      if listed then some "only one list may be specified" else misuse? true os
    else misuse? listed os
  | listed, [] =>
    if listed then none else some "you must specify a list of bytes, characters, or fields"

end Selection

open Selection in
def cutTool (args : List String) : Work Nat :=
  withOptions "cut" Selection.forms 1 args fun g => do
    if let some text := misuse? false g.options then return ← misuse "cut" text 1
    let fields := g.value? 'f'
    if fields.isNone && g.has 'd' then
      return ← misuse "cut"
        "an input delimiter may be specified only when operating on fields" 1
    if fields.isNone && g.has 's' then
      return ← misuse "cut"
        "suppressing non-delimited lines makes sense\n\tonly when operating on fields" 1
    let list := (((g.value? 'b').orElse fun _ => g.value? 'c').orElse fun _ => fields).getD ""
    match ranges? (list.length + 1) list.toList with
    | .error e => misuse "cut" (e.text fields.isSome) 1
    | .ok ranges =>
      let stop := if g.has 'z' then '\x00' else '\n'
      let (input, status) ← readTogether "cut" "" g.operands 1
      let others := g.has 'κ'
      let c := (((g.value? 'd').getD "\t").toList.head?).getD '\x00'
      let joint := (g.value? 'ω').elim (String.singleton c) fun s => if s = "" then "\x00" else s
      let lines := (fullLines stop input).filterMap fun l =>
        let cs := l.toList.takeWhile (· ≠ stop)
        if fields.isSome then fieldsOf ranges others c joint (g.has 's') cs
        else if g.has 'ω' then
          some (joint.intercalate ((stretches ranges others cs).map String.ofList))
        else some (String.ofList (select ranges others cs))
      print (String.join (lines.map (· ++ String.singleton stop)))
      return status

-- The characters that separate columns, with their escapes.
def delimiters : List Char → List String
  | '\\' :: c :: r =>
    (match c with
      | 'n' => "\n"
      | 't' => "\t"
      | '0' => ""
      | c => String.singleton c) :: delimiters r
  | c :: r => String.singleton c :: delimiters r
  | [] => []

-- Texts with separators between them, which are used in turn.
def joinInTurn (separators : List String) (l : List String) : String :=
  match l with
  | [] => ""
  | first :: rest =>
    first ++ String.join (rest.zipIdx.map fun (s, i) =>
      separators.getD (i % max 1 separators.length) "" ++ s)

def pasteTool (args : List String) : Work Nat := do
  let forms : List OptionForm :=
    [⟨'d', "delimiters", .value⟩, ⟨'s', "serial", .nothing⟩, ⟨'z', "zero-terminated", .nothing⟩]
  withOptions "paste" forms 1 args fun g => do
    let names := if g.operands.isEmpty then ["-"] else g.operands
    let separators := delimiters ((g.value? 'd').getD "\t").toList
    let dashes := (names.filter (· = "-")).length
    let stop := if g.has 'z' then '\x00' else '\n'
    let split (text : String) : Array String :=
      let parts := ((text.toList.splitOn stop).map String.ofList).toArray
      if parts.back? = some "" then parts.pop else parts
    let join (lines : List String) : String :=
      String.join (lines.map (·.push stop))
    let texts ← names.eraseDups.mapM fun name => do
      match ← readNamed name with
      | .ok text => return (name, some (split text))
      | .error e =>
        toolComplain "paste" (ShellWord.inFront name ++ ": " ++ e.text)
        return (name, none)
    if texts.any (·.2.isNone) then return 1
    let whole (name : String) : Array String := ((texts.lookup name).join).getD #[]
    if g.has 's' then
      let used := names.zipIdx.map fun (name, i) =>
        if name = "-" && "-" ∈ names.take i then [] else (whole name).toList
      print (join (used.map (joinInTurn separators)))
    else
      -- the input gives a line to each of its columns in turn
      let column (name : String) (i row : Nat) : Option String :=
        if name = "-" then
          (whole name)[row * dashes + ((names.take i).filter (· = "-")).length]?
        else (whole name)[row]?
      let rows := (names.map fun name =>
        let n := (whole name).size
        if name = "-" then (n + dashes - 1) / max 1 dashes else n).foldl max 0
      print (join ((List.range rows).map fun row =>
        joinInTurn separators (names.zipIdx.map fun (name, i) => (column name i row).getD "")))
    return 0

-- The place behind a character. Tabs go on to the next place that eight divides.
def placeBehind (bytes : Bool) (place : Nat) (c : Char) : Nat :=
  if bytes then place + 1
  else if c = '\t' then place + 8 - place % 8
  else if c = '\x08' then place - 1
  else if c = '\r' then 0
  else place + 1

-- A line in pieces of a width, which may end at blanks. The piece so far comes last first.
def foldLine (bytes : Bool) (width : Nat) (atBlanks : Bool) : (fuel place : Nat) →
    (piece : List Char) → List Char → List (List Char)
  | 0, _, piece, cs => [piece.reverse ++ cs]
  | _ + 1, _, piece, [] => [piece.reverse]
  | fuel + 1, place, piece, c :: r =>
    let next := placeBehind bytes place c
    if next ≤ width || piece.isEmpty then foldLine bytes width atBlanks fuel next (c :: piece) r
    else
      let rest := piece.takeWhile fun d => d ≠ ' ' && d ≠ '\t'
      let before := piece.drop rest.length
      if atBlanks && !before.isEmpty then
        let place := rest.reverse.foldl (placeBehind bytes) 0
        before.reverse :: foldLine bytes width atBlanks fuel place rest (c :: r)
      else piece.reverse :: foldLine bytes width atBlanks fuel 0 [] (c :: r)

def foldTool (args : List String) : Work Nat := do
  let forms : List OptionForm :=
    [⟨'w', "width", .value⟩, ⟨'s', "spaces", .nothing⟩, ⟨'b', "bytes", .nothing⟩]
  let args := match args with
    | a :: args =>
      match a.toList with
      | '-' :: d :: r => if d.isDigit then "-w" :: String.ofList (d :: r) :: args else a :: args
      | _ => a :: args
    | [] => []
  withOptions "fold" forms 1 args fun g => do
    let width := match g.value? 'w' with
      | some w => (natural? w).getD 0
      | none => 80
    if width = 0 then
      toolComplain "fold" ("invalid number of columns: '" ++ (g.value? 'w').getD "" ++ "'")
      return 1
    let (text, status) ← readTogether "fold" "" g.operands 1
    let parts := text.toList.splitOn '\n'
    let folded := parts.map fun l =>
      ['\n'].intercalate (foldLine (g.has 'b') width (g.has 's') (3 * l.length + 3) 0 [] l)
    print (String.ofList (['\n'].intercalate folded))
    return status

namespace Translation

-- An element of a set of characters, in order.
inductive Element
  | char (c : Char)
  | range (first last : Char)
  | members (name : String)
  -- all characters that are the same as this one
  | same (c : Char)
  -- a character so many times, or as often as needed
  | repeated (c : Char) (count : Option Nat)
  deriving DecidableEq

-- The character after a backslash, what follows it, and warnings about it.
def escaped (cs : List Char) : Char × List Char × List String :=
  match cs with
  | [] => ('\\', [], ["an unescaped backslash at end of string is not portable"])
  | c :: r =>
    if isDigitOf 8 c then
      let ds := (cs.take 3).takeWhile (isDigitOf 8)
      let front := ds.take 2
      if ofDigits 8 ds > 255 then
        let shown (l : List Char) : String := String.ofList l
        (Char.ofNat (ofDigits 8 front), cs.drop 2,
          ["the ambiguous octal escape \\" ++ shown ds ++ " is being\n\tinterpreted as the " ++
            "2-byte sequence \\0" ++ shown front ++ ", " ++ shown (ds.drop 2)])
      else (Char.ofNat (ofDigits 8 ds), cs.drop ds.length, [])
    else
      (([('a', '\x07'), ('b', '\x08'), ('f', '\x0c'), ('n', '\n'), ('r', '\r'), ('t', '\t'),
        ('v', '\x0b')].lookup c).getD c, r, [])

-- A character of a set, and whether it was escaped.
abbrev Mark := Char × Bool

-- The characters of a set with their escapes taken out, and warnings about them.
def unescaped : (fuel : Nat) → List Char → List Mark × List String
  | 0, _ | _ + 1, [] => ([], [])
  | fuel + 1, '\\' :: r =>
    let (c, rest, warnings) := escaped r
    let (marks, more) := unescaped fuel rest
    ((c, !r.isEmpty) :: marks, warnings ++ more)
  | fuel + 1, c :: r =>
    let (marks, warnings) := unescaped fuel r
    ((c, false) :: marks, warnings)

-- How characters are shown in complaints.
def shown (ms : List Mark) : String :=
  String.join <| ms.map fun m =>
    if m.1 = '\\' then "\\\\" else if isPrinted m.1 then String.singleton m.1 else escapedChar m.1

def shownByte (c : Char) : String :=
  if isPrinted c then String.singleton c
  else
    let ds := digits 8 c.toNat
    "\\" ++ String.ofList (List.replicate (3 - ds.length) '0') ++ ds

-- What stands before a sign with a bracket behind it, and what follows the bracket.
def upToClosing (sign : Char) : List Mark → Option (List Mark × List Mark)
  | (c, false) :: (']', false) :: r =>
    if c = sign then some ([], r)
    else (upToClosing sign ((']', false) :: r)).map fun (inside, r) => ((c, false) :: inside, r)
  | m :: r => (upToClosing sign r).map fun (inside, r) => (m :: inside, r)
  | [] => none

-- Whether a star, maybe with digits, and a bracket come next.
def isCounted : List Mark → Bool
  | ('*', false) :: r => (r.dropWhile (·.1.isDigit)).head? = some (']', false)
  | _ => false

-- A repetition after its opening bracket, and what follows it.
def repetition? : List Mark → Except String (Option (Element × List Mark))
  | (c, _) :: ('*', false) :: r =>
    match r.span fun m => !m.2 && m.1 ≠ ']' with
    | ([], (']', false) :: rest) => .ok (some (.repeated c none, rest))
    | (ds, (']', false) :: rest) =>
      let cs := ds.map (·.1)
      match leadingInteger? (if cs.head? = some '0' then 8 else 10) cs with
      | some (.ofNat n, []) => .ok (some (.repeated c (if n = 0 then none else some n), rest))
      | _ => .error ("invalid repeat count " ++ quoted (shown ds) ++ " in [c*n] construct")
    | _ => .ok none
  | _ => .ok none

-- The element in front of a set that starts with a bracket, and what follows it.
def bracketed? : List Mark → Except String (Option (Element × List Mark))
  | (sign, false) :: r =>
    if sign ≠ ':' && sign ≠ '=' then repetition? ((sign, false) :: r)
    else
      match upToClosing sign r with
      | none => repetition? ((sign, false) :: r)
      | some (inside, rest) =>
        let name := String.ofList (inside.map (·.1))
        match sign, inside with
        | ':', [] => .error "missing character class name '[::]'"
        | _, [] => .error "missing equivalence class character '[==]'"
        | '=', [(c, _)] => .ok (some (.same c, rest))
        | _, _ =>
          if sign = ':' && name ∈ CharSet.classNames then .ok (some (.members name, rest))
          else if isCounted r then repetition? ((sign, false) :: r)
          else if sign = ':' then .error ("invalid character class " ++ quoted (shown inside))
          else
            .error (shown inside ++ ": equivalence class operand must be a single character")
  | ms => repetition? ms

-- The elements of a set. The last two characters stand for themselves.
def elements : (fuel : Nat) → List Mark → Except String (List Element)
  | 0, _ => .ok []
  | fuel + 1, ms =>
    if ms.length < 3 then .ok (ms.map fun m => .char m.1)
    else
      match ms with
      | m :: r => do
        match ← if m = ('[', false) then bracketed? r else pure none with
        | some (e, rest) => return e :: (← elements fuel rest)
        | none =>
          match r with
          | ('-', false) :: (d, _) :: r =>
            if d < m.1 then
              throw ("range-endpoints of '" ++ shownByte m.1 ++ "-" ++ shownByte d ++
                "' are in reverse collating sequence order")
            return .range m.1 d :: (← elements fuel r)
          | r => return .char m.1 :: (← elements fuel r)
      | [] => .ok []

-- The elements of a set as it was written, and warnings about it.
def parse (s : String) : List String × Except String (List Element) :=
  let (marks, warnings) := unescaped (s.length + 1) s.toList
  (warnings, elements (marks.length + 1) marks)

def allBytes : List Char :=
  (List.range 256).map Char.ofNat

def charRange (c d : Char) : List Char :=
  (List.range' c.toNat (d.toNat + 1 - c.toNat)).map Char.ofNat

-- The characters of an element. One that is repeated without a count is left out.
def Element.chars : Element → List Char
  | .char c | .same c => [c]
  | .range c d => charRange c d
  | .members name => allBytes.filter (CharSet.isInClass name)
  | .repeated c n => List.replicate (n.getD 0) c

def chars (es : List Element) : List Char :=
  es.flatMap Element.chars

def isEndless (e : Element) : Bool :=
  e matches .repeated _ none

-- Whether an element is a class of letters by their case: of capitals or not.
def Element.case? : Element → Option Bool
  | .members "upper" => some true
  | .members "lower" => some false
  | _ => none

-- Of neighbours that are the same only the first one stays, for some characters.
def squeeze (p : Char → Bool) : Option Char → List Char → List Char
  | _, [] => []
  | before, c :: cs =>
    if before = some c && p c then squeeze p before cs else c :: squeeze p (some c) cs

-- A character of a set, whether its element is a class of letters by case, and whether it is the
-- first one of its element.
structure Item where
  char : Char
  case : Option Bool
  isFirst : Bool

def items (es : List Element) : List Item :=
  es.flatMap fun e => e.chars.zipIdx.map fun (c, i) => ⟨c, e.case?, i = 0⟩

-- What is left behind the element of the first item.
def behindElement (l : List Item) : List Item :=
  l.tail.dropWhile (!·.isFirst)

-- A class of letters in the second set stands against one in the first set. Whether this is so, and
-- how many pairs of classes there are.
def casePairs? : (fuel : Nat) → (first second : List Item) → Option Nat
  | 0, _, _ => some 0
  | fuel + 1, first, second =>
    let starts (l : List Item) : Bool := l.head?.any fun i => i.isFirst && i.case.isSome
    if starts second && !starts first then none
    else if first.isEmpty || second.isEmpty then some 0
    else if second.head?.any (·.case.isSome) then
      (casePairs? fuel (behindElement first) (behindElement second)).map (· + 1)
    else casePairs? fuel first.tail second.tail

-- The characters of the first set, each with the one that takes its place.
def pairs : (fuel : Nat) → (first second : List Item) → List (Char × Char)
  | 0, _, _ => []
  | fuel + 1, a :: first, b :: second =>
    match a.case, b.case with
    | some false, some true =>
      (allBytes.filter (CharSet.isInClass "lower")).map (fun c => (c, c.toUpper)) ++
        pairs fuel (behindElement (a :: first)) (behindElement (b :: second))
    | some true, some false =>
      (allBytes.filter (CharSet.isInClass "upper")).map (fun c => (c, c.toLower)) ++
        pairs fuel (behindElement (a :: first)) (behindElement (b :: second))
    | _, _ => (a.char, b.char) :: pairs fuel first second
  | _, _, _ => []

-- The second set, made as long as the first one, or why characters cannot be translated.
def fitted? (complement truncated : Bool) (length : Nat) (first second : List Element) :
    Except String (List Element) := do
  let isClass (e : Element) : Bool := e matches .members _
  if second.any fun e => e matches .same _ then
    throw "[=c=] expressions may not appear in string2 when translating"
  if second.any fun e => isClass e && e.case?.isNone then
    throw ("when translating, the only character classes that may appear in\nstring2 are " ++
      "'upper' and 'lower'")
  let fuel := (chars first).length + (chars second).length + 2
  let count ←
    if complement || !second.any isClass then pure 0
    else
      match casePairs? fuel (items first) (items second) with
      | some n => pure n
      | none => throw "misaligned [:upper:] and/or [:lower:] construct"
  let wanted := length - 25 * count
  let given := (chars second).length - 25 * count
  let second ←
    if truncated || wanted ≤ given then pure second
    else
      match second.getLast? with
      | none => throw "when not truncating set1, string2 must be non-empty"
      | some e =>
        if isClass e then
          throw ("when translating with string1 longer than string2,\nthe latter string must " ++
            "not end with a character class")
        match e.chars.getLast?.orElse fun _ => if let .repeated c _ := e then some c else none with
        | some c => pure (second ++ [.repeated c (some (wanted - given))])
        | none => pure second
  let all := chars second
  if complement && first.any isClass &&
      !(all.length = length && all.all fun c => all.head? = some c) then
    throw ("when translating with complemented character classes,\nstring2 must map all " ++
      "characters in the domain to one")
  return second

def forms : List OptionForm :=
  [⟨'c', "complement", .nothing⟩, ⟨'C', "", .nothing⟩, ⟨'d', "delete", .nothing⟩,
   ⟨'s', "squeeze-repeats", .nothing⟩, ⟨'t', "truncate-set1", .nothing⟩]

-- What is made of the input, or why nothing is.
def plan (g : Given) (first : List Element) (second : Option (List Element)) :
    Except String (List Char → List Char) := do
  let complement := g.has 'c' || g.has 'C'
  let meant := if complement then allBytes.filter (· ∉ chars first) else chars first
  if first.any isEndless then throw "the [c*] repeat construct may not appear in string1"
  match second with
  | none =>
    if g.has 'd' then return fun cs => cs.filter (· ∉ meant)
    else return squeeze (· ∈ meant) none
  | some second =>
    let endless := (second.filter isEndless).length
    let missing := meant.length - (chars second).length
    let second := second.map fun e =>
      match e with
      | .repeated c none => if endless = 1 then .repeated c (some missing) else e
      | e => e
    if endless > 1 then throw "only one [c*] repeat construct may appear in string2"
    if g.has 'd' then
      if endless > 0 then
        throw "the [c*] construct may appear in string2 only when translating"
      let squeezed := chars second
      return fun cs => squeeze (· ∈ squeezed) none (cs.filter (· ∉ meant))
    else
      let second ← fitted? complement (g.has 't') meant.length first second
      let table :=
        if complement then meant.zip (chars second)
        else pairs ((chars first).length + 1) (items first) (items second)
      -- the last place of a character in the first set counts
      let changed := table.foldl (fun (a : Array Char) (c, d) => a.setIfInBounds c.toNat d)
        allBytes.toArray
      let translate (cs : List Char) : List Char := cs.map fun c => changed.getD c.toNat c
      let squeezed := chars second
      if g.has 's' then return fun cs => squeeze (· ∈ squeezed) none (translate cs)
      else return translate

end Translation

open Translation in
def trTool (args : List String) : Work Nat := do
  match OptionForm.parse Translation.forms false args with
  | .error text => misuse "tr" text 1
  | .ok g =>
    let least := if g.has 'd' == g.has 's' then 2 else 1
    let most := if g.has 'd' && !g.has 's' then 1 else 2
    let count := g.operands.length
    if count < least then
      match g.operands with
      | [] => misuse "tr" "missing operand" 1
      | a :: _ =>
        misuse "tr" ("missing operand after " ++ quoted a ++ "\n" ++
          if g.has 's' then "Two strings must be given when both deleting and squeezing repeats."
          else "Two strings must be given when translating.") 1
    else if count > most then
      misuse "tr" ("extra operand " ++ quoted (g.operands.getD most "") ++
        if count = 2 then
          "\nOnly one string may be given when deleting without squeezing repeats."
        else "") 1
    else
      match ← set? (g.operands.headD "") with
      | none => return 1
      | some first =>
        match g.operands with
        | [_, b] =>
          match ← set? b with
          | none => return 1
          | some second => run (plan g first (some second))
        | _ => run (plan g first none)
where
  -- A set as it was written.
  set? (text : String) : Work (Option (List Element)) := do
    let (warnings, es) := parse text
    for w in warnings do toolComplain "tr" ("warning: " ++ w)
    match es with
    | .ok es => return some es
    | .error text =>
      toolComplain "tr" text
      return none
  run (plan : Except String (List Char → List Char)) : Work Nat := do
    match plan with
    | .error text =>
      toolComplain "tr" text
      return 1
    | .ok change =>
      match ← readAll 0 with
      | .ok text =>
        print (String.ofList (change text.toList))
        return 0
      | .error e =>
        toolComplain "tr" ("read error: " ++ e.text)
        return 1

end Rulebook.Script
