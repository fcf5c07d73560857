import Rulebook.Script.Decimal
import Rulebook.Script.Tool.Option

namespace Rulebook.Script

-- The program that shows bytes.

namespace Dumping

-- How units of so many bytes are shown, in fields of a width.
structure Form where
  size : Nat
  width : Nat
  shown : List Char → String
  -- whether the characters follow the row
  trailing : Bool := false

-- The value of bytes, the lowest first.
def value (cs : List Char) : Nat :=
  cs.reverse.foldl (fun n c => n * 256 + c.toNat) 0

def padded (base width : Nat) (n : Nat) : String :=
  let ds := digits base n
  String.ofList (List.replicate (width - ds.length) '0') ++ ds

def charText (cs : List Char) : String :=
  let n := value cs
  match [(0, "\\0"), (7, "\\a"), (8, "\\b"), (9, "\\t"), (10, "\\n"), (11, "\\v"), (12, "\\f"),
      (13, "\\r")].lookup n with
  | some t => t
  | none => if 32 ≤ n && n < 127 then String.singleton (Char.ofNat n) else padded 8 3 n

def names : List String :=
  ["nul", "soh", "stx", "etx", "eot", "enq", "ack", "bel", "bs", "ht", "nl", "vt", "ff", "cr",
   "so", "si", "dle", "dc1", "dc2", "dc3", "dc4", "nak", "syn", "etb", "can", "em", "sub", "esc",
   "fs", "gs", "rs", "us", "sp"]

-- The name of a character of ASCII. The highest bit does not count.
def nameText (cs : List Char) : String :=
  let n := value cs % 128
  if n = 127 then "del" else names.getD n (String.singleton (Char.ofNat n))

def signed (bits : Nat) (n : Nat) : Int :=
  if n ≥ Nat.pow 2 (bits - 1) then (n : Int) - Int.ofNat (Nat.pow 2 bits) else n

-- How numbers with a fraction are kept in so many bytes: their exactness, where the exponent is,
-- how long it is, and how many decimal digits are shown at least and at most.
structure FloatForm where
  exactness : Exactness
  fractionBits : Nat
  exponentBits : Nat
  leastDigits : Nat
  mostDigits : Nat
  width : Nat

def floatForm? : (size : Nat) → Option FloatForm
  | 4 => some ⟨⟨24, -149, 128⟩, 23, 8, 6, 9, 15⟩
  | 8 => some ⟨.double, 52, 11, 15, 17, 24⟩
  | 16 => some ⟨.extended, 64, 15, 18, 21, 29⟩
  | _ => none

-- The amount that bits stand for. Only the widest form has the leading digit of its fraction.
def FloatForm.amount (f : FloatForm) (bits : Nat) : Amount :=
  let leads := f.fractionBits < 64
  let fraction := bits % Nat.pow 2 f.fractionBits
  let exponent := bits / Nat.pow 2 f.fractionBits % Nat.pow 2 f.exponentBits
  let negative := bits / Nat.pow 2 (f.fractionBits + f.exponentBits) % 2 = 1
  if exponent = Nat.pow 2 f.exponentBits - 1 then
    if (if leads then fraction else fraction % Nat.pow 2 63) = 0 then .infinite negative
    else .undefined negative
  else if exponent = 0 then .finite ⟨negative, fraction, f.exactness.lowest⟩
  else if !leads && fraction < Nat.pow 2 63 then .undefined negative
  else
    .finite ⟨negative, if leads then fraction + Nat.pow 2 f.fractionBits else fraction,
      f.exactness.lowest + exponent - 1⟩

-- Whether digits are read as the same value again.
def FloatForm.isExact (f : FloatForm) (v : Dyadic) (text : String) : Bool :=
  match Numeral.leading? false text.toList with
  | some (n, _) =>
    match (n.amount f.exactness).1 with
    | .finite w => v.numerator * w.denominator = w.numerator * v.denominator
    | _ => false
  | none => false

-- The shortest digits that stand for a value.
def FloatForm.text (f : FloatForm) (bits : Nat) : String :=
  match f.amount bits with
  | .infinite negative => if negative then "-inf" else "inf"
  | .undefined negative => if negative then "-nan" else "nan"
  | .finite v =>
    let least := if v.amount < Nat.pow 2 (f.exactness.bits - 1) then 1 else f.leastDigits
    let counts := (List.range (f.mostDigits + 1)).drop least
    let texts := counts.map fun n => v.general n false
    let text := (texts.find? (f.isExact v)).getD (v.general f.mostDigits false)
    if v.negative then "-" ++ text else text

-- A form from its letter and size.
def integerForm? (letter : Char) (size : Nat) : Option Form :=
  let most := (toString (Nat.pow 256 size - 1)).length
  let octal := (8 * size + 2) / 3
  if size ∉ [1, 2, 4, 8] then none
  else
    match letter with
    | 'd' => some ⟨size, (toString (Nat.pow 2 (8 * size - 1))).length + 1,
        fun cs => toString (signed (8 * size) (value cs)), false⟩
    | 'u' => some ⟨size, most, fun cs => toString (value cs), false⟩
    | 'o' => some ⟨size, octal, fun cs => padded 8 octal (value cs), false⟩
    | 'x' => some ⟨size, 2 * size, fun cs => padded 16 (2 * size) (value cs), false⟩
    | _ => none

-- The size in front of the rest of a type: a letter, a number, or the usual one.
def sizeOf (letters : List (Char × Nat)) (usual : Nat) (cs : List Char) : Nat × List Char :=
  match cs with
  | c :: r =>
    match letters.lookup c with
    | some n => (n, r)
    | none =>
      match cs.span Char.isDigit with
      | ([], _) => (usual, cs)
      | (ds, r) => (ofDigits 10 ds, r)
  | [] => (usual, cs)

-- One form in front of a type, and what follows it.
def form? (text : String) (cs : List Char) : Except String (Form × List Char) := do
  let invalid := "invalid type string " ++ quoted text
  let lacking (size : Nat) (kind : String) : String :=
    if size ≥ 2147483648 then invalid
    else invalid ++ ";\nthis system doesn't provide a " ++ toString size ++ "-byte " ++ kind ++
      " type"
  match cs with
  | 'a' :: r => return (⟨1, 3, nameText, false⟩, r)
  | 'c' :: r => return (⟨1, 3, charText, false⟩, r)
  | 'f' :: r =>
    let (size, r) := sizeOf [('F', 4), ('D', 8), ('L', 16)] 8 r
    match floatForm? size with
    | some f => return (⟨size, f.width, fun cs => f.text (value cs), false⟩, r)
    | none => throw (lacking size "floating point")
  | c :: r =>
    if c ∉ ['d', 'o', 'u', 'x'] then
      throw ("invalid character '" ++ String.singleton c ++ "' in type string " ++ quoted text)
    let (size, r) := sizeOf [('C', 1), ('S', 2), ('I', 4), ('L', 8)] 4 r
    match integerForm? c size with
    | some f => return (f, r)
    | none => throw (lacking size "integral")
  | [] => throw invalid

-- The forms of a type.
def forms (text : String) : (fuel : Nat) → List Char → Except String (List Form)
  | 0, _ => .ok []
  | _ + 1, [] => .ok []
  | fuel + 1, cs => do
    match ← form? text cs with
    | (f, 'z' :: r) => return { f with trailing := true } :: (← forms text fuel r)
    | (f, r) => return f :: (← forms text fuel r)

-- What options ask for.
structure Style where
  radix : Char := 'o'
  forms : List Form := []
  skipped : Nat := 0
  most : Option Nat := none
  -- the least length of texts that are looked for
  texts : Option Nat := none
  all : Bool := false
  width : Option Nat := none
  -- whether only options were given that have always been there
  old : Bool := true
  ok : Bool := true

-- The types that letters stand for.
def oldTypes : List (Char × String) :=
  [('a', "a"), ('b', "o1"), ('c', "c"), ('D', "u4"), ('d', "u2"), ('F', "fD"), ('e', "fD"),
   ('f', "fF"), ('X', "x4"), ('H', "x4"), ('i', "dI"), ('I', "dL"), ('L', "dL"), ('l', "dL"),
   ('O', "o4"), ('B', "o2"), ('o', "o2"), ('s', "d2"), ('h', "x2"), ('x', "x2")]

def units : String := "bEGKkMmPTYZ0"

-- Take one option. What is wrong with a type is complained about when all have been taken.
def withOption (st : Style) (letter : Char) (text : String) :
    Except String (Style × List String) := do
  let count (base : Nat) (units : String) : Except String Nat :=
    (scaled? base units text).mapError fun f => f.text ("-" ++ String.singleton letter) text
  let typed (type : String) (st : Style) : Style × List String :=
    match forms type (type.length + 1) type.toList with
    | .ok fs => ({ st with forms := st.forms ++ fs }, [])
    | .error e => ({ st with ok := false }, [e])
  match oldTypes.lookup letter with
  | some type => return typed type st
  | none =>
    let st := { st with old := false }
    match letter with
    | 't' => return typed text st
    | 'A' =>
      match text.toList with
      | c :: _ =>
        if c ∈ ['d', 'o', 'x', 'n'] then return ({ st with radix := c }, [])
        else throw (radixComplaint (String.singleton c))
      | [] => throw (radixComplaint "\x00")
    | 'j' => return ({ st with skipped := ← count 0 units }, [])
    | 'N' => return ({ st with most := some (← count 0 units) }, [])
    | 'S' => return ({ st with texts := some (← if text = "" then .ok 3 else count 0 units) }, [])
    | 'w' => return ({ st with width := some (← if text = "" then .ok 32 else count 10 "") }, [])
    | 'v' => return ({ st with all := true }, [])
    | _ => return (st, [])
where
  radixComplaint (c : String) : String :=
    "invalid output address radix " ++ quoted c ++ "; it must be one character from [doxn]"

def withOptionList :
    List (Char × String) → Style → Except (String × List String) (Style × List String)
  | [], st => .ok (st, [])
  | (c, text) :: os, st =>
    match withOption st c text with
    | .error e => .error (e, [])
    | .ok (st, complaints) =>
      match withOptionList os st with
      | .ok (st, more) => .ok (st, complaints ++ more)
      | .error (e, more) => .error (e, complaints ++ more)

def offset (radix : Char) (n : Nat) : String :=
  match radix with
  | 'n' => ""
  | 'd' => padded 10 7 n
  | 'x' => padded 16 6 n
  | _ => padded 8 7 n

-- The widths of fields, so many of which share what is left of the row.
def fieldWidths (fields width pad : Nat) : List Nat :=
  ((List.range fields).reverse).map fun i => pad * (i + 1) / fields - pad * i / fields + width

def spaces (n : Nat) : String :=
  String.ofList (List.replicate n ' ')

-- A row of units. It has room for so many bytes, and is so wide.
def row (f : Form) (room wide : Nat) (cs : List Char) : String :=
  let fields := room / f.size
  let blank := (room - cs.length) / f.size
  let pad := wide - f.width * fields
  let units := chunks f.size room (cs ++ List.replicate (room - cs.length) '\x00')
  let shown := ((fieldWidths fields f.width pad).zip units).take (fields - blank)
  let text := String.join (shown.map fun (w, u) => padLeft w (f.shown u))
  if f.trailing then
    text ++ spaces (blank * f.width + pad * blank / fields) ++ "  >" ++
      String.ofList (cs.map fun c => if ' ' ≤ c && c ≤ '~' then c else '.') ++ "<"
  else text

-- A part of what is shown, with how many bytes must have been read before.
structure Item where
  need : Nat
  text : String

-- Rows of so many bytes from a place on. Those that are the same as the one before are left out,
-- with a star in their place.
def rows (st : Style) (room : Nat) : (place : Nat) → (before : Option (List Char)) →
    (starred : Bool) → List (List Char) → List Item
  | _, _, _, [] => []
  | place, before, starred, cs :: rest =>
    let stop := place + cs.length
    if !st.all && before = some cs && cs.length = room then
      (if starred then [] else [⟨stop, "*\n"⟩]) ++ rows st room stop before true rest
    else
      let wide := (st.forms.map fun f => (f.width + 1) * (room / f.size)).foldl max 0
      let front := offset st.radix place
      let lines := st.forms.zipIdx.map fun (f, i) =>
        (if i = 0 then front else spaces (offset st.radix 0).length) ++ row f room wide cs
      ⟨if cs.length = room then stop else stop + 1, unlines lines⟩ ::
        rows st room stop (some cs) false rest

-- The texts of at least so many characters that a zero ends, with where they are. The end of what
-- is shown counts as one if it was asked for.
def texts (least : Nat) (bounded : Bool) (size : Nat) : (place : Nat) → (run : List Char) →
    List Char → List (Nat × List Char)
  | place, run, [] =>
    let ends := bounded && place = size && run.length ≥ least
    if ends then [(place - run.length, run.reverse)] else []
  | place, run, c :: cs =>
    if ' ' ≤ c && c ≤ '~' then texts least bounded size (place + 1) (c :: run) cs
    else if c = '\x00' && run.length ≥ least then
      (place - run.length, run.reverse) :: texts least bounded size (place + 1) [] cs
    else texts least bounded size (place + 1) [] cs

-- What is read: bytes, and complaints about files at the places where they were to follow.
structure Input where
  bytes : List Char := []
  complaints : List (Nat × String) := []

-- The files that can be read.
def inputOf : (start : Nat) → List String → Work Input
  | _, [] => return {}
  | start, name :: names => do
    match ← readNamed name with
    | .ok text =>
      let more ← inputOf (start + text.length) names
      return { more with bytes := text.toList ++ more.bytes }
    | .error e =>
      let more ← inputOf start names
      return { more with complaints := (start, name ++ ": " ++ e.text) :: more.complaints }

-- The files that come before the first one that can be opened are complained about at once.
def openFirst : List String → Work (List String)
  | [] => return []
  | name :: names => do
    let s ← get
    match if name = "-" then none else (s.machine.find s.folder name).toOption.map (·.2) with
    | some none =>
      toolComplain "od" (ShellWord.inFront name ++ ": " ++ Refusal.noEntry.text)
      openFirst names
    | _ => return name :: names

-- Show parts. Complaints come when what is behind them is needed.
def showItems : List Item → (complaints : List (Nat × String)) → Work Unit
  | [], complaints => complaints.forM fun c => toolComplain "od" c.2
  | item :: items, complaints => do
    let (now, later) := complaints.span (·.1 < item.need)
    now.forM fun c => toolComplain "od" c.2
    print item.text
    showItems items later

-- A place in a file as it used to be given.
def oldOffset? (s : String) : Option Nat :=
  let s := if s.startsWith "+" then String.ofList (s.toList.drop 1) else s
  let base := if s.startsWith "0x" || s.startsWith "0X" then 16 else 8
  (scaled? base "Bb" s).toOption

-- What is to be skipped may follow the name of a file.
def withOldOffset (st : Style) (names : List String) : Style × List String :=
  if !st.old then (st, names)
  else
    match names with
    | [a] =>
      match if a.startsWith "+" then oldOffset? a else none with
      | some n => ({ st with skipped := n }, [])
      | none => (st, names)
    | [a, b] =>
      let tells := b.startsWith "+" || (b.toList.head?.any Char.isDigit)
      match if tells then oldOffset? b else none with
      | some n => ({ st with skipped := n }, [a])
      | none => (st, names)
    | _ => (st, names)

def optionForms : List OptionForm :=
  [⟨'A', "address-radix", .value⟩, ⟨'t', "format", .value⟩, ⟨'v', "output-duplicates", .nothing⟩,
   ⟨'N', "read-bytes", .value⟩, ⟨'j', "skip-bytes", .value⟩, ⟨'w', "width", .joined⟩,
   ⟨'S', "", .value⟩, ⟨'S', "strings", .joined⟩] ++
    oldTypes.map fun (c, _) => { letter := c }

-- How many bytes all forms can share, and how many a row has.
def unitOf (st : Style) : Nat :=
  st.forms.foldl (fun n f => Nat.lcm n f.size) 1

def roomOf (st : Style) : Work Nat := do
  let unit := unitOf st
  let usual := if unit < 16 then unit * (16 / unit) else unit
  let room := st.width.getD usual
  if room % unit = 0 then return room
  toolComplain "od" ("warning: invalid width " ++ toString room ++ "; using " ++ toString unit ++
    " instead")
  return unit

-- Show bytes from a place on with a style. What comes behind the last byte is not needed if only so
-- many bytes were asked for.
def display (st : Style) (cs : List Char) (complaints : List (Nat × String)) : Work Unit := do
  let stop := st.skipped + cs.length
  let bounded := st.most.any (· ≤ cs.length)
  let later := complaints.filter fun c => !bounded || c.1 < stop
  let room ← roomOf st
  if st.width = some 0 then setFlow (.killed 6)
  else
    let limited (need : Nat) : Nat := if bounded then min need stop else need
    let items :=
      match st.texts with
      | some least =>
        (texts least bounded stop st.skipped [] cs).map fun (place, text) =>
          let front := if st.radix = 'n' then "" else offset st.radix place ++ " "
          ⟨limited (place + text.length + 1), front ++ String.ofList text ++ "\n"⟩
      | none =>
        let last := if st.radix = 'n' then "" else offset st.radix stop ++ "\n"
        (rows st room st.skipped none false (chunks room (cs.length + 1) cs)).map
          (fun i => { i with need := limited i.need }) ++ [⟨limited (stop + 1), last⟩]
    showItems items later

end Dumping

open Dumping in
def odTool (args : List String) : Work Nat :=
  withOptions "od" optionForms 1 args fun g => do
    match withOptionList g.options {} with
    | .error (e, complaints) =>
      complaints.forM (toolComplain "od")
      toolComplain "od" e
      return 1
    | .ok (st, complaints) =>
      complaints.forM (toolComplain "od")
      if !st.ok then return 1
      if st.texts.isSome && !st.forms.isEmpty then
        toolComplain "od" "no type may be specified when dumping strings"
        return 1
      let (st, operands) := withOldOffset st g.operands
      let st := if st.forms.isEmpty then
          { st with forms := (integerForm? 'o' 2).toList }
        else st
      let operands := if operands.isEmpty then ["-"] else operands
      let names ← openFirst operands
      if names.isEmpty then return 1
      let input ← inputOf 0 names
      let (before, complaints) := input.complaints.span (·.1 < st.skipped)
      before.forM fun c => toolComplain "od" c.2
      if st.skipped > input.bytes.length && !isNothing (← get) names then
        toolComplain "od" "cannot skip past end of combined input"
        return 1
      let rest := input.bytes.drop st.skipped
      let needed := (st.most.map rest.take).getD rest
      if st.most.isSome && names.getLast? = some "-" then giveBack 0 (rest.drop needed.length)
      display st needed complaints
      let missed := st.most.any (· ≤ needed.length)
      let failed := input.complaints.any fun c => !missed || c.1 < st.skipped + needed.length
      return if failed || names.length < operands.length then 1 else 0
where
  -- Everything can be skipped where there is nothing.
  isNothing (s : Shell) (names : List String) : Bool :=
    match names with
    | ["-"] => ((s.opened 0).toOption.map (·.device)) = some .nothing
    | [name] => Machine.resolve s.folder name = "/dev/null"
    | _ => false

end Rulebook.Script
