import Rulebook.Script.Reader

namespace Rulebook.Script

-- Where a part of a word stands, which decides what is special in it.
structure Place where
  -- between double quotes or in a text inside the script
  quoted : Bool := false
  -- where it ends: at a closing brace, at a double quote, or at two brackets
  inBraces : Bool := false
  inQuotes : Bool := false
  inSum : Bool := false
  -- where quotes inside of quotes and braces are left out
  innerQuotes : Bool := false
  -- nothing is replaced
  verbatim : Bool := false

namespace Place

-- What ends a word that is not quoted.
def endsWord (c : Char) : Bool :=
  c ∈ [' ', '\t', '\n', ';', '&', '|', '(', ')', '<', '>']

-- What a backslash between quotes takes the meaning from.
def escapes (place : Place) (c : Char) : Bool :=
  !place.quoted || c ∈ ['\\', '\x60', '$'] ||
    (c = '"' && (place.inQuotes || place.inBraces)) || (c = '\x7d' && place.inBraces)

end Place

namespace Reader

-- The complaint about a token that does not fit.
def unexpected {α : Type} (t : Token) (expected : Option String) : Reader α :=
  fail <| "Syntax error: " ++ t.label ++ " unexpected" ++
    match expected with
    | some s => " (expecting " ++ s ++ ")"
    | none => ""

def wrong {α : Type} (message : String) : Reader α :=
  fail ("Syntax error: " ++ message)

def hold (t : Token) : Reader Unit :=
  modify fun s => { s with held := some t }

-- Blanks and comments before a token.
def skipBlanks : (fuel : Nat) → Reader Unit
  | 0 => return
  | fuel + 1 => do
    match ← peek with
    | some ' ' | some '\t' =>
      skip
      skipBlanks fuel
    | some '#' => modify fun s => { s with rest := s.rest.dropWhile (· ≠ '\n') }
    | _ => return

def operator (text : String) : Reader Token :=
  return .operator text

-- An operator that may be doubled.
def doubled (c : Char) : Reader Token := do
  if ← accept c then operator (String.ofList [c, c]) else operator (String.singleton c)

-- The rest of an arrow after its first character.
def arrow (stream : Option Nat) (c : Char) : Reader Token := do
  let following :=
    if c = '<' then ["<-", "<", "&", ">"] else [">", "|", "&"]
  let rest ← do
    match ← peek with
    | some d =>
      if String.singleton d ∈ following then
        skip
        if c = '<' && d = '<' then
          if ← accept '-' then pure "<-" else pure "<"
        else pure (String.singleton d)
      else pure ""
    | none => pure ""
  return .redirection (stream.getD (if c = '<' then 0 else 1)) (String.singleton c ++ rest)

-- The raw text up to a backquote, where backslashes are taken from what the backquotes would
-- give a meaning.
def backquoted (quoted : Bool) : (fuel : Nat) → Reader (List Char)
  | 0 => wrong "EOF in backquote substitution"
  | fuel + 1 => do
    match ← peek with
    | none => wrong "EOF in backquote substitution"
    | some '\x60' =>
      skip
      return []
    | some '\\' =>
      skip
      match ← takeRaw with
      | none => wrong "EOF in backquote substitution"
      | some c =>
        let r ← backquoted quoted fuel
        if c ∈ ['\\', '\x60', '$'] || (quoted && c = '"') then return c :: r
        else return '\\' :: c :: r
    | some c =>
      skip
      return c :: (← backquoted quoted fuel)

-- What is to become of the value of a parameter in braces, after its name, and whether an empty
-- value is taken for a missing one. A sign that means nothing is passed over.
def change : Reader (Change × Bool) := do
  let trim (c : Char) : Reader (Change × Bool) := do
    let longest ← accept c
    return (.trim (c = '%') longest, false)
  let known (colon : Bool) : Reader (Change × Bool) := do
    match (← peek).bind (changeSigns.lookup ·) with
    | some change =>
      skip
      return (change, colon)
    | none =>
      skip
      return (.unknown, colon)
  match ← peek with
  | some '\x7d' => return (.same, false)
  | some '%' =>
    skip
    trim '%'
  | some '#' =>
    skip
    trim '#'
  | some ':' =>
    skip
    known true
  | _ => known false

-- The name of a parameter that starts here.
def parameterName : Reader (Option String) := do
  match ← peek with
  | some c =>
    if isNameStart c then return some (← takeWhile isNameChar)
    else if c.isDigit then return some (← takeWhile Char.isDigit)
    else return none
  | none => return none

-- The name of a parameter in braces with what is to become of its value.
def braced : Reader (String × Change × Bool) := do
  match ← parameterName with
  | some name =>
    let (c, colon) ← change
    return (name, c, colon)
  | none =>
    match ← peek with
    | some '#' =>
      skip
      match ← peek with
      | some '\x7d' => return ("#", .same, false)
      | some c =>
        if isNameChar c then
          let name := (← parameterName).getD ""
          return (name, if (← peek) = some '\x7d' then .length else .unknown, false)
        else
          skip
          if (← peek) = some '\x7d' then
            return (String.singleton c,
              if c ∈ specialParameters then .length else .unknown, false)
          else
            modify fun s => { s with rest := c :: s.rest }
            let (d, colon) ← change
            return ("#", d, colon)
      | none => return ("#", .same, false)
    | some c =>
      if c ∈ specialParameters then
        skip
        let (d, colon) ← change
        return (String.singleton c, d, colon)
      else
        if c ≠ '\x7d' then skip
        return ("", .unknown, false)
    | none => return ("", .unknown, false)

-- Whether double quotes hold just all arguments, which may be none.
def holdsArguments : Reader Bool := do
  let rest := (← get).rest
  return "$@\"".toList.isPrefixOf rest || "$\x7b@\x7d\"".toList.isPrefixOf rest

-- A line with its end, and how many line ends there are in it. A backslash may join the next line.
def logicalLine (verbatim : Bool) : List Char → List Char × List Char × Nat
  | [] => ([], [], 0)
  | '\n' :: r => (['\n'], r, 1)
  | '\\' :: c :: r =>
    if verbatim then
      let (l, r, n) := logicalLine verbatim (c :: r)
      ('\\' :: l, r, n)
    else
      let (l, r, n) := logicalLine verbatim r
      ('\\' :: c :: l, r, n + if c = '\n' then 1 else 0)
  | c :: r =>
    let (l, r, n) := logicalLine verbatim r
    (c :: l, r, n)

def withoutJoints : List Char → List Char
  | '\\' :: '\n' :: r => withoutJoints r
  | c :: r => c :: withoutJoints r
  | [] => []

-- A line as it is compared with a mark.
def lineText (verbatim : Bool) (line : List Char) : List Char :=
  let line := if line.getLast? = some '\n' then line.dropLast else line
  if verbatim then line else withoutJoints line

-- The raw lines of a text inside a script up to its mark, what follows, and the number of lines.
def hereLines (mark : HereMark) : (fuel : Nat) → List Char → List Char × List Char × Nat
  | 0, r => ([], r, 0)
  | _ + 1, [] => ([], [], 0)
  | fuel + 1, cs =>
    let cs := if mark.stripped then cs.dropWhile (· = '\t') else cs
    let (line, rest, count) := logicalLine mark.verbatim cs
    if lineText mark.verbatim line = mark.mark.toList then ([], rest, count)
    else
      let (more, rest, n) := hereLines mark fuel rest
      (line ++ more, rest, count + n)

end Reader

namespace Grammar

open Reader

-- Each of these reads from the front of a script. Fuel bounds the number of nested calls, and every
-- second one of them takes a character or a token.
mutual

-- The parts of a word up to its end, which depends on the place.
def pieces : (fuel : Nat) → (place : Place) → (depth : Nat) → Reader Word
  | 0, _, _ => wrong "too long"
  | fuel + 1, place, depth => do
    match ← peek with
    | none =>
      if place.inSum then wrong "Missing '))'"
      else if place.inQuotes || (place.quoted && place.inBraces && place.innerQuotes) then
        wrong "Unterminated quoted string"
      else if place.inBraces then wrong "Missing '\x7d'"
      else return []
    | some '\\' =>
      skip
      match ← takeRaw with
      | none => return joinText "\\" true (← pieces fuel place depth)
      | some c =>
        let w ← pieces fuel place depth
        if place.escapes c then return joinText (String.singleton c) true w
        else return joinText (String.ofList ['\\', c]) true w
    | some '\'' =>
      skip
      if place.quoted || place.inSum then
        return joinText "'" place.quoted (← pieces fuel place depth)
      else
        match ← takeUntil? '\'' with
        | none => wrong "Unterminated quoted string"
        | some s => return .text s true :: (← pieces fuel place depth)
    | some '"' =>
      skip
      if place.inQuotes then return []
      else if place.inSum || (place.quoted && !place.inBraces) then
        return joinText "\"" place.quoted (← pieces fuel place depth)
      else
        let all ← holdsArguments
        let inner ← pieces fuel { quoted := true, inQuotes := true, verbatim := place.verbatim } 0
        let w ← pieces fuel place depth
        return (if all || place.quoted then inner else .text "" true :: inner) ++ w
    | some '$' =>
      skip
      let first ← dollar fuel place
      let w ← pieces fuel place depth
      match first with
      | some piece => return piece :: w
      | none => return joinText "$" place.quoted w
    | some '\x60' =>
      skip
      if place.verbatim then
        return joinText "\x60" true (← pieces fuel place depth)
      else
        let line := (← get).line
        let script ← backquoted place.quoted fuel
        let command ← inside fuel script line
        return .output command place.quoted :: (← pieces fuel place depth)
    | some '\x7d' =>
      skip
      if place.inBraces then return []
      else return joinText "\x7d" place.quoted (← pieces fuel place depth)
    | some c =>
      if place.inSum then
        skip
        if c = ')' && depth = 0 then
          if ← accept ')' then return []
          else return joinText ")" true (← pieces fuel place depth)
        else
          let depth := if c = '(' then depth + 1 else if c = ')' then depth - 1 else depth
          return joinText (String.singleton c) true (← pieces fuel place depth)
      else if !place.quoted && !place.inBraces && Place.endsWord c then return []
      else
        skip
        return joinText (String.singleton c) place.quoted (← pieces fuel place depth)

-- What a dollar sign starts, if it starts anything.
def dollar : (fuel : Nat) → (place : Place) → Reader (Option Piece)
  | 0, _ => wrong "too long"
  | fuel + 1, place => do
    if place.verbatim then return none
    match ← peek with
    | some '(' =>
      skip
      if ← accept '(' then
        return some (.arithmetic (← pieces fuel { quoted := true, inSum := true } 0)
          place.quoted)
      else
        let marks := (← get).marks
        modify fun s => { s with marks := [] }
        let command ← list fuel true
        match ← token fuel false false false with
        | .operator ")" =>
          modify fun s => { s with marks := marks }
          return some (.output command place.quoted)
        | t => unexpected t (some "\")\"")
    | some '\x7b' =>
      skip
      let (name, change, colon) ← braced
      if change = .same then
        skip
        return some (.parameter name .same false [] place.quoted)
      else
        let trims := match change with
          | .trim _ _ => true
          | _ => false
        let inner : Place :=
          { quoted := place.quoted && !trims, inBraces := true, innerQuotes := place.inQuotes }
        let word ← pieces fuel inner 0
        return some (.parameter name change colon word place.quoted)
    | some c =>
      if isNameStart c then
        return some (.parameter (← takeWhile isNameChar) .same false [] place.quoted)
      else if c.isDigit || c ∈ specialParameters then
        skip
        return some (.parameter (String.singleton c) .same false [] place.quoted)
      else return none
    | none => return none

-- The commands of a text of its own.
def inside : (fuel : Nat) → List Char → (line : Nat) → Reader (Option Command)
  | 0, _, _ => wrong "too long"
  | fuel + 1, script, line => do
    let before ← get
    set { before with rest := script, line := line, marks := [], held := none }
    let command ← list fuel true
    match ← token fuel false false false with
    | .finish =>
      let after ← get
      set { after with
        rest := before.rest, line := before.line, marks := before.marks, held := none }
      return command
    | t => unexpected t none

-- The texts inside the script that the line before has asked for.
def hereTexts : (fuel : Nat) → Reader Unit
  | 0 => wrong "too long"
  | fuel + 1 => do
    match (← get).marks with
    | [] => return
    | mark :: marks =>
      let before ← get
      let (raw, rest, count) := hereLines mark before.rest.length before.rest
      let word ←
        if mark.verbatim then pure [.text (String.ofList raw) true]
        else do
          set { before with rest := raw, marks := [] }
          pieces fuel { quoted := true } 0
      modify fun s => { s with
        rest := rest, line := before.line + count, marks := marks
        texts := (mark.number, word) :: s.texts }
      hereTexts fuel

-- The next token. Line ends may be left out, and keywords and aliases looked for.
def token : (fuel : Nat) → (skipsLines keywords? aliases? : Bool) → Reader Token
  | 0, _, _, _ => wrong "too long"
  | fuel + 1, skipsLines, keywords?, aliases? => do
    let t ←
      match (← get).held with
      | some t =>
        modify fun s => { s with held := none }
        pure t
      | none => rawToken fuel
    match t with
    | .operator "\n" =>
      if skipsLines then
        hereTexts fuel
        token fuel skipsLines keywords? aliases?
      else return t
    | .word _ (some s) =>
      if keywords? && s ∈ keywords then return .keyword s
      else
        let behind := (← get).rest.length
        let opens := (← get).opensAlias.any (behind < ·)
        if opens then modify fun s => { s with opensAlias := none }
        let state ← get
        match state.aliases.lookup s with
        | some text =>
          if (aliases? || opens) && !state.insideAliases.any (fun a => a.1 = s && behind ≥ a.2)
          then
            set { state with
              rest := text.toList ++ state.rest
              insideAliases := (s, behind) ::
                state.insideAliases.filter fun a => behind ≥ a.2
              opensAlias := if text.toList.getLast?.any isSpace then some behind else none }
            token fuel skipsLines keywords? aliases?
          else return t
        | none => return t
    | _ => return t

def rawToken : (fuel : Nat) → Reader Token
  | 0 => wrong "too long"
  | fuel + 1 => do
    skipBlanks fuel
    match ← peek with
    | none => return .finish
    | some '\n' =>
      skip
      operator "\n"
    | some '&' =>
      skip
      doubled '&'
    | some '|' =>
      skip
      doubled '|'
    | some ';' =>
      skip
      doubled ';'
    | some '(' =>
      skip
      operator "("
    | some ')' =>
      skip
      operator ")"
    | some '<' =>
      skip
      arrow none '<'
    | some '>' =>
      skip
      arrow none '>'
    | some _ =>
      let start := (← get).rest
      let w ← pieces fuel {} 0
      -- a digit before an arrow is the number of a stream
      match w, ← peek with
      | [.text s false], some c =>
        if (c = '<' || c = '>') && s.length = 1 && s.all Char.isDigit then
          skip
          arrow s.toNat? c
        else return .word w (some s)
      | _, _ =>
        let started := (← get).rest.length < start.length
        if started then return .word w (plainText? w) else wrong "unexpected character"

-- A list of commands. Without a separator at its end another token is read ahead.
def list : (fuel : Nat) → (mayBeEmpty : Bool) → Reader (Option Command)
  | 0, _ => wrong "too long"
  | fuel + 1, mayBeEmpty => do
    let t ← token fuel true true true
    hold t
    if (mayBeEmpty && endsList t) || t matches .finish then return none
    else return some (← commands fuel)

-- At least one command, and others after separators.
def commands : (fuel : Nat) → Reader Command
  | 0 => wrong "too long"
  | fuel + 1 => do
    let (first, goesOn) ← separated fuel
    if goesOn then
      let t ← token fuel true true true
      hold t
      if endsList t then return first
      else return .sequence first (← commands fuel)
    else return first

-- A command with the separator after it, if there is one.
def separated : (fuel : Nat) → Reader (Command × Bool)
  | 0 => wrong "too long"
  | fuel + 1 => do
    let line := (← get).line
    let c ← chain fuel
    match ← token fuel false false false with
    | .operator "&" => return (.background line c, true)
    | .operator ";" => return (c, true)
    | .operator "\n" =>
      hold (.operator "\n")
      return (c, true)
    | t =>
      hold t
      return (c, false)

-- Pipelines that depend on whether what comes before them succeeds.
def chain : (fuel : Nat) → Reader Command
  | 0 => wrong "too long"
  | fuel + 1 => do
    links fuel (← pipeline fuel false)

def links : (fuel : Nat) → Command → Reader Command
  | 0, _ => wrong "too long"
  | fuel + 1, c => do
    match ← token fuel false false false with
    | .operator "&&" => links fuel (.onSuccess c (← pipeline fuel true))
    | .operator "||" => links fuel (.onFailure c (← pipeline fuel true))
    | t =>
      hold t
      return c

def pipeline : (fuel : Nat) → (skipsLines : Bool) → Reader Command
  | 0, _ => wrong "too long"
  | fuel + 1, skipsLines => do
    match ← token fuel skipsLines true true with
    | .keyword "!" =>
      let t ← token fuel false true true
      hold t
      return .negated (← piped fuel)
    | t =>
      hold t
      piped fuel

def piped : (fuel : Nat) → Reader Command
  | 0 => wrong "too long"
  | fuel + 1 => do
    let first ← command fuel
    match ← further fuel with
    | [] => return first
    | cs => return .pipe (first :: cs)

-- The commands behind bars.
def further : (fuel : Nat) → Reader (List Command)
  | 0 => wrong "too long"
  | fuel + 1 => do
    match ← token fuel false false false with
    | .operator "|" =>
      let t ← token fuel true true true
      hold t
      let c ← command fuel
      return c :: (← further fuel)
    | t =>
      hold t
      return []

def expect : (fuel : Nat) → (skipsLines : Bool) → (name : String) → Reader Unit
  | 0, _, _ => wrong "too long"
  | fuel + 1, skipsLines, name => do
    let t ← token fuel skipsLines true true
    if t matches .keyword _ then
      if t.label ≠ "\"" ++ name ++ "\"" then unexpected t (some ("\"" ++ name ++ "\""))
    else unexpected t (some ("\"" ++ name ++ "\""))

-- Commands that must be there before something that ends them.
def body : (fuel : Nat) → (closing : String) → Reader Command
  | 0, _ => wrong "too long"
  | fuel + 1, closing => do
    let t ← token fuel true true true
    if t matches .finish then unexpected t (some ("\"" ++ closing ++ "\""))
    else
      hold t
      commands fuel

def command : (fuel : Nat) → Reader Command
  | 0 => wrong "too long"
  | fuel + 1 => do
    let line := (← get).line
    let t ← token fuel false true true
    match t with
    | .keyword "if" => redirected fuel line (← conditional fuel)
    | .keyword "while" => redirected fuel line (← loop fuel true)
    | .keyword "until" => redirected fuel line (← loop fuel false)
    | .keyword "for" => redirected fuel line (← each fuel line)
    | .keyword "case" => redirected fuel line (← choice fuel line)
    | .keyword "\x7b" =>
      let c ← body fuel "\x7d"
      expect fuel false "\x7d"
      redirected fuel line c
    | .operator "(" =>
      let c ← body fuel ")"
      match ← token fuel false true true with
      | .operator ")" =>
        return .subshell line c (← redirections fuel)
      | t => unexpected t (some "\")\"")
    | .word _ _ | .redirection _ _ =>
      hold t
      simple fuel line
    | t => unexpected t none

-- A compound command may be redirected as a whole. When that is one process, its own redirections
-- do not count then.
def redirected : (fuel : Nat) → (line : Nat) → Command → Reader Command
  | 0, _, _ => wrong "too long"
  | fuel + 1, line, c => do
    match ← redirections fuel, c with
    | [], _ => return c
    | rs, .subshell inner c _ => return .subshell inner c rs
    | rs, _ => return .redirected line c rs

def redirections : (fuel : Nat) → Reader (List Redirection)
  | 0 => wrong "too long"
  | fuel + 1 => do
    match ← token fuel false true true with
    | .redirection stream text =>
      let r ← redirection fuel stream text
      return r :: (← redirections fuel)
    | t =>
      hold t
      return []

-- Where a stream is sent, after its arrow.
def redirection : (fuel : Nat) → (stream : Nat) → (text : String) → Reader Redirection
  | 0, _, _ => wrong "too long"
  | fuel + 1, stream, text => do
    if text = "<<" || text = "<<-" then
      skipBlanks fuel
      let w ← pieces fuel { verbatim := true } 0
      let t ← if w.isEmpty then rawToken fuel else pure (.word w none)
      match t with
      | .word w _ =>
        let s ← get
        let mark : HereMark := ⟨s.number, bareText w, (plainText? w).isNone, text = "<<-"⟩
        set { s with number := s.number + 1, marks := s.marks ++ [mark] }
        return .here stream s.number
      | t => unexpected t none
    else
      match ← token fuel false false false with
      | .word w _ =>
        match text with
        | "<" => return .file stream .read w
        | ">" => return .file stream .create w
        | ">|" => return .file stream .write w
        | ">>" => return .file stream .append w
        | "<>" => return .file stream .readWrite w
        | _ => return .copy stream w
      | t => unexpected t none

-- What follows `if` or `elif`, up to the end of the whole conditional.
def conditional : (fuel : Nat) → Reader Command
  | 0 => wrong "too long"
  | fuel + 1 => do
    let test ← body fuel "then"
    expect fuel false "then"
    let success ← body fuel "fi"
    match ← token fuel false true true with
    | .keyword "elif" => return .branch test success (some (← conditional fuel))
    | .keyword "else" =>
      let failure ← body fuel "fi"
      expect fuel false "fi"
      return .branch test success (some failure)
    | .keyword "fi" => return .branch test success none
    | t => unexpected t (some "\"fi\"")

def loop : (fuel : Nat) → (whileSuccess : Bool) → Reader Command
  | 0, _ => wrong "too long"
  | fuel + 1, whileSuccess => do
    let test ← body fuel "do"
    expect fuel false "do"
    let c ← body fuel "done"
    expect fuel false "done"
    return .loop whileSuccess test c

def each : (fuel : Nat) → (line : Nat) → Reader Command
  | 0, _ => wrong "too long"
  | fuel + 1, line => do
    match ← token fuel false false false with
    | .word _ (some name) =>
      if !isName name then wrong "Bad for loop variable"
      let words ← do
        match ← token fuel true true true with
        | .keyword "in" =>
          let ws ← words fuel
          match ← token fuel false false false with
          | .operator ";" | .operator "\n" => pure (some ws)
          | t => unexpected t none
        | .operator ";" => pure none
        | t =>
          hold t
          pure none
      expect fuel true "do"
      let c ← body fuel "done"
      expect fuel false "done"
      return .each line name words c
    | _ => wrong "Bad for loop variable"

def words : (fuel : Nat) → Reader (List Word)
  | 0 => wrong "too long"
  | fuel + 1 => do
    match ← token fuel false false false with
    | .word w _ => return w :: (← words fuel)
    | t =>
      hold t
      return []

def choice : (fuel : Nat) → (line : Nat) → Reader Command
  | 0, _ => wrong "too long"
  | fuel + 1, line => do
    match ← token fuel false false false with
    | .word subject _ =>
      expect fuel true "in"
      return .choice line subject (← cases fuel)
    | t => unexpected t (some "word")

-- The cases of a choice, up to its end.
def cases : (fuel : Nat) → Reader (List (List Word × Option Command))
  | 0 => wrong "too long"
  | fuel + 1 => do
    match ← token fuel true true false with
    | .keyword "esac" => return []
    | t =>
      let t ← if t matches .operator "(" then token fuel false false false else pure t
      let ps ← patterns fuel t
      let c ← list fuel true
      match ← token fuel true true false with
      | .keyword "esac" => return [(ps, c)]
      | .operator ";;" => return (ps, c) :: (← cases fuel)
      | t => unexpected t (some "\";;\"")

-- The patterns of a case, the first of which starts with a token.
def patterns : (fuel : Nat) → Token → Reader (List Word)
  | 0, _ => wrong "too long"
  | fuel + 1, t => do
    let p : Word ←
      match t with
      | .word w _ => pure w
      | .keyword s => pure [.text s false]
      | t => unexpected t (some "\")\"")
    match ← token fuel false false false with
    | .operator "|" => return p :: (← patterns fuel (← token fuel false false false))
    | .operator ")" => return [p]
    | t => unexpected t (some "\")\"")

def simple : (fuel : Nat) → (line : Nat) → Reader Command
  | 0, _ => wrong "too long"
  | fuel + 1, line => do
    let (as, ws, rs) ← parts fuel true
    match as, ws, rs with
    | [], [w], [] =>
      match ← token fuel false false false with
      | .operator "(" =>
        match ← token fuel false false false with
        | .operator ")" =>
          match plainText? w with
          | some name =>
            if isName name && name ∉ reservedNames then
              let t ← token fuel true true true
              hold t
              return .function name (← command fuel)
            else wrong "Bad function name"
          | none => wrong "Bad function name"
        | t => unexpected t (some "\")\"")
      | t =>
        hold t
        return .simple line as ws rs
    | _, _, _ => return .simple line as ws rs

-- The assignments, words and redirections of a simple command.
def parts : (fuel : Nat) → (first : Bool) →
    Reader (List (String × Word) × List Word × List Redirection)
  | 0, _ => wrong "too long"
  | fuel + 1, first => do
    match ← token fuel false false first with
    | .word w _ =>
      match if first then assignment? w else none with
      | some a =>
        let (as, ws, rs) ← parts fuel first
        return (a :: as, ws, rs)
      | none =>
        let (as, ws, rs) ← parts fuel false
        return (as, w :: ws, rs)
    | .redirection stream text =>
      let r ← redirection fuel stream text
      let (as, ws, rs) ← parts fuel first
      return (as, ws, r :: rs)
    | t =>
      hold t
      return ([], [], [])

end

-- The rest of a line of commands.
def restOfLine : (fuel : Nat) → Reader Command
  | 0 => wrong "too long"
  | fuel + 1 => do
    let (c, goesOn) ← separated fuel
    if goesOn then
      match ← token fuel false true true with
      | .operator "\n" =>
        hereTexts fuel
        return c
      | .finish => return c
      | t =>
        hold t
        return .sequence c (← restOfLine fuel)
    else
      match ← token fuel false false false with
      | .finish =>
        hereTexts fuel
        return c
      | t => unexpected t none

end Grammar

-- What a line of a script holds.
inductive ScriptLine
  | finish
  | empty
  | commands (command : Command)

open Reader Grammar in
-- The next line of a script. It goes on for as many lines as its commands need.
def scriptLine (fuel : Nat) : Reader ScriptLine := do
  match ← token fuel false true true with
  | .operator "\n" =>
    hereTexts fuel
    return .empty
  | .finish => return .finish
  | t =>
    hold t
    return .commands (← restOfLine fuel)

-- Whether what was read so far leaves open what the next line of a script is.
def Reading.isOpen (r : Reading) (next : Except SyntaxError (ScriptLine × Reading)) : Bool :=
  match next with
  | .error _ => true
  | .ok (line, after) =>
    after.rest.isEmpty &&
      (line matches .finish || !after.texts.isEmpty || r.rest.getLast? ≠ some '\n' ||
        (r.rest.dropLast).getLast? = some '\\')

-- No more than so many calls are nested where a script is read.
def readingFuel (s : Reading) : Nat :=
  40 * (s.rest.length + s.aliases.foldl (fun n a => n + a.2.length) 0) + 400

end Rulebook.Script
