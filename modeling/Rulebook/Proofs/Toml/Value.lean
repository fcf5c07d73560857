import Rulebook.Proofs.Json.Token
import Rulebook.Proofs.Toml.Text
import Rulebook.Toml.Value

namespace Rulebook.Toml

-- Values that were written are read as they were. Texts come first.

theorem exists_quotedText_cons (s : String) :
    ∃ q rest, (quotedText s).toList = q :: rest ∧ (q = '"' ∨ q = '\'') := by
  rw [toList_quotedText]
  rcases styleFor_cases s.toList with h | h | ⟨h, -⟩ | ⟨h, -⟩
  · exact ⟨'"', _, by rw [h]; rfl, .inl rfl⟩
  · exact ⟨'"', _, by rw [h]; rfl, .inl rfl⟩
  · exact ⟨'\'', _, by rw [h]; rfl, .inr rfl⟩
  · exact ⟨'\'', _, by rw [h]; rfl, .inr rfl⟩

theorem value_of_scalar {depth : Nat} {c : Char} {r : List Char} (hc : c ≠ '[' ∧ c ≠ '\x7b') :
    value? depth (c :: r) = scalar? (c :: r) := by
  cases depth with
  | zero => rfl
  | succ depth => simp [value?, hc.1, hc.2]

theorem value_quotedText (depth : Nat) (s : String) {r : List Char}
    (hr : ∀ c ∈ r.head?, c ≠ '"' ∧ c ≠ '\'') :
    value? depth ((quotedText s).toList ++ r) = some (.string s, r) := by
  have hread := text_quotedText s hr
  obtain ⟨q, rest, hq, hquote⟩ := exists_quotedText_cons s
  rw [hq, List.cons_append] at hread ⊢
  rw [value_of_scalar (by rcases hquote with rfl | rfl <;> decide), scalar?, hread]

theorem value_flag (depth : Nat) (b : Bool) (r : List Char) :
    value? depth ((Item.flag b).print.toList ++ r) = some (.bool b, r) := by
  cases b with
  | false =>
    change value? depth ('f' :: _) = _
    rw [value_of_scalar (by decide)]
    rfl
  | true =>
    change value? depth ('t' :: _) = _
    rw [value_of_scalar (by decide)]
    rfl

-- Digits before the end of a line are a count, and no date or time.

private theorem rest_of_field {ds : List Char} {count low high n : Nat} {r rest : List Char}
    (h : field? count low high (ds ++ '\n' :: r) = some (n, rest)) :
    rest = ds.drop count ++ '\n' :: r := by
  unfold field? at h
  simp only at h
  split at h
  next hfield =>
    simp only [Bool.and_eq_true, List.all_eq_true] at hfield
    have hall := hfield.1.1.2
    have hcount : count ≤ ds.length := by
      by_contra hlt
      have hend : '\n' ∈ (ds ++ '\n' :: r).take count := by
        rw [List.take_append, List.mem_append]
        obtain ⟨k, hk⟩ := Nat.exists_eq_add_of_lt (Nat.lt_of_not_le hlt)
        have hlast : count - ds.length = k + 1 := by omega
        rw [hlast]
        exact .inr List.mem_cons_self
      exact absurd (hall _ hend) (by decide)
    rw [← (Prod.mk.inj (Option.some.inj h)).2, List.drop_append_of_le_length hcount]
  next => cases h

private theorem isDigit_of_mem {n : Nat} {c : Char} (h : c ∈ Nat.toDigits 10 n) :
    c.isDigit = true :=
  Nat.isDigit_of_mem_toDigits (by decide) (by decide) h

-- A digit is no other character.
private theorem ne_of_isDigit {d c : Char} (hd : d.isDigit = true) (hc : c.isDigit = false) :
    d ≠ c := by
  rintro rfl
  cases hd.symm.trans hc

private theorem expect_drop {ds : List Char} (hds : ∀ c ∈ ds, c.isDigit = true)
    (r : List Char) (count : Nat) (separator : Char)
    (hseparator : separator.isDigit = false ∧ separator ≠ '\n') :
    expect separator (ds.drop count ++ '\n' :: r) = none := by
  cases hdrop : ds.drop count with
  | nil => simp [expect, hseparator.2]
  | cons d rest =>
    have hd : d ∈ ds := List.mem_of_mem_drop (by rw [hdrop]; exact List.mem_cons_self)
    simp [expect, (ne_of_isDigit (hds d hd) hseparator.1).symm]

theorem moment_digits {ds : List Char} (hds : ∀ c ∈ ds, c.isDigit = true) (r : List Char) :
    moment? (ds ++ '\n' :: r) = none := by
  have hdate : date? (ds ++ '\n' :: r) = none := by
    unfold date?
    rcases hfield : field? 4 0 9999 (ds ++ '\n' :: r) with - | ⟨n, rest⟩
    · rfl
    · obtain rfl := rest_of_field hfield
      simp [expect_drop hds r 4 '-' (by decide)]
  have htime : time? (ds ++ '\n' :: r) = none := by
    unfold time? hourMinute?
    rcases hfield : field? 2 0 23 (ds ++ '\n' :: r) with - | ⟨n, rest⟩
    · rfl
    · obtain rfl := rest_of_field hfield
      simp [expect_drop hds r 2 ':' (by decide)]
  simp [moment?, hdate, htime]

theorem digits_toDigits (n : Nat) (r : List Char) :
    digits? Char.isDigit (Nat.toDigits 10 n ++ '\n' :: r) =
      some (Nat.toDigits 10 n, '\n' :: r) := by
  have hspan : ∀ c ∈ Nat.toDigits 10 n, (c.isDigit || decide (c = '_')) = true :=
    fun c hc => by simp [isDigit_of_mem hc]
  have hunderscore : ∀ c ∈ Nat.toDigits 10 n, c ≠ '_' :=
    fun c hc => ne_of_isDigit (isDigit_of_mem hc) (by decide)
  have hrun : (Nat.toDigits 10 n ++ '\n' :: r).takeWhile (fun c => c.isDigit || c = '_') =
      Nat.toDigits 10 n :=
    takeWhile_front hspan (by simp)
  have hrest : (Nat.toDigits 10 n ++ '\n' :: r).dropWhile (fun c => c.isDigit || c = '_') =
      '\n' :: r :=
    dropWhile_front hspan (by simp)
  have hsplit : (Nat.toDigits 10 n).splitOn '_' = [Nat.toDigits 10 n] :=
    List.splitOn_eq_singleton fun hc => hunderscore _ hc rfl
  simpa [digits?, hrun, hrest, hsplit] using hunderscore

theorem whole_toDigits (n : Nat) (r : List Char) :
    whole? (Nat.toDigits 10 n ++ '\n' :: r) = some (Nat.toDigits 10 n, '\n' :: r) := by
  unfold whole?
  rw [digits_toDigits]
  split
  next hzero =>
    have hdigits := (Prod.mk.inj (Option.some.inj hzero)).1
    rcases Nat.eq_zero_or_pos n with rfl | hn
    · simp [Nat.toDigits_zero] at hdigits
    · exact absurd (by rw [hdigits]; rfl) (Json.head_toDigits hn)
  next => rfl

theorem integer_ofNat {n : Nat} (hn : n < 0x8000000000000000) :
    integer? n = some (.ofNat n) := by
  have hrange : (-0x8000000000000000 ≤ (n : Int) && (n : Int) < 0x8000000000000000) = true := by
    simp only [Bool.and_eq_true, decide_eq_true_eq]
    omega
  unfold integer?
  rw [if_pos hrange]
  rfl

theorem decimal_toDigits {n : Nat} (hn : n < 0x8000000000000000) (r : List Char) :
    decimal? false (Nat.toDigits 10 n ++ '\n' :: r) = some (.ofNat n, '\n' :: r) := by
  have hfraction : fraction? ('\n' :: r) = some ([], '\n' :: r) := rfl
  have hexponent : exponent? ('\n' :: r) = some (0, '\n' :: r) := rfl
  simp [decimal?, whole_toDigits, hfraction, hexponent, signed, Nat.ofDigitChars_ten_toDigits,
    integer_ofNat hn]

theorem number_toDigits {n : Nat} (hn : n < 0x8000000000000000) (r : List Char) :
    number? (Nat.toDigits 10 n ++ '\n' :: r) = some (.ofNat n, '\n' :: r) := by
  have hread := decimal_toDigits hn r
  obtain ⟨d, ds, hds, hd⟩ := Json.exists_toDigits_cons n
  -- the mark of a base would be the second character
  have hmark {c d' : Char} {rest : List Char} (hc : c.isDigit = false ∧ c ≠ '\n') :
      d :: ds ++ '\n' :: r ≠ d' :: c :: rest := by
    intro h
    have htail := (List.cons.inj h).2
    cases ds with
    | nil => exact hc.2 (List.cons.inj htail).1.symm
    | cons e ds =>
      have he : e.isDigit = true := isDigit_of_mem (n := n) (by simp [hds])
      exact ne_of_isDigit he hc.1 (List.cons.inj htail).1
  have hsign : sign (d :: ds ++ '\n' :: r) = (false, d :: ds ++ '\n' :: r) := by
    simp [sign, ne_of_isDigit hd (c := '-') (by decide), ne_of_isDigit hd (c := '+') (by decide)]
  have hunsigned : unsigned? false (d :: ds ++ '\n' :: r) =
      decimal? false (d :: ds ++ '\n' :: r) := by
    simp [unsigned?, ne_of_isDigit hd (c := 'i') (by decide),
      ne_of_isDigit hd (c := 'n') (by decide)]
  rw [hds] at hread ⊢
  unfold number?
  split
  next h => exact absurd h (hmark (by decide))
  next h => exact absurd h (hmark (by decide))
  next h => exact absurd h (hmark (by decide))
  next => simp only [hsign, hunsigned, hread]

theorem value_count (depth : Nat) {n : Nat} (hn : n < 0x8000000000000000) (r : List Char) :
    value? depth ((Item.count n).print.toList ++ '\n' :: r) = some (.ofNat n, '\n' :: r) := by
  have hprint : (Item.count n).print.toList = Nat.toDigits 10 n := by
    simp [Item.print]
  have hnumber := number_toDigits hn r
  have hmoment := moment_digits (fun c hc => isDigit_of_mem (n := n) hc) r
  obtain ⟨d, ds, hds, hd⟩ := Json.exists_toDigits_cons n
  have hne {c : Char} (hc : c.isDigit = false) : d ≠ c := ne_of_isDigit hd hc
  have htext : text? (d :: (ds ++ '\n' :: r)) = none := by
    simp [text?, oneLine?, hne (c := '"') (by decide), hne (c := '\'') (by decide)]
  have hboolean : boolean? (d :: (ds ++ '\n' :: r)) = none := by
    simp [boolean?, hne (c := 't') (by decide), hne (c := 'f') (by decide)]
  rw [hds, List.cons_append] at hnumber hmoment
  rw [hprint, hds, List.cons_append,
    value_of_scalar ⟨hne (by decide), hne (by decide)⟩]
  simp [scalar?, htext, hboolean, hmoment, hnumber]

-- Arrays. Between their items there are gaps, which end where something begins.

-- A character that belongs to no gap.
def Solid (c : Char) : Prop :=
  isBlank c = false ∧ c ≠ '#' ∧ c ≠ '\n' ∧ c ≠ '\r'

theorem skipGapWithin_solid {c : Char} (hc : Solid c) (fuel : Nat) (blanks : List Char)
    (hblanks : ∀ b ∈ blanks, isBlank b = true) (r : List Char) :
    skipGapWithin (fuel + 1) (blanks ++ c :: r) = c :: r := by
  obtain ⟨hblank, hcomment, hn, hr⟩ := hc
  have hskip : skipBlanks (blanks ++ c :: r) = c :: r := by
    rw [skipBlanks, List.dropWhile_append_of_pos hblanks]
    simp [hblank]
  simp [skipGapWithin, hskip, skipComment, hcomment, lineBreak?, hn, hr]

theorem skipGap_solid {c : Char} (hc : Solid c) (r : List Char) : skipGap (c :: r) = c :: r :=
  skipGapWithin_solid hc _ [] (by simp) r

theorem skipGap_newline {c : Char} (hc : Solid c) (blanks : List Char)
    (hblanks : ∀ b ∈ blanks, isBlank b = true) (r : List Char) :
    skipGap ('\n' :: (blanks ++ c :: r)) = c :: r := by
  have hnext : skipGap ('\n' :: (blanks ++ c :: r)) =
      skipGapWithin (blanks ++ c :: r).length (blanks ++ c :: r) := rfl
  rw [hnext, List.length_append, List.length_cons, ← Nat.add_assoc]
  exact skipGapWithin_solid hc _ blanks hblanks r

theorem solid_quote {q : Char} (h : q = '"' ∨ q = '\'') : Solid q := by
  rcases h with rfl | rfl <;> exact ⟨by decide, by decide, by decide, by decide⟩

theorem solid_comma : Solid ',' :=
  ⟨by decide, by decide, by decide, by decide⟩

theorem solid_bracket : Solid ']' :=
  ⟨by decide, by decide, by decide, by decide⟩

theorem value_bracket (depth : Nat) (r : List Char) : value? depth (']' :: r) = none := by
  have hfield (count low high : Nat) : field? (count + 1) low high (']' :: r) = none := by
    simp [field?]
  have hmoment : moment? (']' :: r) = none := by
    simp [moment?, date?, time?, hourMinute?, hfield]
  have hnumber : number? (']' :: r) = none := rfl
  rw [value_of_scalar (by decide), scalar?]
  simp [text?, oneLine?, boolean?, hmoment, hnumber]

-- An item before a comma or the end of an array.
theorem item_quotedText (depth : Nat) (s : String) {c : Char} (hc : c = ',' ∨ c = ']')
    (r : List Char) :
    item? (value? depth) ((quotedText s).toList ++ c :: r) = some (.string s, c :: r) ∧
      item? (value? depth) ("\n    ".toList ++ ((quotedText s).toList ++ c :: r)) =
        some (.string s, c :: r) := by
  have hsolid : Solid c := by
    rcases hc with rfl | rfl
    · exact solid_comma
    · exact solid_bracket
  have hread := value_quotedText depth s (r := c :: r) (by rcases hc with rfl | rfl <;> simp)
  obtain ⟨q, rest, hq, hquote⟩ := exists_quotedText_cons s
  rw [hq, List.cons_append] at hread ⊢
  constructor
  · simp only [item?, skipGap_solid (solid_quote hquote), hread, Option.map_some,
      skipGap_solid hsolid]
  · have hgap := skipGap_newline (solid_quote hquote) [' ', ' ', ' ', ' ']
      (by simp [isBlank]) (rest ++ c :: r)
    have htext : "\n    ".toList ++ q :: (rest ++ c :: r) =
        '\n' :: ([' ', ' ', ' ', ' '] ++ q :: (rest ++ c :: r)) := rfl
    simp only [item?, htext, hgap, hread, Option.map_some, skipGap_solid hsolid]

theorem item_bracket (depth : Nat) (r : List Char) :
    item? (value? depth) (']' :: r) = none ∧ item? (value? depth) ('\n' :: ']' :: r) = none := by
  have hgap := skipGap_newline solid_bracket [] (by simp) r
  constructor
  · simp [item?, skipGap_solid solid_bracket, value_bracket]
  · rw [List.nil_append] at hgap
    simp [item?, hgap, value_bracket]

-- The lines of an array, each after a line end.
def itemLines (l : List String) : List Char :=
  l.flatMap fun s => "\n    ".toList ++ ((quotedText s).toList ++ [','])

theorem separatedWithin_itemLines (depth : Nat) (l : List String) {fuel : Nat}
    (h : l.length < fuel) (r : List Char) :
    separatedWithin ',' (item? (value? depth)) fuel (itemLines l ++ '\n' :: ']' :: r) =
      (l.map .string, if l = [] then '\n' :: ']' :: r else ',' :: '\n' :: ']' :: r) := by
  induction l generalizing fuel with
  | nil =>
    obtain ⟨fuel, rfl⟩ := Nat.exists_eq_add_one.mpr h
    simp [itemLines, separatedWithin, (item_bracket depth r).2]
  | cons s l ih =>
    obtain ⟨fuel, rfl⟩ := Nat.exists_eq_add_one.mpr (Nat.zero_lt_of_lt h)
    have hrest := ih (Nat.lt_of_succ_lt_succ h)
    have hitem := (item_quotedText depth s (.inl rfl) (itemLines l ++ '\n' :: ']' :: r)).2
    have htext : itemLines (s :: l) ++ '\n' :: ']' :: r = "\n    ".toList ++
        ((quotedText s).toList ++ ',' :: (itemLines l ++ '\n' :: ']' :: r)) := by
      simp [itemLines]
    have hcomma (r : List Char) : expect ',' (',' :: r) = some r := rfl
    rw [htext]
    simp only [separatedWithin, hitem, hcomma, hrest]
    cases l with
    | nil => rfl
    | cons s' l => simp

theorem separated_itemLines (depth : Nat) (l : List String) (r : List Char) :
    separated ',' (item? (value? depth)) (itemLines l ++ '\n' :: ']' :: r) =
      (l.map .string, if l = [] then '\n' :: ']' :: r else ',' :: '\n' :: ']' :: r) := by
  have hlength : l.length ≤ (itemLines l).length := length_le_flatMap (by simp) l
  refine separatedWithin_itemLines depth l ?_ r
  rw [List.length_append]
  omega

-- An array that takes more than one line.
theorem toList_arrayText {l : List String} (h : 2 ≤ l.length) :
    (arrayText (l.map quotedText)).toList = '[' :: (itemLines l ++ ['\n', ']']) := by
  have hlines (l : List String) :
      '\n' :: l.flatMap (fun s => "    ".toList ++ ((quotedText s).toList ++ ",\n".toList)) =
        itemLines l ++ ['\n'] := by
    induction l with
    | nil => rfl
    | cons s l ih =>
      have htext : itemLines (s :: l) = "\n    ".toList ++ ((quotedText s).toList ++ [',']) ++
          itemLines l := rfl
      rw [htext, List.append_assoc, ← ih]
      simp
  match l, h with
  | s :: s' :: l, _ =>
    have hmany := hlines (s :: s' :: l)
    have hend : itemLines (s :: s' :: l) ++ ['\n', ']'] =
        itemLines (s :: s' :: l) ++ ['\n'] ++ [']'] := by
      simp
    rw [hend, ← hmany]
    simp [arrayText, String.toList_join, List.flatMap_map]

theorem arrayBody_of_separated {value : Reader Json} {cs r : List Char} {items : List Json}
    (rest : List Char)
    (h : separated ',' (item? value) cs = (items, rest))
    (hrest : skipGap (if items.isEmpty then rest else (expect ',' rest).getD rest) = ']' :: r) :
    arrayBody? value cs = some (.array items, r) := by
  simp only [arrayBody?, h, hrest]
  rfl

theorem value_texts (depth : Nat) (l : List String) (r : List Char) :
    value? (depth + 1) ((Item.texts l).print.toList ++ '\n' :: r) =
      some (.strings l, '\n' :: r) := by
  have hbracket := skipGap_solid solid_bracket ('\n' :: r)
  match l with
  | [] =>
    have hprint : (Item.texts []).print.toList ++ '\n' :: r = '[' :: ']' :: '\n' :: r := by
      simp [Item.print, arrayText]
    rw [hprint]
    refine arrayBody_of_separated (']' :: '\n' :: r) ?_ (by simpa using hbracket)
    simp [separated, separatedWithin, item_bracket]
  | [s] =>
    have hitem := (item_quotedText depth s (.inr rfl) ('\n' :: r)).1
    have hprint : (Item.texts [s]).print.toList ++ '\n' :: r =
        '[' :: ((quotedText s).toList ++ ']' :: '\n' :: r) := by
      simp [Item.print, arrayText]
    rw [hprint]
    refine arrayBody_of_separated (']' :: '\n' :: r) ?_ (by simpa [expect] using hbracket)
    simp [separated, separatedWithin, hitem, expect]
  | s :: s' :: l =>
    have hgap := skipGap_newline solid_bracket [] (by simp) ('\n' :: r)
    have hprint : (Item.texts (s :: s' :: l)).print.toList ++ '\n' :: r =
        '[' :: (itemLines (s :: s' :: l) ++ '\n' :: ']' :: '\n' :: r) := by
      rw [Item.print, toList_arrayText (by simp)]
      simp
    rw [hprint]
    refine arrayBody_of_separated _ (separated_itemLines depth (s :: s' :: l) ('\n' :: r)) ?_
    simpa [expect] using hgap

theorem exists_print_cons (i : Item) :
    ∃ c rest, i.print.toList = c :: rest ∧ isBlank c = false := by
  cases i with
  | text s =>
    obtain ⟨q, rest, hq, hquote⟩ := exists_quotedText_cons s
    exact ⟨q, rest, hq, (solid_quote hquote).1⟩
  | count n =>
    obtain ⟨d, ds, hds, hd⟩ := Json.exists_toDigits_cons n
    have hprint : (Item.count n).print.toList = d :: ds := by
      simpa [Item.print] using hds
    refine ⟨d, ds, hprint, ?_⟩
    simp [isBlank, ne_of_isDigit hd (c := ' ') (by decide),
      ne_of_isDigit hd (c := '\t') (by decide)]
  | flag b => cases b <;> exact ⟨_, _, rfl, by decide⟩
  | texts l =>
    rcases l with - | ⟨s, - | ⟨s', l⟩⟩
    · exact ⟨_, _, rfl, by decide⟩
    · exact ⟨'[', (quotedText s).toList ++ [']'], by simp [Item.print, arrayText], by decide⟩
    · exact ⟨_, _, toList_arrayText (by simp), by decide⟩

-- What was written on the rest of a line.
theorem value_print (depth : Nat) {i : Item} (h : i.fits = true) (r : List Char) :
    value? (depth + 1) (i.print.toList ++ '\n' :: r) = some (i.toJson, '\n' :: r) := by
  cases i with
  | text s => exact value_quotedText (depth + 1) s (by simp)
  | count n => exact value_count (depth + 1) (of_decide_eq_true h) r
  | flag b => exact value_flag (depth + 1) b ('\n' :: r)
  | texts l => exact value_texts depth l r

end Rulebook.Toml
