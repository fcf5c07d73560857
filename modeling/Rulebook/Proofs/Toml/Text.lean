import Mathlib.Data.List.TakeDrop
import Rulebook.Proofs.Lines
import Rulebook.Toml.Printer
import Rulebook.Toml.Text

namespace Rulebook.Toml

-- How a character between basic quotes is read.

-- The digits of a character that is written by its number.
private def numberDigits (n : Nat) : List Char :=
  List.replicate (4 - (upperHex n).length) '0' ++ upperHex n

private theorem hexDigits_numberDigits :
    ∀ n < 0x80, n < 0x20 ∨ n = 0x7f → (numberDigits n).length = 4 ∧
      ((numberDigits n).mapM Json.hexDigit?).map
        (fun digits => (digits.length, digits.foldl (fun n d => n * 16 + d) 0)) = some (4, n) := by
  decide +kernel

private theorem numbered_numberDigits {c : Char} (h : c.toNat < 0x20 ∨ c.toNat = 0x7f)
    (r : List Char) : numbered? 4 (numberDigits c.toNat ++ r) = some (c, r) := by
  obtain ⟨hlength, hvalue⟩ := hexDigits_numberDigits c.toNat (by omega) h
  obtain ⟨digits, hdigits, hresult⟩ := Option.map_eq_some_iff.mp hvalue
  obtain ⟨hcount, hfold⟩ := Prod.mk.inj hresult
  have htake : (numberDigits c.toNat ++ r).take 4 = numberDigits c.toNat := by
    rw [← hlength, List.take_left]
  have hdrop : (numberDigits c.toNat ++ r).drop 4 = r := by
    rw [← hlength, List.drop_left]
  have hvalid : c.toNat.isValidChar := c.valid
  simp [numbered?, htake, hdigits, hdrop, hcount, hfold, hvalid]

-- What follows a backslash in a written text is no blank and no line end.
private theorem continuation_eq_none {c : Char} {r : List Char} (hblank : isBlank c = false)
    (hn : c ≠ '\n') (hr : c ≠ '\r') : continuation? (c :: r) = none := by
  simp [continuation?, skipBlanks, hblank, lineBreak?, hn, hr]

-- A character is escaped, or stands for itself.
theorem basicChar_cases (multiline : Bool) (c : Char) :
    (∃ e, basicChar multiline c = '\\' :: e ∧
      ∀ r, continuation? (e ++ r) = none ∧ escape? (e ++ r) = some (c, r)) ∨
    basicChar multiline c = [c] ∧ c ≠ '\\' ∧ c ≠ '\r' ∧
      (isPlain c = true ∧ c ≠ '\n' ∨ multiline = true ∧ c = '\n') := by
  have hletter {e : Char} (he : isBlank e = false ∧ e ≠ '\n' ∧ e ≠ '\r')
      (hread : ∀ r, escape? (e :: r) = some (c, r)) (r : List Char) :
      continuation? ([e] ++ r) = none ∧ escape? ([e] ++ r) = some (c, r) :=
    ⟨continuation_eq_none he.1 he.2.1 he.2.2, hread r⟩
  unfold basicChar
  split
  next h => exact .inl ⟨_, rfl, hletter (by decide) fun r => by rw [h]; rfl⟩
  next hbackslash =>
    split
    next h => exact .inl ⟨_, rfl, hletter (by decide) fun r => by rw [h]; rfl⟩
    split
    next h => exact .inl ⟨_, rfl, hletter (by decide) fun r => by rw [h]; rfl⟩
    split
    next h =>
      split
      next hm => exact .inr ⟨rfl, hbackslash, by simp [h], .inr ⟨hm, h⟩⟩
      next => exact .inl ⟨_, rfl, hletter (by decide) fun r => by rw [h]; rfl⟩
    next hn =>
      split
      next h => exact .inl ⟨_, rfl, hletter (by decide) fun r => by rw [h]; rfl⟩
      split
      next h => exact .inl ⟨_, rfl, hletter (by decide) fun r => by rw [h]; rfl⟩
      next hr =>
        split
        next hplain => exact .inr ⟨rfl, hbackslash, hr, .inl ⟨hplain, hn⟩⟩
        next hplain =>
          refine .inl ⟨'u' :: numberDigits c.toNat, rfl, fun r => ?_⟩
          have hcontrol : c.toNat < 0x20 ∨ c.toNat = 0x7f := by
            simp [isPlain] at hplain
            omega
          exact ⟨continuation_eq_none (by decide) (by decide) (by decide),
            numbered_numberDigits hcontrol r⟩

-- Between basic quotes on one line.

theorem length_le_basicChars (multiline : Bool) (run : Nat) (cs : List Char) :
    cs.length ≤ (basicChars multiline run cs).length := by
  induction cs generalizing run with
  | nil => exact Nat.le_refl _
  | cons c cs ih =>
    have hpos : 0 < (basicChar multiline c).length := by
      rcases basicChar_cases multiline c with ⟨e, he, -⟩ | ⟨he, -⟩ <;> simp [he]
    have hzero := ih 0
    have hnext := ih (run + 1)
    unfold basicChars
    by_cases hc : c = '"'
    · by_cases hrun : run < if multiline then 2 else 0
      · simp only [if_pos hc, if_pos hrun, List.length_cons]
        omega
      · simp only [if_pos hc, if_neg hrun, List.length_cons]
        omega
    · simp only [if_neg hc, List.length_append, List.length_cons]
      omega

theorem basicBody_basicChar {c : Char} (hc : c ≠ '"') (fuel : Nat) (taken r : List Char) :
    basicBody? (fuel + 1) taken (basicChar false c ++ r) = basicBody? fuel (c :: taken) r := by
  rcases basicChar_cases false c with ⟨e, he, hread⟩ | ⟨he, hbackslash, -, hplain⟩
  · rw [he]
    simp [basicBody?, (hread r).2]
  · obtain ⟨hplain, -⟩ : isPlain c = true ∧ c ≠ '\n' := by simpa using hplain
    rw [he]
    simp [basicBody?, hc, hbackslash, hplain]

theorem basicBody_basicChars (run : Nat) (cs : List Char) {fuel : Nat} (taken r : List Char)
    (h : cs.length < fuel) :
    basicBody? fuel taken (basicChars false run cs ++ '"' :: r) =
      some (String.ofList (taken.reverse ++ cs), r) := by
  induction cs generalizing fuel taken run with
  | nil =>
    obtain ⟨fuel, rfl⟩ := Nat.exists_eq_add_one.mpr h
    simp [basicChars, basicBody?]
  | cons c cs ih =>
    obtain ⟨fuel, rfl⟩ := Nat.exists_eq_add_one.mpr (Nat.zero_lt_of_lt h)
    have hrest := ih 0 (c :: taken) (Nat.lt_of_succ_lt_succ h)
    by_cases hc : c = '"'
    · subst hc
      simpa [basicChars, basicBody?, escape?] using hrest
    · simp only [basicChars, if_neg hc, List.append_assoc, basicBody_basicChar hc, hrest]
      simp

-- Over several lines. A written body is read step by step, and each step begins with something
-- else than a quote or takes one quote. Of these no more than two stand in a row.

-- A character that is read in one step.
structure Shows (quote : Char) (escapes : Bool) (c d : Char) (chunk : List Char) : Prop where
  ne_quote : d ≠ quote
  ne_return : d ≠ '\r'
  newline : d = '\n' → c = '\n'
  read : ∀ fuel taken r, multilineBody? quote escapes (fuel + 1) taken (d :: (chunk ++ r)) =
    multilineBody? quote escapes fuel (c :: taken) r

inductive Body (quote : Char) (escapes : Bool) : Nat → List Char → List Char → Prop
  | nil {run : Nat} : Body quote escapes run [] []
  | quote {run : Nat} {cs text : List Char} (hrun : run < 2)
      (h : Body quote escapes (run + 1) cs text) :
      Body quote escapes run (quote :: cs) (quote :: text)
  | char {run : Nat} {c d : Char} {chunk cs text : List Char}
      (hc : Shows quote escapes c d chunk) (h : Body quote escapes 0 cs text) :
      Body quote escapes run (c :: cs) (d :: (chunk ++ text))

namespace Body

variable {quote : Char} {escapes : Bool} {run : Nat} {cs text : List Char}

theorem length_le (h : Body quote escapes run cs text) : cs.length ≤ text.length := by
  induction h with
  | nil => exact Nat.le_refl _
  | quote _ _ ih => exact Nat.succ_le_succ ih
  | char _ _ ih =>
    simp only [List.length_cons, List.length_append]
    omega

-- The quotes at the front of a body, which may be all of it.
theorem front (h : Body quote escapes run cs text) (hrun : run ≤ 2) :
    ∃ k, run + k ≤ 2 ∧
      (cs = List.replicate k quote ∧ text = List.replicate k quote ∨
        ∃ d rest, d ≠ quote ∧ text = List.replicate k quote ++ d :: rest) := by
  induction h with
  | nil => exact ⟨0, hrun, .inl ⟨rfl, rfl⟩⟩
  | quote hlt _ ih =>
    obtain ⟨k, hk, hfront⟩ := ih hlt
    refine ⟨k + 1, by omega, ?_⟩
    rcases hfront with ⟨rfl, rfl⟩ | ⟨d, rest, hd, rfl⟩
    · exact .inl ⟨rfl, rfl⟩
    · exact .inr ⟨d, rest, hd, rfl⟩
  | char hc _ _ => exact ⟨0, hrun, .inr ⟨_, _, hc.ne_quote, rfl⟩⟩

end Body

private theorem takeWhile_replicate_append {quote : Char} {k : Nat} {r : List Char}
    (hr : ∀ c ∈ r.head?, c ≠ quote) :
    (List.replicate k quote ++ r).takeWhile (· = quote) = List.replicate k quote :=
  takeWhile_front (by simp) (by simpa using hr)

-- Up to two quotes before the closing ones belong to the text.
theorem multilineBody_close {quote : Char} (escapes : Bool) {k : Nat} (hk : k ≤ 2) (fuel : Nat)
    (taken : List Char) {r : List Char} (hr : ∀ c ∈ r.head?, c ≠ quote) :
    multilineBody? quote escapes (fuel + 1) taken (List.replicate (k + 3) quote ++ r) =
      some (String.ofList (taken.reverse ++ List.replicate k quote), r) := by
  have hrun := takeWhile_replicate_append (k := k + 3) hr
  have hcons : List.replicate (k + 3) quote ++ r =
      quote :: (List.replicate (k + 2) quote ++ r) := rfl
  rw [hcons] at hrun ⊢
  have hextra : min k 2 = k := Nat.min_eq_left hk
  have hdrop : (quote :: (List.replicate (k + 2) quote ++ r)).drop (k + 3) = r := by
    rw [← hcons, List.drop_left' (by simp)]
  have hlong : ¬k + 3 < 3 := by omega
  simp only [multilineBody?, if_true, hrun, List.length_replicate, if_neg hlong, hextra, hdrop,
    Nat.add_sub_cancel, List.reverse_append, List.reverse_replicate]

-- Fewer than three quotes are read one by one.
theorem multilineBody_quote {quote : Char} (escapes : Bool) {k : Nat} (hk : k < 2) (fuel : Nat)
    (taken : List Char) {r : List Char} (hr : ∀ c ∈ r.head?, c ≠ quote) :
    multilineBody? quote escapes (fuel + 1) taken (quote :: (List.replicate k quote ++ r)) =
      multilineBody? quote escapes fuel (quote :: taken) (List.replicate k quote ++ r) := by
  have hrun := takeWhile_replicate_append (k := k + 1) hr
  have hcons : List.replicate (k + 1) quote ++ r = quote :: (List.replicate k quote ++ r) := rfl
  rw [hcons] at hrun
  have hshort : k + 1 < 3 := by omega
  simp only [multilineBody?, if_true, hrun, List.length_replicate, if_pos hshort]

theorem Body.read {quote : Char} {escapes : Bool} {run : Nat} {cs text : List Char}
    (h : Body quote escapes run cs text) (hrun : run ≤ 2) {fuel : Nat} (hfuel : cs.length < fuel)
    (taken : List Char) {r : List Char} (hr : ∀ c ∈ r.head?, c ≠ quote) :
    multilineBody? quote escapes fuel taken (text ++ (List.replicate 3 quote ++ r)) =
      some (String.ofList (taken.reverse ++ cs), r) := by
  induction h generalizing fuel taken with
  | nil =>
    obtain ⟨fuel, rfl⟩ := Nat.exists_eq_add_one.mpr hfuel
    simpa using multilineBody_close escapes (Nat.zero_le 2) fuel taken hr
  | @quote run cs text hlt h ih =>
    obtain ⟨fuel, rfl⟩ := Nat.exists_eq_add_one.mpr (Nat.zero_lt_of_lt hfuel)
    obtain ⟨k, hk, hfront⟩ := h.front hlt
    rcases hfront with ⟨rfl, rfl⟩ | ⟨d, rest, hd, rfl⟩
    · have hclose := multilineBody_close escapes (k := k + 1) (by omega) fuel taken hr
      rwa [← List.replicate_append_replicate, List.append_assoc] at hclose
    · have hd' : ∀ c ∈ (d :: (rest ++ (List.replicate 3 quote ++ r))).head?, c ≠ quote := by
        simpa using hd
      have hstep := multilineBody_quote escapes (k := k) (by omega) fuel taken hd'
      have hnext := ih hlt (Nat.lt_of_succ_lt_succ hfuel) (quote :: taken)
      simp only [List.append_assoc, List.cons_append] at hnext ⊢
      rw [hstep, hnext, List.reverse_cons, List.append_assoc, List.singleton_append]
  | char hc h ih =>
    obtain ⟨fuel, rfl⟩ := Nat.exists_eq_add_one.mpr (Nat.zero_lt_of_lt hfuel)
    rw [List.cons_append, List.append_assoc, hc.read,
      ih (Nat.zero_le 2) (Nat.lt_of_succ_lt_succ hfuel), List.reverse_cons, List.append_assoc,
      List.singleton_append]

theorem shows_self {quote : Char} (escapes : Bool) {c : Char} (hquote : c ≠ quote)
    (hbackslash : escapes = false ∨ c ≠ '\\') (hreturn : c ≠ '\r')
    (hc : isPlain c = true ∨ c = '\n') : Shows quote escapes c c [] where
  ne_quote := hquote
  ne_return := hreturn
  newline := id
  read fuel taken r := by
    have hescape : (escapes && decide (c = '\\')) = false := by
      rcases hbackslash with h | h <;> simp [h]
    by_cases hn : c = '\n'
    · subst hn
      simp [multilineBody?, hquote, lineBreak?]
    · have hbreak : lineBreak? (c :: r) = none := by
        simp [lineBreak?, hn, hreturn]
      have hplain : isPlain c = true := hc.resolve_right hn
      simp [multilineBody?, hquote, hescape, hbreak, hplain]

theorem body_basicChars (cs : List Char) {run : Nat} (hrun : run ≤ 2) :
    Body '"' true run cs (basicChars true run cs) := by
  induction cs generalizing run with
  | nil => exact .nil
  | cons c cs ih =>
    have hzero := ih (Nat.zero_le 2)
    unfold basicChars
    by_cases hc : c = '"'
    · subst hc
      by_cases hlt : run < 2
      · simpa [hlt] using Body.quote hlt (ih hlt)
      · have hshows : Shows '"' true '"' '\\' ['"'] :=
          ⟨by decide, by decide, by decide, fun fuel taken r => by
            simp [multilineBody?, continuation?, skipBlanks, isBlank, lineBreak?, escape?]⟩
        simpa [hlt] using Body.char hshows hzero
    · rw [if_neg hc]
      rcases basicChar_cases true c with ⟨e, he, hread⟩ | ⟨he, hbackslash, hreturn, hplain⟩
      · have hshows : Shows '"' true c '\\' e :=
          ⟨by decide, by decide, fun h => absurd h (by decide), fun fuel taken r => by
            simp [multilineBody?, (hread r).1, (hread r).2]⟩
        rw [he]
        exact .char hshows hzero
      · have hself := shows_self true hc (.inr hbackslash) hreturn
          (hplain.imp And.left And.right)
        rw [he]
        exact .char hself hzero

-- What the longest run is made of.
private def runStep (q : Char) : Nat × Nat → Char → Nat × Nat :=
  fun (best, run) c => if c = q then (max best (run + 1), run + 1) else (best, 0)

private theorem le_foldl_runStep (q : Char) (cs : List Char) (best run : Nat) :
    best ≤ (cs.foldl (runStep q) (best, run)).1 := by
  induction cs generalizing best run with
  | nil => exact Nat.le_refl _
  | cons c cs ih =>
    rw [List.foldl_cons, runStep]
    split
    · exact Nat.le_trans (Nat.le_max_left _ _) (ih _ _)
    · exact ih _ _

private theorem body_of_foldl {cs : List Char} {best run : Nat}
    (hclean : ∀ c ∈ cs, isPlain c = true ∨ c = '\n')
    (h : (cs.foldl (runStep '\'') (best, run)).1 ≤ 2) : Body '\'' false run cs cs := by
  induction cs generalizing best run with
  | nil => exact .nil
  | cons c cs ih =>
    obtain ⟨hc, hcs⟩ := List.forall_mem_cons.mp hclean
    rw [List.foldl_cons] at h
    by_cases hquote : c = '\''
    · subst hquote
      have hstep : runStep '\'' (best, run) '\'' = (max best (run + 1), run + 1) := rfl
      rw [hstep] at h
      have hle := le_foldl_runStep '\'' cs (max best (run + 1)) (run + 1)
      exact .quote (by omega) (ih hcs h)
    · have hstep : runStep '\'' (best, run) c = (best, 0) := if_neg hquote
      rw [hstep] at h
      have hreturn : c ≠ '\r' := by
        rintro rfl
        revert hc
        decide
      exact .char (shows_self false hquote (.inl rfl) hreturn hc) (ih hcs h)

theorem body_self {cs : List Char} (hclean : ∀ c ∈ cs, isPlain c = true ∨ c = '\n')
    (h : longestRun '\'' cs ≤ 2) : Body '\'' false 0 cs cs :=
  body_of_foldl hclean h

private theorem not_mem_of_foldl {q : Char} {cs : List Char} {best run : Nat}
    (h : (cs.foldl (runStep q) (best, run)).1 = 0) : q ∉ cs := by
  induction cs generalizing best run with
  | nil => exact List.not_mem_nil
  | cons c cs ih =>
    rw [List.foldl_cons] at h
    have hc : q ≠ c := by
      rintro rfl
      have hstep : runStep q (best, run) q = (max best (run + 1), run + 1) := if_pos rfl
      rw [hstep] at h
      have hle := le_foldl_runStep q cs (max best (run + 1)) (run + 1)
      omega
    simpa [hc] using ih h

theorem not_mem_of_longestRun {q : Char} {cs : List Char} (h : longestRun q cs = 0) : q ∉ cs :=
  not_mem_of_foldl h

-- What can be relied on of the style that is taken for a text.
theorem styleFor_cases (cs : List Char) :
    styleFor cs = .basic ∨ styleFor cs = .multilineBasic ∨
    styleFor cs = .literal ∧ cs ≠ [] ∧ (∀ c ∈ cs, isPlain c = true) ∧ '\'' ∉ cs ∨
    styleFor cs = .multilineLiteral ∧ (∀ c ∈ cs, isPlain c = true ∨ c = '\n') ∧
      longestRun '\'' cs ≤ 2 := by
  unfold styleFor
  simp only
  split
  next => exact .inl rfl
  next hbasic =>
    split
    next h =>
      obtain ⟨⟨hclean, hn⟩, hrun⟩ : ((∀ c ∈ cs, isPlain c = true ∨ c = '\n') ∧ '\n' ∉ cs) ∧
          longestRun '\'' cs = 0 := by
        simpa using h
      refine .inr (.inr (.inl ⟨rfl, ?_, fun c hc => ?_, not_mem_of_longestRun hrun⟩))
      · rintro rfl
        exact hbasic (by decide)
      · exact (hclean c hc).resolve_right fun h => hn (h ▸ hc)
    next =>
      split
      next => exact .inr (.inl rfl)
      split
      next h =>
        obtain ⟨hclean, hrun⟩ : (∀ c ∈ cs, isPlain c = true ∨ c = '\n') ∧
            longestRun '\'' cs ≤ 2 := by
          simpa using h
        exact .inr (.inr (.inr ⟨rfl, hclean, hrun⟩))
      next => split <;> simp

-- The text between quotes and what follows them.

private theorem basicChars_ne_quote (c : Char) (cs : List Char) {r rest : List Char} :
    basicChars false 0 (c :: cs) ++ r ≠ '"' :: rest := by
  intro h
  by_cases hc : c = '"'
  · simp [basicChars, hc] at h
  · simp only [basicChars, if_neg hc] at h
    rcases basicChar_cases false c with ⟨e, he, -⟩ | ⟨he, -⟩
    · simp [he] at h
    · simp [he, hc] at h

theorem text_basic (cs : List Char) {r : List Char} (hr : ∀ c ∈ r.head?, c ≠ '"') :
    text? ('"' :: (basicChars false 0 cs ++ '"' :: r)) = some (String.ofList cs, r) := by
  have hone : ∀ rest, basicChars false 0 cs ++ '"' :: r ≠ '"' :: '"' :: rest := by
    intro rest h
    cases cs with
    | nil =>
      obtain rfl := (List.cons.inj h).2
      exact hr '"' rfl rfl
    | cons c cs => exact basicChars_ne_quote c cs h
  have htext : text? ('"' :: (basicChars false 0 cs ++ '"' :: r)) =
      basicBody? (basicChars false 0 cs ++ '"' :: r).length []
        (basicChars false 0 cs ++ '"' :: r) := by
    unfold text?
    split
    next rest h => exact absurd (List.cons.inj h).2 (hone rest)
    next h => cases h
    next => rfl
  have hlength := length_le_basicChars false 0 cs
  rw [htext, basicBody_basicChars]
  · rfl
  · simp only [List.length_append, List.length_cons]
    omega

theorem text_literal {cs : List Char} (hne : cs ≠ []) (hplain : ∀ c ∈ cs, isPlain c = true)
    (hquote : '\'' ∉ cs) (r : List Char) :
    text? ('\'' :: (cs ++ '\'' :: r)) = some (String.ofList cs, r) := by
  have hall : ∀ c ∈ cs, decide (c ≠ '\'') = true := by
    intro c hc
    have hne : c ≠ '\'' := by
      rintro rfl
      exact hquote hc
    simpa using hne
  have hbody : (cs ++ '\'' :: r).takeWhile (· ≠ '\'') = cs := takeWhile_front hall (by simp)
  have hrest : (cs ++ '\'' :: r).dropWhile (· ≠ '\'') = '\'' :: r := dropWhile_front hall (by simp)
  have htext : text? ('\'' :: (cs ++ '\'' :: r)) = literalBody? (cs ++ '\'' :: r) := by
    unfold text?
    split
    next h => cases h
    next rest h =>
      obtain ⟨c, cs, rfl⟩ := List.exists_cons_of_ne_nil hne
      rw [List.cons_append] at h
      obtain rfl := (List.cons.inj (List.cons.inj h).2).1
      exact absurd List.mem_cons_self hquote
    next => rfl
  rw [htext]
  simp only [literalBody?, hbody, hrest, List.all_eq_true.mpr hplain, if_true, expect]
  rfl

theorem Body.lineBreak_eq_none {quote : Char} {escapes : Bool} {run : Nat} {cs text : List Char}
    (h : Body quote escapes run cs text) (hquote : quote ≠ '\n' ∧ quote ≠ '\r')
    (hn : '\n' ∉ cs) (r : List Char) : lineBreak? (text ++ (quote :: r)) = none := by
  have hother {d : Char} (hd : d ≠ '\n' ∧ d ≠ '\r') (rest : List Char) :
      lineBreak? (d :: rest) = none := by
    simp [lineBreak?, hd.1, hd.2]
  cases h with
  | nil => exact hother hquote _
  | quote _ _ => exact hother hquote _
  | char hc _ =>
    refine hother ⟨fun hd => hn ?_, hc.ne_return⟩ _
    rw [hc.newline hd]
    exact List.mem_cons_self

theorem multiline_read {quote : Char} {escapes : Bool} {cs text : List Char}
    (h : Body quote escapes 0 cs text) (hquote : quote ≠ '\n' ∧ quote ≠ '\r') {r : List Char}
    (hr : ∀ c ∈ r.head?, c ≠ quote) :
    multiline? quote escapes
      ((if '\n' ∈ cs then ['\n'] else []) ++ (text ++ (List.replicate 3 quote ++ r))) =
        some (String.ofList cs, r) := by
  have hstart : (lineBreak? ((if '\n' ∈ cs then ['\n'] else []) ++
      (text ++ (List.replicate 3 quote ++ r)))).getD ((if '\n' ∈ cs then ['\n'] else []) ++
        (text ++ (List.replicate 3 quote ++ r))) = text ++ (List.replicate 3 quote ++ r) := by
    by_cases hn : '\n' ∈ cs
    · simp [hn, lineBreak?]
    · have hnone : lineBreak? (text ++ (List.replicate 3 quote ++ r)) = none :=
        h.lineBreak_eq_none hquote hn (List.replicate 2 quote ++ r)
      rw [if_neg hn, List.nil_append, hnone]
      rfl
  have hlength := h.length_le
  unfold multiline?
  rw [hstart]
  refine h.read (Nat.zero_le 2) ?_ [] hr
  simp only [List.length_append, List.length_replicate]
  omega

theorem toList_quotedText (s : String) :
    (quotedText s).toList = (styleFor s.toList).write s.toList := by
  simp [quotedText]

-- A text that was written is read as it was, whatever it holds.
theorem text_quotedText (s : String) {r : List Char} (hr : ∀ c ∈ r.head?, c ≠ '"' ∧ c ≠ '\'') :
    text? ((quotedText s).toList ++ r) = some (s, r) := by
  have hbasic : ∀ c ∈ r.head?, c ≠ '"' := fun c hc => (hr c hc).1
  have hliteral : ∀ c ∈ r.head?, c ≠ '\'' := fun c hc => (hr c hc).2
  have hs : String.ofList s.toList = s := String.ofList_toList
  rw [toList_quotedText]
  rcases styleFor_cases s.toList with h | h | ⟨h, hne, hplain, hquote⟩ | ⟨h, hclean, hrun⟩
  · have hread := text_basic s.toList hbasic
    rw [hs] at hread
    simpa [h, Style.write, Style.basic, Style.delimiter] using hread
  · have hread := multiline_read (body_basicChars s.toList (Nat.zero_le 2)) (by decide) hbasic
    rw [hs] at hread
    rw [h, ← hread]
    simp [Style.write, Style.multilineBasic, Style.delimiter, text?]
  · have hread := text_literal hne hplain hquote r
    rw [hs] at hread
    simpa [h, Style.write, Style.literal, Style.delimiter] using hread
  · have hread := multiline_read (body_self hclean hrun) (by decide) hliteral
    rw [hs] at hread
    rw [h, ← hread]
    simp [Style.write, Style.multilineLiteral, Style.delimiter, text?]

end Rulebook.Toml
