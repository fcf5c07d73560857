import Mathlib.Data.List.TakeDrop
import Rulebook.Json.Printer
import Rulebook.Json.Reader
import Rulebook.Json.Record
import Rulebook.Proofs.Lines

namespace Rulebook.Json

-- A string that was printed is read as it was.

theorem hexUnit_controlDigits :
    ∀ n < 0x20, hexUnit? '0' '0' (Nat.digitChar (n / 16)) (Nat.digitChar (n % 16)) = some n := by
  decide

theorem escape_control {c : Char} (hc : c.toNat < 0x20) (r : List Char) :
    escape? (['u'] ++ controlDigits c.toNat ++ r) = some (some c, r) := by
  have hhex := hexUnit_controlDigits c.toNat hc
  have hhigh : isHighHalf c.toNat = false := by
    simp [isHighHalf]
    omega
  have hlow : isLowHalf c.toNat = false := by
    simp [isLowHalf]
    omega
  simp [controlDigits, escape?, hhex, hhigh, hlow]

theorem escapedChar_cases (c : Char) :
    (∃ e, escapedChar c = '\\' :: e ∧ ∀ r, escape? (e ++ r) = some (some c, r)) ∨
      escapedChar c = [c] ∧ c ≠ '"' ∧ c ≠ '\\' ∧ ¬c.toNat < 0x20 := by
  unfold escapedChar
  split
  next h => exact .inl ⟨_, rfl, fun r => by simp [escape?, h]⟩
  next hquote =>
    split
    next h => exact .inl ⟨_, rfl, fun r => by simp [escape?, h]⟩
    next hbackslash =>
      repeat' split
      -- The five controls with a letter of their own come first.
      iterate 5
        next h => exact .inl ⟨_, rfl, fun r => by simp [escape?, h]⟩
      next h => exact .inl ⟨_, rfl, escape_control h⟩
      next h => exact .inr ⟨rfl, hquote, hbackslash, h⟩

-- However a character is escaped, it takes one step to read it.
theorem stringBody_escapedChar (c : Char) (fuel : Nat) (taken r : List Char) :
    stringBody? (fuel + 1) (some taken) (escapedChar c ++ r) =
      stringBody? fuel (some (c :: taken)) r := by
  rcases escapedChar_cases c with ⟨e, he, hread⟩ | ⟨he, hquote, hbackslash, hcontrol⟩
  · rw [he]
    simp [stringBody?, hread]
  · rw [he]
    simp [stringBody?, hquote, hbackslash, hcontrol]

theorem stringBody_flatMap_escapedChar (cs : List Char) {fuel : Nat} (taken r : List Char)
    (h : cs.length < fuel) :
    stringBody? fuel (some taken) (cs.flatMap escapedChar ++ '"' :: r) =
      some (some (String.ofList (taken.reverse ++ cs)), r) := by
  induction cs generalizing fuel taken with
  | nil =>
    obtain ⟨fuel, rfl⟩ := Nat.exists_eq_add_one.mpr h
    simp [stringBody?]
  | cons c cs ih =>
    obtain ⟨fuel, rfl⟩ := Nat.exists_eq_add_one.mpr (Nat.zero_lt_of_lt h)
    rw [List.flatMap_cons, List.append_assoc, stringBody_escapedChar,
      ih (c :: taken) (Nat.lt_of_succ_lt_succ h)]
    simp

theorem escapedChar_ne_nil (c : Char) : escapedChar c ≠ [] := by
  rcases escapedChar_cases c with ⟨e, he, -⟩ | ⟨he, -⟩ <;> simp [he]

-- The text between the quotes, and the closing quote.
def quotedRest (s : String) : List Char :=
  s.toList.flatMap escapedChar ++ ['"']

theorem toList_stringText (s : String) : (stringText s).toList = '"' :: quotedRest s := by
  simp [stringText, quotedRest]

theorem stringBody_quotedRest (s : String) {fuel : Nat} (r : List Char)
    (h : (quotedRest s).length ≤ fuel) :
    stringBody? fuel (some []) (quotedRest s ++ r) = some (some s, r) := by
  have hlength := length_le_flatMap escapedChar_ne_nil s.toList
  have hfuel : s.toList.length < fuel := by
    simp only [quotedRest, List.length_append, List.length_singleton] at h
    omega
  have hread := stringBody_flatMap_escapedChar s.toList [] r hfuel
  simpa [quotedRest] using hread

-- A count that was printed is read as it was, if what follows is not taken for a part of it.

-- A text that does not go on with a number.
def EndsNumber (r : List Char) : Prop :=
  ∀ c ∈ r.head?, c.isDigit = false ∧ c ≠ '.' ∧ c ≠ 'e' ∧ c ≠ 'E'

theorem digits_append {ds r : List Char} (hds : ∀ c ∈ ds, c.isDigit = true) (hne : ds ≠ [])
    (hr : EndsNumber r) : digits? (ds ++ r) = some (ds, r) := by
  have hspan : (ds ++ r).span Char.isDigit = (ds, r) := by
    have hend : ∀ c ∈ r.head?, c.isDigit = false := fun c hc => (hr c hc).1
    rw [List.span_eq_takeWhile_dropWhile, takeWhile_front hds hend, dropWhile_front hds hend]
  unfold digits?
  rw [hspan]
  cases ds with
  | nil => exact absurd rfl hne
  | cons d ds => rfl

theorem exists_toDigits_cons (n : Nat) :
    ∃ d ds, Nat.toDigits 10 n = d :: ds ∧ d.isDigit = true := by
  obtain ⟨d, ds, hds⟩ := List.exists_cons_of_ne_nil (Nat.toDigits_ne_nil (n := n) (b := 10))
  have hd : d ∈ Nat.toDigits 10 n := by simp [hds]
  exact ⟨d, ds, hds, Nat.isDigit_of_mem_toDigits (by decide) (by decide) hd⟩

-- No digits start with a zero but the zero itself.
theorem head_toDigits {n : Nat} (h : 0 < n) : (Nat.toDigits 10 n).head? ≠ some '0' := by
  induction n using Nat.strongRecOn with
  | ind n ih =>
    by_cases hn : n < 10
    · rw [Nat.toDigits_of_lt_base hn]
      simpa using Nat.ne_of_gt h
    · have hhead := ih (n / 10) (by omega) (by omega)
      obtain ⟨d, ds, hds, -⟩ := exists_toDigits_cons (n / 10)
      rw [Nat.toDigits_of_base_le (by decide) (by omega)]
      rw [hds] at hhead ⊢
      exact hhead

theorem whole_toDigits (n : Nat) {r : List Char} (hr : EndsNumber r) :
    whole? (Nat.toDigits 10 n ++ r) = some (Nat.toDigits 10 n, r) := by
  have hdigits := digits_append (fun c hc => Nat.isDigit_of_mem_toDigits (by decide) (by decide) hc)
    (Nat.toDigits_ne_nil (n := n) (b := 10)) hr
  unfold whole?
  rw [hdigits]
  split
  next hzero =>
    have hdigits := (Prod.mk.inj (Option.some.inj hzero)).1
    rcases Nat.eq_zero_or_pos n with rfl | hn
    · simp [Nat.toDigits_zero] at hdigits
    · exact absurd (by rw [hdigits]; rfl) (head_toDigits hn)
  next => rfl

theorem fraction_of_endsNumber {r : List Char} (hr : EndsNumber r) :
    fraction? r = some ([], r) := by
  unfold fraction?
  split
  next => exact absurd rfl (hr _ rfl).2.1
  next => rfl

theorem exponent_of_endsNumber {r : List Char} (hr : EndsNumber r) :
    exponent? r = some ([], r) := by
  unfold exponent?
  split
  next c r =>
    obtain ⟨-, -, he, hE⟩ := hr c rfl
    simp [he, hE]
  next => rfl

theorem number_toDigits (n : Nat) {r : List Char} (hr : EndsNumber r) :
    number? (Nat.toDigits 10 n ++ r) = some (toString n, r) := by
  have hsign : sign (Nat.toDigits 10 n ++ r) ['-'] = ([], Nat.toDigits 10 n ++ r) := by
    obtain ⟨d, ds, hds, hd⟩ := exists_toDigits_cons n
    have hminus : d ≠ '-' := by
      rintro rfl
      cases hd
    simp [sign, hds, hminus]
  unfold number?
  simp [hsign, whole_toDigits n hr, fraction_of_endsNumber hr, exponent_of_endsNumber hr,
    Nat.repr_eq_ofList_toDigits]

end Rulebook.Json
