import Rulebook.Bytes
import Rulebook.Proofs.Lines
import Mathlib.Data.List.Basic

namespace Rulebook.Bytes

section Text

variable {bytes : List UInt8} {s t : String}

theorem ofText_eq_flatMap (s : String) : ofText s = s.toList.flatMap String.utf8EncodeChar := by
  rw [ofText, ← String.utf8Encode_toList, List.utf8Encode, List.data_toByteArray]

theorem ofText_inj : ofText s = ofText t ↔ s = t := by
  rw [ofText, ofText, Array.toList_inj, ← ByteArray.ext_iff, String.toByteArray_inj]

theorem ofText_append (s t : String) : ofText (s ++ t) = ofText s ++ ofText t := by
  simp [ofText_eq_flatMap]

theorem ofText_eq_nil_iff : ofText s = [] ↔ s = "" := by
  rw [← ofText_inj (t := "")]
  rfl

theorem text?_eq_some_iff : text? bytes = some s ↔ bytes = ofText s := by
  rw [text?, String.fromUTF8?]
  split
  next h =>
    rw [Option.some.injEq, ← String.toByteArray_inj, ofText]
    constructor
    · intro h
      rw [← h]
      rfl
    · rintro rfl
      rfl
  next h =>
    simp only [reduceCtorEq, false_iff]
    rintro rfl
    exact h s.isValidUTF8

@[simp] theorem text?_ofText (s : String) : text? (ofText s) = some s :=
  text?_eq_some_iff.mpr rfl

end Text

section Shown

theorem charsAfter_eq_drop (read : Nat) (bytes : List UInt8) :
    charsAfter read bytes = charsAfter 0 (bytes.drop read) := by
  induction bytes generalizing read with
  | nil => cases read <;> rfl
  | cons b rest ih =>
    cases read with
    | zero => rfl
    | succ read => exact ih read

theorem char?_encoded (c : Char) (rest : List UInt8) :
    char? (String.utf8EncodeChar c ++ rest) = some c := by
  have hlength : (String.utf8EncodeChar c).length ≤ 4 := by
    rw [String.length_utf8EncodeChar]
    exact c.utf8Size_le_four
  rw [char?, List.take_append, List.take_of_length_le hlength, List.toByteArray_append]
  exact ByteArray.utf8DecodeChar?_utf8EncodeChar_append

theorem charsAfter_encoded (cs : List Char) :
    charsAfter 0 (cs.flatMap String.utf8EncodeChar) = cs := by
  induction cs with
  | nil => rfl
  | cons c cs ih =>
    have hchar := char?_encoded c (cs.flatMap String.utf8EncodeChar)
    obtain ⟨b, bs, hbs⟩ := List.exists_cons_of_ne_nil (String.utf8EncodeChar_ne_nil (c := c))
    have hsize : c.utf8Size - 1 = bs.length := by
      rw [← String.length_utf8EncodeChar, hbs, List.length_cons, Nat.add_sub_cancel]
    rw [List.flatMap_cons]
    rw [hbs, List.cons_append] at hchar ⊢
    simp only [charsAfter, hchar]
    rw [hsize, charsAfter_eq_drop, List.drop_left, ih]

-- Text is shown as it is.
@[simp] theorem shown_ofText (s : String) : shown (ofText s) = s := by
  rw [shown, ofText_eq_flatMap, charsAfter_encoded, String.ofList_toList]

-- Nothing is shown only of no bytes.
theorem shown_eq_empty_iff {bytes : List UInt8} : shown bytes = "" ↔ bytes = [] := by
  constructor
  · intro h
    have hchars : charsAfter 0 bytes = [] := by simpa [shown] using h
    cases bytes with
    | nil => rfl
    | cons b rest =>
      simp only [charsAfter] at hchars
      split at hchars <;> cases hchars
  · rintro rfl
    rfl

end Shown

section Ascii

variable {a c : Char} {s : String}

-- The byte of a character of ASCII is that of no other character, and no part of one.
theorem eq_of_mem_encoded (ha : a.toNat < 0x80) (h : a.toUInt8 ∈ String.utf8EncodeChar c) :
    c = a := by
  have hbyte {n : Nat} (hn : 0x80 ≤ n) (hn' : n < 0x100) : a.toUInt8 ≠ UInt8.ofNat n := by
    intro heq
    have heq : a.toNat % 256 = n % 256 := congrArg UInt8.toNat heq
    omega
  unfold String.utf8EncodeChar at h
  simp only at h
  split at h
  next hc =>
    have hc : c.toNat ≤ 127 := hc
    have heq : a.toNat % 256 = c.toNat % 256 :=
      (congrArg UInt8.toNat (List.mem_singleton.mp h)).trans UInt8.toNat_ofNat'
    have hval : c.toNat = a.toNat := by omega
    exact Char.ext (UInt32.toNat_inj.mp hval)
  next =>
    exfalso
    split at h
    · simp only [List.mem_cons, List.not_mem_nil, or_false] at h
      rcases h with h | h <;> exact hbyte (by omega) (by omega) h
    · split at h
      · simp only [List.mem_cons, List.not_mem_nil, or_false] at h
        rcases h with h | h | h <;> exact hbyte (by omega) (by omega) h
      · simp only [List.mem_cons, List.not_mem_nil, or_false] at h
        rcases h with h | h | h | h <;> exact hbyte (by omega) (by omega) h

theorem utf8EncodeChar_ascii (ha : a.toNat < 0x80) : String.utf8EncodeChar a = [a.toUInt8] := by
  have hv : a.val.toNat ≤ 127 := Nat.le_of_lt_succ ha
  rw [String.utf8EncodeChar]
  simp only [hv, if_true]
  rfl

theorem mem_ofText (ha : a.toNat < 0x80) : a.toUInt8 ∈ ofText s ↔ a ∈ s.toList := by
  rw [ofText_eq_flatMap, List.mem_flatMap]
  constructor
  · rintro ⟨c, hc, hmem⟩
    rwa [eq_of_mem_encoded ha hmem] at hc
  · intro h
    exact ⟨a, h, by simp [utf8EncodeChar_ascii ha]⟩

-- The bytes between such characters encode the text between them.
theorem splitOn_ofText (ha : a.toNat < 0x80) (s : String) :
    (ofText s).splitOn a.toUInt8 =
      (s.toList.splitOn a).map fun cs => ofText (String.ofList cs) := by
  have hjoin : ofText s =
      [a.toUInt8].intercalate ((s.toList.splitOn a).map fun cs => ofText (String.ofList cs)) := by
    have hsep : [a].flatMap String.utf8EncodeChar = [a.toUInt8] := by
      rw [List.flatMap_singleton, utf8EncodeChar_ascii ha]
    simp only [ofText_eq_flatMap, String.toList_ofList]
    rw [← hsep, ← flatMap_intercalate, List.intercalate_splitOn a]
  rw [hjoin]
  apply List.splitOn_intercalate
  · intro l hl
    obtain ⟨cs, hcs, rfl⟩ := List.mem_map.mp hl
    rw [mem_ofText ha, String.toList_ofList]
    exact (of_mem_splitOn hcs).1
  · simp [List.splitOn_ne_nil]

end Ascii

end Rulebook.Bytes
