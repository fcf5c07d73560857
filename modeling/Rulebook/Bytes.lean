namespace Rulebook.Bytes

-- A number as a count of bytes, the lowest first.
def littleEndian : (count n : Nat) → List UInt8
  | 0, _ => []
  | count + 1, n => UInt8.ofNat n :: littleEndian count (n / 256)

def ofText (s : String) : List UInt8 :=
  s.toByteArray.data.toList

-- The text that bytes are, unless they are none.
def text? (bytes : List UInt8) : Option String :=
  String.fromUTF8? (ByteArray.mk bytes.toArray)

-- The character that bytes start with, unless they do not start with one.
def char? (bytes : List UInt8) : Option Char :=
  ByteArray.utf8DecodeChar? (bytes.take 4).toByteArray 0

-- Two bytes that a character of three or four bytes may start with.
def mayBegin (first second : UInt8) : Bool :=
  (first = 0xe0 && 0xa0 ≤ second && second ≤ 0xbf) ||
  (0xe1 ≤ first && first ≤ 0xef && first ≠ 0xed && 0x80 ≤ second && second ≤ 0xbf) ||
  (first = 0xed && 0x80 ≤ second && second ≤ 0x9f) ||
  (first = 0xf0 && 0x90 ≤ second && second ≤ 0xbf) ||
  (0xf1 ≤ first && first ≤ 0xf3 && 0x80 ≤ second && second ≤ 0xbf) ||
  (first = 0xf4 && 0x80 ≤ second && second ≤ 0x8f)

-- How many bytes are passed over together where no character starts: one, or as many as could be
-- the start of a character that does not go on.
def strayLength : List UInt8 → Nat
  | first :: second :: rest =>
    if mayBegin first second then
      if 0xf0 ≤ first && rest.head?.any fun third => 0x80 ≤ third && third ≤ 0xbf then 3 else 2
    else 1
  | _ => 1

-- The characters that are left when some bytes at the front have been read.
def charsAfter : (read : Nat) → List UInt8 → List Char
  | _, [] => []
  | read + 1, _ :: rest => charsAfter read rest
  | 0, b :: rest =>
    match char? (b :: rest) with
    | some c => c :: charsAfter (c.utf8Size - 1) rest
    | none => '\uFFFD' :: charsAfter (strayLength (b :: rest) - 1) rest

-- Bytes as they are shown. What is not text shows as replacement characters.
def shown (bytes : List UInt8) : String :=
  String.ofList (charsAfter 0 bytes)

-- Two lower-case hexadecimal digits for each byte.
def hex (bytes : List UInt8) : List Char :=
  bytes.flatMap fun b => [Nat.digitChar (b.toNat / 16), Nat.digitChar (b.toNat % 16)]

theorem length_littleEndian {count n : Nat} : (littleEndian count n).length = count := by
  induction count generalizing n with
  | zero => rfl
  | succ count ih => simp [littleEndian, ih]

theorem length_hex {bytes : List UInt8} : (hex bytes).length = 2 * bytes.length := by
  induction bytes with
  | nil => rfl
  | cons b bytes ih =>
    simp only [hex, List.flatMap_cons, List.length_append, List.length_cons] at *
    simp only [ih, List.length_nil]
    omega

theorem mem_digits_of_mem_hex {bytes : List UInt8} {c : Char} (h : c ∈ hex bytes) :
    c ∈ "0123456789abcdef".toList := by
  have hdigit : ∀ n < 16, Nat.digitChar n ∈ "0123456789abcdef".toList := by decide
  rw [hex, List.mem_flatMap] at h
  obtain ⟨b, -, hc⟩ := h
  have hb := b.toNat_lt
  simp only [List.mem_cons, List.not_mem_nil, or_false] at hc
  rcases hc with rfl | rfl
  · exact hdigit _ (by omega)
  · exact hdigit _ (by omega)

theorem hex_inj {bytes bytes' : List UInt8} : hex bytes = hex bytes' ↔ bytes = bytes' := by
  have hdigit : ∀ m < 16, ∀ n < 16, Nat.digitChar m = Nat.digitChar n → m = n := by decide
  refine ⟨fun h => ?_, congrArg hex⟩
  induction bytes generalizing bytes' with
  | nil =>
    cases bytes' with
    | nil => rfl
    | cons _ _ => cases h
  | cons b bytes ih =>
    cases bytes' with
    | nil => cases h
    | cons b' bytes' =>
      obtain ⟨hhigh, hrest⟩ := List.cons.inj h
      obtain ⟨hlow, hrest⟩ := List.cons.inj hrest
      have hb := b.toNat_lt
      have hb' := b'.toNat_lt
      have hhigh := hdigit _ (by omega) _ (by omega) hhigh
      have hlow := hdigit _ (by omega) _ (by omega) hlow
      rw [ih hrest, UInt8.toNat_inj.mp (show b.toNat = b'.toNat by omega)]

end Rulebook.Bytes
