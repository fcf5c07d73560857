import Rulebook.Proofs.Declaration.Spelling
import Mathlib.Algebra.Group.Nat.Defs

namespace Rulebook

-- Numbers that fit the count of bytes are told apart.
theorem Bytes.littleEndian_inj {count m n : Nat} (hm : m < 256 ^ count) (hn : n < 256 ^ count) :
    littleEndian count m = littleEndian count n ↔ m = n := by
  refine ⟨fun h => ?_, fun h => by rw [h]⟩
  induction count generalizing m n with
  | zero =>
    rw [pow_zero] at hm hn
    omega
  | succ count ih =>
    rw [pow_succ, ← Nat.div_lt_iff_lt_mul (by decide)] at hm hn
    obtain ⟨hlow, hhigh⟩ := List.cons.inj h
    have hlow := congrArg UInt8.toNat hlow
    rw [UInt8.toNat_ofNat', UInt8.toNat_ofNat'] at hlow
    have hhigh := ih hm hn hhigh
    omega

-- Different bytes of whose digests an identifier keeps the same.
def Digest.Collide (bytes bytes' : List UInt8) : Prop :=
  bytes ≠ bytes' ∧ (digest bytes).take 8 = (digest bytes').take 8

namespace Declaration

section Fields

variable {bytes bytes' rest rest' : List UInt8} {fs gs : List (List UInt8)}

-- Whatever follows a field, it ends where its length says.
theorem field_append_inj (h : bytes.length < UInt64.size) (h' : bytes'.length < UInt64.size) :
    field bytes ++ rest = field bytes' ++ rest' ↔ bytes = bytes' ∧ rest = rest' := by
  refine ⟨fun heq => ?_, fun ⟨hbytes, hrest⟩ => by rw [hbytes, hrest]⟩
  simp only [field, List.append_assoc] at heq
  obtain ⟨hmeasure, heq⟩ := List.append_inj heq (by simp [Bytes.length_littleEndian])
  have hlength := (Bytes.littleEndian_inj h h').mp hmeasure
  exact List.append_inj heq hlength

theorem field_ne_nil : field bytes ≠ [] := by
  refine List.ne_nil_of_length_pos ?_
  rw [field, List.length_append, Bytes.length_littleEndian]
  omega

-- So fields in a row are told apart, however many they are.
theorem flatMap_field_inj (hf : ∀ f ∈ fs, f.length < UInt64.size)
    (hg : ∀ g ∈ gs, g.length < UInt64.size) :
    fs.flatMap field = gs.flatMap field ↔ fs = gs := by
  refine ⟨fun h => ?_, fun h => by rw [h]⟩
  -- No field is empty, so one row cannot end before the other.
  induction fs generalizing gs with
  | nil =>
    cases gs with
    | nil => rfl
    | cons g gs => exact absurd (List.append_eq_nil_iff.mp h.symm).1 field_ne_nil
  | cons f fs ih =>
    cases gs with
    | nil => exact absurd (List.append_eq_nil_iff.mp h).1 field_ne_nil
    | cons g gs =>
      obtain ⟨hf, hfs⟩ := List.forall_mem_cons.mp hf
      obtain ⟨hg, hgs⟩ := List.forall_mem_cons.mp hg
      rw [List.flatMap_cons, List.flatMap_cons] at h
      obtain ⟨hfield, hrest⟩ := (field_append_inj hf hg).mp h
      rw [hfield, ih hfs hgs hrest]

end Fields

section Canonical

variable {d e : Declaration}

-- Each kind of source has a mark of its own, which comes first.
theorem sourceFields_inj {s t : Option DataSource} : sourceFields s = sourceFields t ↔ s = t := by
  refine ⟨fun h => ?_, congrArg sourceFields⟩
  rcases s with _ | (⟨⟨_⟩⟩ | ⟨⟨_⟩⟩ | _) <;> rcases t with _ | (⟨⟨_⟩⟩ | ⟨⟨_⟩⟩ | _) <;>
    simp_all [sourceFields, Bytes.ofText_inj]

theorem identifyingFields_inj (hd : d.predicate.arity < UInt64.size)
    (he : e.predicate.arity < UInt64.size) :
    d.identifyingFields = e.identifyingFields ↔ d = e := by
  refine ⟨fun h => ?_, congrArg identifyingFields⟩
  simp only [identifyingFields, List.cons.injEq, Bytes.ofText_inj, sourceFields_inj] at h
  obtain ⟨hname, harity, hsource⟩ := h
  have harity := (Bytes.littleEndian_inj hd he).mp harity
  rcases d with ⟨⟨name, arity⟩, source⟩
  rcases e with ⟨⟨name', arity'⟩, source'⟩
  rw [mk.injEq, Predicate.mk.injEq]
  exact ⟨⟨hname, harity⟩, hsource⟩

-- All numbers that are written down fit into eight bytes.
structure Fits (d : Declaration) : Prop where
  arity : d.predicate.arity < UInt64.size
  fields : ∀ bytes ∈ d.identifyingFields, bytes.length < UInt64.size

-- The bytes that are hashed tell everything that a declaration says: the predicate, the kind of its
-- source, and the path or the query as it is written, whether the path is text or not. So two
-- declarations share an identifier only where what is kept of their digests collides.
theorem canonicalBytes_eq_iff (hd : d.Fits) (he : e.Fits) :
    (d.canonicalBytes = e.canonicalBytes ↔ d = e) ∧
      (d.identifier = e.identifier ↔
        d = e ∨ Digest.Collide d.canonicalBytes e.canonicalBytes) := by
  have hbytes : d.canonicalBytes = e.canonicalBytes ↔ d = e :=
    (flatMap_field_inj hd.fields he.fields).trans (identifyingFields_inj hd.arity he.arity)
  have hidentifier : d.identifier = e.identifier ↔
      (Digest.digest d.canonicalBytes).take 8 = (Digest.digest e.canonicalBytes).take 8 := by
    rw [identifier, identifier, String.ofList_inj, Bytes.hex_inj]
  refine ⟨hbytes, ?_⟩
  rw [hidentifier, Digest.Collide, ne_eq, hbytes]
  by_cases h : d = e
  · simp [h]
  · simp [h]

end Canonical

-- Two queries that are shown alike, and two files that are, since their names are not text.

def quoteInQuery : Declaration :=
  ⟨⟨"p", 2⟩, some (.sparqlQuery "e" "a" "b\", \"c")⟩

def quoteInSelection : Declaration :=
  ⟨⟨"p", 2⟩, some (.sparqlQuery "e" "a\", \"b" "c")⟩

def namedByByte (b : UInt8) : Declaration :=
  ⟨⟨"p", 1⟩, some (.csvFile ⟨Bytes.ofText "/data/" ++ b :: Bytes.ofText ".csv"⟩)⟩

theorem canonicalBytes_lookalikes :
    quoteInQuery.text = quoteInSelection.text ∧
      quoteInQuery.canonicalBytes ≠ quoteInSelection.canonicalBytes ∧
      (namedByByte 0xff).text = (namedByByte 0xfe).text ∧
      (namedByByte 0xff).canonicalBytes ≠ (namedByByte 0xfe).canonicalBytes := by
  have hquery := (canonicalBytes_eq_iff (d := quoteInQuery) (e := quoteInSelection)
    ⟨by decide, by decide +kernel⟩ ⟨by decide, by decide +kernel⟩).1
  have hfile := (canonicalBytes_eq_iff (d := namedByByte 0xff) (e := namedByByte 0xfe)
    ⟨by decide, by decide +kernel⟩ ⟨by decide, by decide +kernel⟩).1
  exact ⟨by decide +kernel, hquery.not.mpr (by decide), by decide +kernel,
    hfile.not.mpr (by decide +kernel)⟩

end Declaration

end Rulebook
