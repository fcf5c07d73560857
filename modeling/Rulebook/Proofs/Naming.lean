import Rulebook.Alias
import Mathlib.Data.List.Basic

namespace Rulebook

theorem toString_inj {m n : Nat} (h : toString m = toString n) : m = n := by
  have hd := congrArg String.toList h
  simp only [Nat.toString_eq_ofList_toDigits, String.toList_ofList] at hd
  rw [← Nat.ofDigitChars_ten_toDigits (n := m), hd, Nat.ofDigitChars_ten_toDigits]

theorem isDigit_of_mem_toString {n : Nat} {c : Char} (h : c ∈ (toString n).toList) :
    c.isDigit = true := by
  rw [Nat.toString_eq_ofList_toDigits, String.toList_ofList] at h
  exact Nat.isDigit_of_mem_toDigits (by decide) (by decide) h

-- The arity is what follows the last hyphen, for there is none in a number.
private theorem takeWhile_engineName (p : Predicate) :
    p.engineName.toList.reverse.takeWhile (· ≠ '-') = (toString p.arity).toList.reverse := by
  simp only [Predicate.engineName, String.toList_append, List.reverse_append]
  rw [List.takeWhile_append_of_pos]
  · simp
  · intro c hc
    have hdigit := isDigit_of_mem_toString (List.mem_reverse.mp hc)
    simpa using ne_of_apply_ne Char.isDigit (hdigit.trans_ne (by decide))

theorem Predicate.engineName_inj {p q : Predicate} (h : p.engineName = q.engineName) : p = q := by
  have harity : toString p.arity = toString q.arity := by
    have hd := takeWhile_engineName p
    rw [h, takeWhile_engineName, List.reverse_inj, String.toList_inj] at hd
    exact hd.symm
  have hname : p.name = q.name := by
    unfold engineName at h
    rwa [harity, String.append_left_inj, String.append_left_inj] at h
  cases p
  cases q
  simp only [mk.injEq]
  exact ⟨hname, toString_inj harity⟩

namespace Declaration

-- The mark of inline facts ends in a letter that is no hexadecimal digit.
theorem getLast?_aliasMark {d : Declaration} :
    d.aliasMark.toList.getLast? = some 'T' ↔ d.isLocalFacts = true := by
  unfold aliasMark
  cases h : d.isLocalFacts with
  | true => simp
  | false =>
    have hlength := d.length_identifier
    simp only [Bool.false_eq_true, if_false, iff_false, String.toList_append,
      List.getLast?_append]
    unfold identifier at hlength ⊢
    rw [String.length_ofList] at hlength
    rw [String.toList_ofList]
    cases hlast : (Bytes.hex ((Digest.digest d.canonicalBytes).take 8)).getLast? with
    | none => simp [List.getLast?_eq_none_iff.mp hlast] at hlength
    | some c =>
      have hc := Bytes.mem_digits_of_mem_hex (List.mem_of_getLast? hlast)
      simpa using ne_of_mem_of_not_mem hc (by decide)

theorem length_aliasMark {d : Declaration} :
    d.aliasMark.toList.length = if d.isLocalFacts then 6 else 18 := by
  unfold aliasMark
  split
  · rfl
  · have hlength := d.length_identifier
    rw [← String.length_toList] at hlength
    simp [hlength]

theorem toList_aliasMark_ne_nil (d : Declaration) : d.aliasMark.toList ≠ [] := by
  rw [← List.length_pos_iff, length_aliasMark]
  split <;> decide

variable {d e : Declaration}

private theorem isLocalFacts_eq_of_getLast?
    (h : d.aliasMark.toList.getLast? = e.aliasMark.toList.getLast?) :
    d.isLocalFacts = e.isLocalFacts := by
  rw [Bool.eq_iff_iff, ← getLast?_aliasMark, ← getLast?_aliasMark, h]

-- Where a name ends and its mark begins can be told from the end, whatever the name is: the last
-- letter tells the kind of the mark, and that its length.
theorem append_aliasMark_inj {m n : String} :
    m ++ d.aliasMark = n ++ e.aliasMark ↔ m = n ∧ d.aliasMark = e.aliasMark := by
  refine ⟨fun h => ?_, fun ⟨hname, hmark⟩ => by rw [hname, hmark]⟩
  have hl := congrArg String.toList h
  simp only [String.toList_append] at hl
  have hlast := congrArg List.getLast? hl
  rw [List.getLast?_append_of_ne_nil _ d.toList_aliasMark_ne_nil,
    List.getLast?_append_of_ne_nil _ e.toList_aliasMark_ne_nil] at hlast
  have hlength : d.aliasMark.toList.length = e.aliasMark.toList.length := by
    rw [length_aliasMark, length_aliasMark, isLocalFacts_eq_of_getLast? hlast]
  obtain ⟨hname, hmark⟩ := List.append_inj' hl hlength
  exact ⟨String.toList_inj.mp hname, String.toList_inj.mp hmark⟩

theorem alias_eq_iff :
    d.alias = e.alias ↔ d.predicate = e.predicate ∧ d.aliasMark = e.aliasMark := by
  rcases hd : d.predicate with ⟨n, a⟩
  rcases he : e.predicate with ⟨m, b⟩
  simp only [Declaration.alias, hd, he, Predicate.mk.injEq, append_aliasMark_inj]
  exact and_right_comm

-- No two predicates share a stand-in, whatever their names are.
theorem predicate_eq_of_alias (h : d.alias = e.alias) : d.predicate = e.predicate :=
  (alias_eq_iff.mp h).1

-- The mark of a source is its identifier, which is never the mark of inline facts.
theorem aliasMark_eq_iff :
    d.aliasMark = e.aliasMark ↔
      d.isLocalFacts = true ∧ e.isLocalFacts = true ∨
        d.isLocalFacts = false ∧ e.isLocalFacts = false ∧ d.identifier = e.identifier := by
  have hfacts (h : d.aliasMark = e.aliasMark) : d.isLocalFacts = e.isLocalFacts :=
    isLocalFacts_eq_of_getLast? (by rw [h])
  cases hd : d.isLocalFacts with
  | true =>
    cases he : e.isLocalFacts with
    | true => simp [aliasMark, hd, he]
    | false => simpa [hd, he] using hfacts
  | false =>
    cases he : e.isLocalFacts with
    | true => simpa [hd, he] using hfacts
    | false => simp [aliasMark, hd, he, String.append_right_inj]

-- An engine never takes two predicates for one. So it knows two stand-ins by one name only if they
-- are for one predicate, and both for its inline facts or for sources with one identifier.
theorem engineName_alias_eq_iff (d e : Declaration) (p q : Predicate) :
    (d.alias.engineName = e.alias.engineName ↔
      d.predicate = e.predicate ∧
        (d.isLocalFacts = true ∧ e.isLocalFacts = true ∨
          d.isLocalFacts = false ∧ e.isLocalFacts = false ∧ d.identifier = e.identifier)) ∧
      (p.engineName = q.engineName ↔ p = q) := by
  have hname (p q : Predicate) : p.engineName = q.engineName ↔ p = q :=
    ⟨Predicate.engineName_inj, congrArg Predicate.engineName⟩
  refine ⟨?_, hname p q⟩
  rw [hname, alias_eq_iff, aliasMark_eq_iff]

end Declaration

end Rulebook
