import Mathlib.Data.List.DropRight
import Rulebook.Json.Text
import Rulebook.Proofs.Json.Layout

namespace Rulebook.Json

mutual

-- The value can be printed: every number in it is a count, and nothing in it is broken.
def Printable : Json → Prop
  | .number literal => ∃ n : Nat, literal = toString n
  | .array items => PrintableItems items
  | .object members => PrintableMembers members
  | .noText | .misnamed _ | .broken => False
  | .null | .bool _ | .string _ => True

def PrintableItems : List Json → Prop
  | [] => True
  | v :: items => Printable v ∧ PrintableItems items

def PrintableMembers : List (String × Json) → Prop
  | [] => True
  | (_, v) :: members => Printable v ∧ PrintableMembers members

end

theorem printableItems_iff {items : List Json} :
    PrintableItems items ↔ ∀ v ∈ items, Printable v := by
  induction items with
  | nil => simp [PrintableItems]
  | cons v items ih => simp [PrintableItems, ih]

theorem printable_array_map {α : Type} {toJson : α → Json} {l : List α}
    (h : ∀ a ∈ l, Printable (toJson a)) : Printable (.array (l.map toJson)) := by
  simpa [Printable, printableItems_iff] using h

-- Blanks in front of a text make no difference to readers.

theorem skip_append {blanks : List Char} (hb : ∀ c ∈ blanks, isSpace c = true) (r : List Char) :
    skip (blanks ++ r) = skip r :=
  List.dropWhile_append_of_pos hb

theorem skip_cons {c : Char} (hc : isSpace c = false) (r : List Char) : skip (c :: r) = c :: r := by
  simp [skip, hc]

@[simp] theorem skip_skip (r : List Char) : skip (skip r) = skip r :=
  List.dropWhile_idempotent isSpace r

theorem value_skip (fuel : Nat) (r : List Char) : value fuel (skip r) = value fuel r := by
  cases fuel with
  | zero => rfl
  | succ fuel =>
    unfold value
    rw [skip_skip]

theorem items_skip (fuel : Nat) (taken : List Json) (r : List Char) :
    items fuel taken (skip r) = items fuel taken r := by
  cases fuel with
  | zero => rfl
  | succ fuel =>
    unfold items
    rw [value_skip]

theorem members_skip (fuel : Nat) (taken : List (String × Json)) (r : List Char) :
    members fuel taken (skip r) = members fuel taken r := by
  cases fuel with
  | zero => rfl
  | succ fuel =>
    unfold members
    rw [skip_skip]

theorem value_append {blanks : List Char} (hb : ∀ c ∈ blanks, isSpace c = true) (fuel : Nat)
    (r : List Char) : value fuel (blanks ++ r) = value fuel r := by
  rw [← value_skip, skip_append hb, value_skip]

theorem items_append {blanks : List Char} (hb : ∀ c ∈ blanks, isSpace c = true) (fuel : Nat)
    (taken : List Json) (r : List Char) : items fuel taken (blanks ++ r) = items fuel taken r := by
  rw [← items_skip, skip_append hb, items_skip]

theorem members_append {blanks : List Char} (hb : ∀ c ∈ blanks, isSpace c = true) (fuel : Nat)
    (taken : List (String × Json)) (r : List Char) :
    members fuel taken (blanks ++ r) = members fuel taken r := by
  rw [← members_skip, skip_append hb, members_skip]

-- What each kind of value is read from.

theorem value_string (s : String) {fuel : Nat} (r : List Char)
    (h : (stringText s).toList.length ≤ fuel) :
    value fuel ((stringText s).toList ++ r) = (.string s, some r) := by
  rw [toList_stringText] at h ⊢
  obtain ⟨fuel, rfl⟩ := Nat.exists_eq_add_one.mpr (by simp at h; omega : 0 < fuel)
  have hread := stringBody_quotedRest s r (by simp at h; omega : (quotedRest s).length ≤ fuel)
  rw [List.cons_append]
  unfold value
  rw [skip_cons (by decide)]
  simp [hread]

theorem value_scalar {c : Char} (hc : isSpace c = false) (hquote : c ≠ '"') (harray : c ≠ '[')
    (hobject : c ≠ '\x7b') (fuel : Nat) (r : List Char) :
    value (fuel + 1) (c :: r) = scalar (c :: r) := by
  unfold value
  rw [skip_cons hc]
  simp [hquote, harray, hobject]

theorem ne_of_isDigit {d c : Char} (hd : d.isDigit = true) (hc : c.isDigit = false) : d ≠ c := by
  rintro rfl
  simp [hd] at hc

theorem isSpace_of_isDigit {d : Char} (hd : d.isDigit = true) : isSpace d = false := by
  have hne {c : Char} (hc : c.isDigit = false) : d ≠ c := ne_of_isDigit hd hc
  simp [isSpace, hne (c := ' ') rfl, hne (c := '\t') rfl, hne (c := '\n') rfl,
    hne (c := '\r') rfl]

theorem value_number (n fuel : Nat) {r : List Char} (hr : EndsNumber r) :
    value (fuel + 1) ((toString n).toList ++ r) = (.number (toString n), some r) := by
  have hnumber := number_toDigits n hr
  obtain ⟨d, ds, hds, hd⟩ := exists_toDigits_cons n
  have htext : (toString n).toList = d :: ds := by simp [hds]
  have hne {c : Char} (hc : c.isDigit = false) : d ≠ c := ne_of_isDigit hd hc
  have hword {c : Char} {cs : List Char} (hc : c.isDigit = false) :
      word? (c :: cs) (d :: (ds ++ r)) = none := by
    simp [word?, List.isPrefixOf, (hne hc).symm]
  rw [htext, List.cons_append, value_scalar (isSpace_of_isDigit hd) (hne rfl) (hne rfl) (hne rfl)]
  rw [hds, List.cons_append] at hnumber
  unfold scalar
  simp [hword, hnumber]

theorem value_array {r : List Char} (h : ∀ t, skip r ≠ ']' :: t) (fuel : Nat) :
    value (fuel + 1) ('[' :: r) = (.array (items fuel [] r).1, (items fuel [] r).2) := by
  conv_lhs => unfold value
  rw [skip_cons (by decide)]
  simp only
  rw [items_skip]

theorem value_object {r : List Char} (h : ∀ t, skip r ≠ '\x7d' :: t) (fuel : Nat) :
    value (fuel + 1) ('\x7b' :: r) = (.object (members fuel [] r).1, (members fuel [] r).2) := by
  conv_lhs => unfold value
  rw [skip_cons (by decide)]
  simp only
  rw [members_skip]

-- A bracket that closes a list of parts.
structure Closing (closing : Char) : Prop where
  visible : isSpace closing = false
  noDigit : EndsNumber [closing]

variable {l : Layout} {depth : Nat} {closing : Char}

theorem skip_tail_nil (hc : Closing closing) (r : List Char) :
    skip (l.tail depth closing [] ++ r) = closing :: r := by
  rw [Layout.tail, List.append_assoc, skip_append (l.gap_blank depth)]
  exact skip_cons hc.visible r

theorem skip_tail_cons (part : List Char) (parts : List (List Char)) (r : List Char) :
    skip (l.tail depth closing (part :: parts) ++ r) =
      ',' :: (l.gap (depth + 1) ++ (part ++ l.tail depth closing parts ++ r)) := by
  simp only [Layout.tail, List.cons_append, List.append_assoc]
  exact skip_cons rfl _

theorem endsNumber_of_isSpace {c : Char} (hc : isSpace c = true) (r : List Char) :
    EndsNumber (c :: r) := by
  simp only [isSpace, Bool.or_eq_true, decide_eq_true_eq] at hc
  rintro d ⟨⟩
  rcases hc with ((rfl | rfl) | rfl) | rfl <;> decide

theorem endsNumber_tail (l : Layout) (depth : Nat) (hc : Closing closing)
    (parts : List (List Char)) (r : List Char) :
    EndsNumber (l.tail depth closing parts ++ r) := by
  cases parts with
  | nil =>
    have hgap := l.gap_blank depth
    unfold Layout.tail
    cases hblanks : l.gap depth with
    | nil =>
      rintro c ⟨⟩
      exact hc.noDigit _ rfl
    | cons c blanks => exact endsNumber_of_isSpace (hgap c (by simp [hblanks])) _
  | cons part parts =>
    rintro c ⟨⟩
    decide

-- The value is read from its text, whatever stands after it.
def Reads (l : Layout) (depth : Nat) (j : Json) : Prop :=
  ∀ fuel r, EndsNumber r → 2 * (laid l depth j).length ≤ fuel →
    value fuel (laid l depth j ++ r) = (j, some r)

theorem closing_array : Closing ']' :=
  ⟨rfl, by rintro c ⟨⟩; decide⟩

theorem closing_object : Closing '\x7d' :=
  ⟨rfl, by rintro c ⟨⟩; decide⟩

-- One item is read, and then the next one or the closing bracket.
theorem items_step {v : Json} (hv : Reads l (depth + 1) v) {fuel : Nat} (taken : List Json)
    (parts : List (List Char)) (r : List Char)
    (hfuel : 2 * (laid l (depth + 1) v).length ≤ fuel) :
    items (fuel + 1) taken (laid l (depth + 1) v ++ (l.tail depth ']' parts ++ r)) =
      match parts with
      | [] => ((v :: taken).reverse, some r)
      | part :: parts => items fuel (v :: taken) (part ++ (l.tail depth ']' parts ++ r)) := by
  have hread := hv fuel _ (endsNumber_tail l depth closing_array parts r) hfuel
  conv_lhs => unfold items
  rw [hread]
  cases parts with
  | nil => simp [skip_tail_nil closing_array]
  | cons part parts => simp [skip_tail_cons, items_append (l.gap_blank (depth + 1))]

theorem items_laid {v : Json} {vs : List Json} (hreads : ∀ w ∈ v :: vs, Reads l (depth + 1) w)
    {fuel : Nat} (taken : List Json) (r : List Char)
    (hfuel : 2 * (laid l (depth + 1) v ++
      l.tail depth ']' (laidItems l (depth + 1) vs)).length < fuel) :
    items fuel taken
        (laid l (depth + 1) v ++ (l.tail depth ']' (laidItems l (depth + 1) vs) ++ r)) =
      (taken.reverse ++ v :: vs, some r) := by
  obtain ⟨fuel, rfl⟩ := Nat.exists_eq_add_one.mpr (Nat.zero_lt_of_lt hfuel)
  rw [List.length_append] at hfuel
  induction vs generalizing v fuel taken with
  | nil =>
    rw [items_step (hreads v (by simp)) taken _ r (by omega)]
    simp [laidItems]
  | cons w vs ih =>
    rw [items_step (hreads v (by simp)) taken _ r (by omega)]
    simp only [laidItems, Layout.tail, List.length_append, List.length_cons] at hfuel ⊢
    obtain ⟨fuel, rfl⟩ := Nat.exists_eq_add_one.mpr (by omega : 0 < fuel)
    rw [ih (fun u hu => hreads u (List.mem_cons_of_mem v hu)) (v :: taken) fuel (by omega)]
    simp

-- The text of a member.
def laidMember (l : Layout) (depth : Nat) (k : String) (v : Json) : List Char :=
  (stringText k).toList ++ ':' :: l.space ++ laid l depth v

-- One member is read, and then the next one or the closing bracket.
theorem members_step {v : Json} (hv : Reads l (depth + 1) v) (k : String) {fuel : Nat}
    (taken : List (String × Json)) (parts : List (List Char)) (r : List Char)
    (hfuel : 2 * (laidMember l (depth + 1) k v).length ≤ fuel) :
    members (fuel + 1) taken (laidMember l (depth + 1) k v ++ (l.tail depth '\x7d' parts ++ r)) =
      match parts with
      | [] => (((k, v) :: taken).reverse, some r)
      | part :: parts =>
        members fuel ((k, v) :: taken) (part ++ (l.tail depth '\x7d' parts ++ r)) := by
  have hlength : (laidMember l (depth + 1) k v).length =
      1 + (quotedRest k).length + 1 + l.space.length + (laid l (depth + 1) v).length := by
    simp [laidMember, toList_stringText]
    omega
  have hread := hv fuel _ (endsNumber_tail l depth closing_object parts r) (by omega)
  have hkey := stringBody_quotedRest k
    (':' :: (l.space ++ (laid l (depth + 1) v ++ (l.tail depth '\x7d' parts ++ r))))
    (by omega : (quotedRest k).length ≤ fuel)
  have htext : laidMember l (depth + 1) k v ++ (l.tail depth '\x7d' parts ++ r) =
      '"' :: (quotedRest k ++ ':' :: (l.space ++ (laid l (depth + 1) v ++
        (l.tail depth '\x7d' parts ++ r)))) := by
    simp [laidMember, toList_stringText]
  rw [htext]
  conv_lhs => unfold members
  rw [skip_cons rfl]
  simp only [hkey]
  rw [skip_cons rfl]
  simp only [value_append l.space_blank, hread, member]
  cases parts with
  | nil => simp [skip_tail_nil closing_object]
  | cons part parts => simp [skip_tail_cons, members_append (l.gap_blank (depth + 1))]

theorem members_laid {k : String} {v : Json} {ms : List (String × Json)}
    (hreads : ∀ m ∈ (k, v) :: ms, Reads l (depth + 1) m.2) {fuel : Nat}
    (taken : List (String × Json)) (r : List Char)
    (hfuel : 2 * (laidMember l (depth + 1) k v ++
      l.tail depth '\x7d' (laidMembers l (depth + 1) ms)).length < fuel) :
    members fuel taken (laidMember l (depth + 1) k v ++
        (l.tail depth '\x7d' (laidMembers l (depth + 1) ms) ++ r)) =
      (taken.reverse ++ (k, v) :: ms, some r) := by
  obtain ⟨fuel, rfl⟩ := Nat.exists_eq_add_one.mpr (Nat.zero_lt_of_lt hfuel)
  rw [List.length_append] at hfuel
  induction ms generalizing k v fuel taken with
  | nil =>
    rw [members_step (v := v) (hreads (k, v) (by simp)) k taken _ r (by omega)]
    simp [laidMembers]
  | cons m ms ih =>
    obtain ⟨k', w⟩ := m
    rw [members_step (v := v) (hreads (k, v) (by simp)) k taken _ r (by omega)]
    change 2 * (_ + (l.tail depth '\x7d'
      (laidMember l (depth + 1) k' w :: laidMembers l (depth + 1) ms)).length) < _ at hfuel
    simp only [Layout.tail, List.length_append, List.length_cons] at hfuel
    obtain ⟨fuel, rfl⟩ := Nat.exists_eq_add_one.mpr (by omega : 0 < fuel)
    have hrest := ih (fun u hu => hreads u (List.mem_cons_of_mem (k, v) hu)) ((k, v) :: taken)
      fuel (by omega)
    simpa [laidMembers, laidMember] using hrest

-- No value starts with a blank or a closing bracket.
theorem exists_laid_cons (l : Layout) (depth : Nat) : ∀ {j : Json}, Printable j →
    ∃ c t, laid l depth j = c :: t ∧ isSpace c = false ∧ c ≠ ']'
  | .null, _ => ⟨_, _, rfl, by decide, by decide⟩
  | .bool true, _ => ⟨_, _, rfl, by decide, by decide⟩
  | .bool false, _ => ⟨_, _, rfl, by decide, by decide⟩
  | .string s, _ => ⟨_, _, toList_stringText s, by decide, by decide⟩
  | .number literal, h => by
    obtain ⟨n, rfl⟩ := h
    obtain ⟨d, ds, hds, hd⟩ := exists_toDigits_cons n
    have hne {c : Char} (hc : c.isDigit = false) : d ≠ c := ne_of_isDigit hd hc
    exact ⟨d, ds, by simp [laid, hds], isSpace_of_isDigit hd, hne rfl⟩
  | .array [], _ => ⟨_, _, rfl, by decide, by decide⟩
  | .array (_ :: _), _ => ⟨_, _, rfl, by decide, by decide⟩
  | .object [], _ => ⟨_, _, rfl, by decide, by decide⟩
  | .object (_ :: _), _ => ⟨_, _, rfl, by decide, by decide⟩

-- There is fuel to start with.
theorem exists_fuel {j : Json} (h : Printable j) {fuel : Nat}
    (hfuel : 2 * (laid l depth j).length ≤ fuel) : ∃ n, fuel = n + 1 := by
  obtain ⟨c, t, hct, -⟩ := exists_laid_cons l depth h
  rw [hct, List.length_cons] at hfuel
  exact Nat.exists_eq_add_one.mpr (by omega)

theorem reads_array {items : List Json} (hprintable : PrintableItems items)
    (hreads : ∀ v ∈ items, Reads l (depth + 1) v) : Reads l depth (.array items) := by
  intro fuel r _ hfuel
  cases items with
  | nil =>
    obtain ⟨fuel, rfl⟩ := exists_fuel (j := .array []) trivial hfuel
    simp [laid, laidItems, Layout.enclose, value, skip, isSpace]
  | cons v vs =>
    obtain ⟨c, t, hct, hspace, hne⟩ := exists_laid_cons l (depth + 1) hprintable.1
    have htext : laid l depth (.array (v :: vs)) ++ r =
        '[' :: (l.gap (depth + 1) ++ (laid l (depth + 1) v ++
          (l.tail depth ']' (laidItems l (depth + 1) vs) ++ r))) := by
      simp [laid, laidItems, Layout.enclose]
    have hlength : (laid l depth (.array (v :: vs))).length =
        1 + (l.gap (depth + 1)).length + (laid l (depth + 1) v ++
          l.tail depth ']' (laidItems l (depth + 1) vs)).length := by
      simp [laid, laidItems, Layout.enclose]
      omega
    obtain ⟨fuel, rfl⟩ := Nat.exists_eq_add_one.mpr (by omega : 0 < fuel)
    rw [htext, value_array, items_append (l.gap_blank (depth + 1)),
      items_laid hreads [] r (by omega)]
    · rfl
    · intro u hu
      rw [skip_append (l.gap_blank (depth + 1)), hct, List.cons_append, skip_cons hspace] at hu
      exact hne (List.cons.inj hu).1

theorem reads_object {members : List (String × Json)}
    (hreads : ∀ m ∈ members, Reads l (depth + 1) m.2) : Reads l depth (.object members) := by
  intro fuel r _ hfuel
  cases members with
  | nil =>
    obtain ⟨fuel, rfl⟩ := exists_fuel (j := .object []) trivial hfuel
    simp [laid, laidMembers, Layout.enclose, value, skip, isSpace]
  | cons m ms =>
    obtain ⟨k, v⟩ := m
    have htext : laid l depth (.object ((k, v) :: ms)) ++ r =
        '\x7b' :: (l.gap (depth + 1) ++ (laidMember l (depth + 1) k v ++
          (l.tail depth '\x7d' (laidMembers l (depth + 1) ms) ++ r))) := by
      simp [laid, laidMembers, laidMember, Layout.enclose]
    have hlength : (laid l depth (.object ((k, v) :: ms))).length =
        1 + (l.gap (depth + 1)).length + (laidMember l (depth + 1) k v ++
          l.tail depth '\x7d' (laidMembers l (depth + 1) ms)).length := by
      simp [laid, laidMembers, laidMember, Layout.enclose]
      omega
    obtain ⟨fuel, rfl⟩ := Nat.exists_eq_add_one.mpr (by omega : 0 < fuel)
    rw [htext, value_object, members_append (l.gap_blank (depth + 1)),
      members_laid hreads [] r (by omega)]
    · rfl
    · intro u hu
      rw [skip_append (l.gap_blank (depth + 1)), laidMember, toList_stringText] at hu
      simp only [List.cons_append] at hu
      rw [skip_cons rfl] at hu
      cases (List.cons.inj hu).1

mutual

theorem reads_laid (l : Layout) : ∀ (depth : Nat) (j : Json), Printable j → Reads l depth j
  | depth, .array items, h => reads_array h (reads_items l (depth + 1) items h)
  | depth, .object members, h => reads_object (reads_members l (depth + 1) members h)
  | _, .string s, _ => fun fuel r _ hfuel => value_string s r (by simp only [laid] at hfuel; omega)
  | _, .number _, h => fun fuel r hr hfuel => by
    obtain ⟨fuel, rfl⟩ := exists_fuel h hfuel
    obtain ⟨n, rfl⟩ := h
    exact value_number n fuel hr
  | _, .null, h => fun fuel r _ hfuel => by
    obtain ⟨fuel, rfl⟩ := exists_fuel h hfuel
    exact value_scalar (c := 'n') rfl (by decide) (by decide) (by decide) fuel _
  | _, .bool true, h => fun fuel r _ hfuel => by
    obtain ⟨fuel, rfl⟩ := exists_fuel h hfuel
    exact value_scalar (c := 't') rfl (by decide) (by decide) (by decide) fuel _
  | _, .bool false, h => fun fuel r _ hfuel => by
    obtain ⟨fuel, rfl⟩ := exists_fuel h hfuel
    exact value_scalar (c := 'f') rfl (by decide) (by decide) (by decide) fuel _

theorem reads_items (l : Layout) : ∀ (depth : Nat) (items : List Json), PrintableItems items →
    ∀ v ∈ items, Reads l depth v
  | depth, v :: items, h => by
    have hv := reads_laid l depth v h.1
    have hitems := reads_items l depth items h.2
    simpa using ⟨hv, hitems⟩
  | _, [], _ => by simp

theorem reads_members (l : Layout) : ∀ (depth : Nat) (members : List (String × Json)),
    PrintableMembers members → ∀ m ∈ members, Reads l depth m.2
  | depth, (k, v) :: members, h => by
    have hv := reads_laid l depth v h.1
    have hmembers := reads_members l depth members h.2
    rintro m hm
    rcases List.mem_cons.mp hm with rfl | hm
    · exact hv
    · exact hmembers m hm
  | _, [], _ => by simp

end

-- What is printed in a layout is read as it was, all of it.
theorem read_of_toList_eq_laid {j : Json} {text : String} (h : Printable j)
    (ht : text.toList = laid l depth j) : read text = ⟨j, true⟩ := by
  have hread := reads_laid l depth j h (2 * text.toList.length + 2) [] nofun (by rw [ht]; omega)
  rw [← ht, List.append_nil] at hread
  simp [read, hread, skip]

theorem read_compact {j : Json} (h : Printable j) : read j.compact = ⟨j, true⟩ :=
  read_of_toList_eq_laid h (toList_compact 0 j)

theorem read_pretty {j : Json} (h : Printable j) (depth : Nat) :
    read (j.pretty depth) = ⟨j, true⟩ :=
  read_of_toList_eq_laid h (toList_pretty depth j)

-- What a decoder makes of a value, it makes of the texts of the value.

theorem decode_compact {α : Type} (ofJson : Json → Decoded α) {j : Json} (h : Printable j) :
    decode ofJson j.compact = ofJson j := by
  unfold decode
  rw [read_compact h]
  cases ofJson j <;> rfl

theorem decode_pretty {α : Type} (ofJson : Json → Decoded α) {j : Json} (h : Printable j)
    (depth : Nat) : decode ofJson (j.pretty depth) = ofJson j := by
  unfold decode
  rw [read_pretty h]
  cases ofJson j <;> rfl

end Rulebook.Json
