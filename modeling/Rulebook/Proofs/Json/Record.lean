import Rulebook.Json.Record
import Rulebook.Proofs.Json.Token

namespace Rulebook.Json

@[simp] theorem asString_string (s : String) : asString (.string s) = .ok s :=
  rfl

-- Records are read field by field, in the order in which they are written.

theorem readMembers_slot {σ α : Type} {fields : List (RecordField σ)} {name : String}
    {decode : Json → Decoded α} {get : σ → Option α} {set : α → σ → σ} {v : Json} {a : α} {s : σ}
    (hfield : fields.find? (·.name = name) = some (.slot name decode get set))
    (hv : decode v = .ok a) (hs : get s = none) (members : List (String × Json)) :
    readMembers fields ((name, v) :: members) s = readMembers fields members (set a s) := by
  simp [readMembers, hfield, RecordField.slot, hv, hs, Except.map]

-- A list of values is read item by item.
theorem asList_map {α : Type} {decode : Json → Decoded α} {toJson : α → Json} {l : List α}
    (h : ∀ a ∈ l, decode (toJson a) = .ok a) : asList decode (.array (l.map toJson)) = .ok l := by
  simp only [asList]
  induction l with
  | nil => rfl
  | cons a l ih =>
    have hrest := ih fun b hb => h b (List.mem_cons_of_mem a hb)
    rw [List.map_cons, List.mapM_cons, h a (by simp), hrest]
    rfl

-- A choice is read by the name of its only member.
theorem asChoice_single {α : Type} {choices : List (String × (Json → Decoded α))} {name : String}
    {decode : Json → Decoded α} {v : Json} {a : α} (hchoice : choices.lookup name = some decode)
    (hv : decode v = .ok a) : asChoice choices (.object [(name, v)]) = .ok a := by
  simp [asChoice, hchoice, hv]

theorem naturalOf_toDigits (n : Nat) : naturalOf? (Nat.toDigits 10 n) = some n := by
  have hall : (Nat.toDigits 10 n).all Char.isDigit = true :=
    List.all_eq_true.mpr fun c hc => Nat.isDigit_of_mem_toDigits (by decide) (by decide) hc
  have hempty : (Nat.toDigits 10 n).isEmpty = false := by simp
  simp [naturalOf?, hempty, hall, Nat.ofDigitChars_ten_toDigits]

theorem asNat_ofNat {n : Nat} (h : n < UInt64.size) : asNat (.ofNat n) = .ok n := by
  have htext : (toString n).toList = Nat.toDigits 10 n := by simp
  simp only [asNat, ofNat, htext, naturalOf_toDigits]
  exact if_pos h

-- What is read has been looked at.

theorem bind_eq_ok {ε α β : Type} {x : Except ε α} {f : α → Except ε β} {b : β}
    (h : x >>= f = .ok b) : ∃ a, x = .ok a ∧ f a = .ok b := by
  cases x with
  | error e => cases h
  | ok a => exact ⟨a, rfl, h⟩

theorem map_eq_ok {ε α β : Type} {x : Except ε α} {f : α → β} {b : β}
    (h : x.map f = .ok b) : ∃ a, x = .ok a ∧ f a = b := by
  cases x with
  | error e => cases h
  | ok a => exact ⟨a, rfl, Except.ok.inj h⟩

theorem checked_eq_ok {α : Type} {x : Except ModelError α} {a : α} (h : checked x = .ok a) :
    x = .ok a := by
  cases x with
  | error e => cases h
  | ok b => exact congrArg Except.ok (Except.ok.inj h)

theorem required_eq_ok {α : Type} {slot : Option α} {a : α} (h : required slot = .ok a) :
    slot = some a := by
  cases slot with
  | none => cases h
  | some b => exact congrArg some (Except.ok.inj h)

theorem lt_of_asNat_eq_ok {j : Json} {n : Nat} (h : asNat j = .ok n) : n < UInt64.size := by
  unfold asNat at h
  split at h
  · split at h
    · split at h
      next hlt =>
        obtain rfl := Except.ok.inj h
        exact hlt
      next => cases h
    · cases h
  · cases h

theorem exists_of_asList_eq_ok {α : Type} {decode : Json → Decoded α} {j : Json} {l : List α}
    (h : asList decode j = .ok l) : ∀ a ∈ l, ∃ v, decode v = .ok a := by
  unfold asList at h
  split at h
  next items =>
    induction items generalizing l with
    | nil =>
      obtain rfl := Except.ok.inj h
      simp
    | cons v items ih =>
      rw [List.mapM_cons] at h
      obtain ⟨b, hb, h⟩ := bind_eq_ok h
      obtain ⟨rest, hrest, h⟩ := bind_eq_ok h
      obtain rfl := Except.ok.inj h
      intro a ha
      rcases List.mem_cons.mp ha with rfl | ha
      · exact ⟨v, hb⟩
      · exact ih hrest a ha
  next => cases h

theorem exists_of_asChoice_eq_ok {α : Type} {choices : List (String × (Json → Decoded α))}
    {j : Json} {a : α} (h : asChoice choices j = .ok a) :
    ∃ choice ∈ choices, ∃ v, choice.2 v = .ok a := by
  unfold asChoice at h
  split at h
  next name v rest =>
    split at h
    next => cases h
    next decode hdecode =>
      split at h
      next => cases h
      next b hb =>
        split at h
        · obtain rfl := Except.ok.inj h
          obtain ⟨before, after, rfl, -⟩ := List.lookup_eq_some_iff.mp hdecode
          exact ⟨(name, decode), by simp, v, hb⟩
        · cases h
  next => cases h

-- What holds at the start of a record and is kept by every field holds at its end.

section Invariant

variable {σ : Type} {I : σ → Prop} {fields : List (RecordField σ)}

theorem readMembers_invariant
    (hfields : ∀ field ∈ fields, ∀ v s s', I s → field.read v s = .ok s' → I s')
    {members : List (String × Json)} {start s : σ} (hstart : I start)
    (h : readMembers fields members start = .ok s) : I s := by
  induction members generalizing start with
  | nil =>
    obtain rfl := Except.ok.inj h
    exact hstart
  | cons m members ih =>
    unfold readMembers at h
    split at h
    next field hfield =>
      split at h
      next => cases h
      next s' hs' => exact ih (hfields field (List.mem_of_find?_eq_some hfield) _ _ _ hstart hs') h
    next =>
      split at h
      next => exact ih hstart h
      next => cases h

theorem readItems_invariant
    (hfields : ∀ field ∈ fields, ∀ v s s', I s → field.read v s = .ok s' → I s')
    {strict : Bool} {items : List Json} {start s : σ} (hstart : I start)
    (h : readItems strict fields items start = .ok s) : I s := by
  induction items generalizing fields start with
  | nil =>
    obtain rfl : start = s := by simpa [readItems] using h
    exact hstart
  | cons v items ih =>
    cases fields with
    | nil =>
      unfold readItems at h
      split at h
      · cases h
      · obtain rfl := Except.ok.inj h
        exact hstart
    | cons field fields =>
      unfold readItems at h
      split at h
      next => cases h
      next s' hs' =>
        have hs' := hfields field List.mem_cons_self _ _ _ hstart hs'
        exact ih (fun f hf => hfields f (List.mem_cons_of_mem field hf)) hs' h

theorem asRecord_invariant
    (hfields : ∀ field ∈ fields, ∀ v s s', I s → field.read v s = .ok s' → I s')
    {dialect : Dialect} {start s : σ} {j : Json} (hstart : I start)
    (h : asRecord dialect fields start j = .ok s) : I s := by
  unfold asRecord at h
  split at h
  · exact readMembers_invariant hfields hstart h
  · exact readItems_invariant hfields hstart h
  · cases h

end Invariant

theorem slot_read_eq_ok {σ α : Type} {name : String} {decode : Json → Decoded α}
    {get : σ → Option α} {set : α → σ → σ} {v : Json} {s s' : σ}
    (h : (RecordField.slot name decode get set).read v s = .ok s') :
    ∃ a, decode v = .ok a ∧ s' = set a s := by
  simp only [RecordField.slot] at h
  split at h
  · cases h
  · obtain ⟨a, ha, rfl⟩ := map_eq_ok h
    exact ⟨a, ha, rfl⟩

end Rulebook.Json
