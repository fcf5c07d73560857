import Mathlib.Data.List.Basic

namespace Rulebook

-- The front of a list, which ends where something of another kind begins.

theorem takeWhile_front {α : Type} {p : α → Bool} {xs r : List α} (hxs : ∀ x ∈ xs, p x = true)
    (hr : ∀ x ∈ r.head?, p x = false) : (xs ++ r).takeWhile p = xs := by
  rw [List.takeWhile_append_of_pos hxs]
  cases r with
  | nil => simp
  | cons x r => simp [hr x rfl]

theorem dropWhile_front {α : Type} {p : α → Bool} {xs r : List α} (hxs : ∀ x ∈ xs, p x = true)
    (hr : ∀ x ∈ r.head?, p x = false) : (xs ++ r).dropWhile p = r := by
  rw [List.dropWhile_append_of_pos hxs]
  cases r with
  | nil => rfl
  | cons x r => simp [hr x rfl]

-- Stretches in a row, and how long they are.

theorem length_flatMap_le {α β γ : Type} {f : α → List β} {g : α → List γ}
    (h : ∀ a, (f a).length ≤ (g a).length) (l : List α) :
    (l.flatMap f).length ≤ (l.flatMap g).length := by
  induction l with
  | nil => exact Nat.le_refl _
  | cons a l ih =>
    rw [List.flatMap_cons, List.flatMap_cons, List.length_append, List.length_append]
    exact Nat.add_le_add (h a) ih

theorem length_le_flatMap {α β : Type} {f : α → List β} (h : ∀ a, f a ≠ []) (l : List α) :
    l.length ≤ (l.flatMap f).length := by
  have hone := length_flatMap_le (f := fun a => [a]) (fun a => List.length_pos_iff.mpr (h a)) l
  simpa using hone

theorem flatMap_intercalate {α β : Type} (f : α → List β) (sep : List α) (ls : List (List α)) :
    (sep.intercalate ls).flatMap f = (sep.flatMap f).intercalate (ls.map (·.flatMap f)) := by
  induction ls with
  | nil => rfl
  | cons l ls ih =>
    cases ls with
    | nil => simp
    | cons l' ls =>
      rw [List.map_cons] at ih
      rw [List.map_cons, List.map_cons, List.intercalate_cons_cons, List.intercalate_cons_cons,
        List.flatMap_append, List.flatMap_append, ih]

-- Stretches with an element after each of them, and how they are told apart.

theorem intercalate_append_sep {α : Type} (sep : List α) {ls : List (List α)} (h : ls ≠ []) :
    sep.intercalate ls ++ sep = ls.flatMap (· ++ sep) := by
  induction ls with
  | nil => exact absurd rfl h
  | cons l ls ih =>
    cases ls with
    | nil => simp
    | cons l' ls =>
      rw [List.intercalate_cons_cons, List.flatMap_cons, ← ih (List.cons_ne_nil _ _)]
      simp only [List.append_assoc]

theorem splitOn_flatMap {α : Type} [BEq α] [LawfulBEq α] {a : α} {ls : List (List α)}
    (h : ∀ l ∈ ls, a ∉ l) : (ls.flatMap (· ++ [a])).splitOn a = ls ++ [[]] := by
  induction ls with
  | nil => rfl
  | cons l ls ih =>
    obtain ⟨hl, hls⟩ := List.forall_mem_cons.mp h
    rw [List.flatMap_cons, List.append_assoc, List.singleton_append,
      List.splitOn_append_cons_self_of_not_mem hl, ih hls, List.cons_append]

theorem of_mem_splitOn {α : Type} [BEq α] [LawfulBEq α] {a : α} {xs l : List α}
    (h : l ∈ xs.splitOn a) : a ∉ l ∧ l ⊆ xs := by
  induction xs generalizing l with
  | nil =>
    rw [List.splitOn_nil, List.mem_singleton] at h
    simp [h]
  | cons x xs ih =>
    rw [List.splitOn_cons_eq_if_modifyHead] at h
    split at h
    next =>
      rcases List.mem_cons.mp h with rfl | h
      · simp
      · exact ⟨(ih h).1, List.subset_cons_of_subset x (ih h).2⟩
    next hx =>
      obtain ⟨first, rest, hsplit⟩ := List.exists_cons_of_ne_nil (List.splitOn_ne_nil a xs)
      rw [hsplit] at h ih
      rcases List.mem_cons.mp h with rfl | h
      · obtain ⟨ha, hsub⟩ := ih List.mem_cons_self
        refine ⟨?_, List.cons_subset_cons x hsub⟩
        simp only [List.mem_cons, not_or]
        exact ⟨fun hax => hx (by simp [hax]), ha⟩
      · obtain ⟨ha, hsub⟩ := ih (List.mem_cons_of_mem _ h)
        exact ⟨ha, List.subset_cons_of_subset x hsub⟩

end Rulebook
