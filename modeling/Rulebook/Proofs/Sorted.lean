import Rulebook.Sorted
import Mathlib.Data.List.Induction
import Mathlib.Data.List.Perm.Subperm

namespace Rulebook.Sorted

variable {α β : Type} [Ord α]

-- Strictly ascending, so that no two elements compare equal. A table is ascending when its keys
-- are.
def Ascending (l : List α) : Prop :=
  l.Pairwise fun a b => compare a b = .lt

theorem ascending_nil : Ascending ([] : List α) :=
  List.Pairwise.nil

theorem ascending_cons {a : α} {l : List α} :
    Ascending (a :: l) ↔ (∀ b ∈ l, compare a b = .lt) ∧ Ascending l :=
  List.pairwise_cons

theorem Ascending.nodup [Std.ReflOrd α] {l : List α} (hl : Ascending l) : l.Nodup := by
  refine hl.imp ?_
  rintro a b hab rfl
  simp [Std.ReflOrd.compare_self] at hab

section Lookup

theorem lookup_eq_none_iff {a : α} {l : List (α × β)} :
    lookup a l = none ↔ ∀ e ∈ l, compare a e.1 ≠ .eq := by
  induction l with
  | nil => simp [lookup]
  | cons e l ih =>
    obtain ⟨k, v⟩ := e
    by_cases hk : compare a k = .eq
    · simp [lookup, hk]
    · simp [lookup, hk, ih]

theorem contains_eq_true_iff {a : α} {l : List (α × β)} :
    contains a l = true ↔ ∃ e ∈ l, compare a e.1 = .eq := by
  have h := not_congr (lookup_eq_none_iff (a := a) (l := l))
  simp only [contains, Option.isSome_iff_ne_none, ne_eq, h]
  simp

theorem exists_of_lookup_eq_some {a : α} {v : β} {l : List (α × β)} (h : lookup a l = some v) :
    ∃ k, compare a k = .eq ∧ (k, v) ∈ l := by
  induction l with
  | nil => simp [lookup] at h
  | cons e l ih =>
    obtain ⟨k, w⟩ := e
    by_cases hk : compare a k = .eq
    · simp only [lookup, hk, if_true, Option.some.injEq] at h
      exact ⟨k, hk, by simp [h]⟩
    · simp only [lookup, hk, if_false] at h
      obtain ⟨k', hk', hm⟩ := ih h
      exact ⟨k', hk', List.mem_cons_of_mem _ hm⟩

variable [Std.TransOrd α]

-- In an ascending table a key is found in one place only.
theorem lookup_eq_some_of_mem {a k : α} {v : β} {l : List (α × β)}
    (hl : Ascending (l.map Prod.fst)) (hk : compare a k = .eq) (hm : (k, v) ∈ l) :
    lookup a l = some v := by
  induction l with
  | nil => simp at hm
  | cons e l ih =>
    obtain ⟨k', w⟩ := e
    obtain ⟨hhead, htail⟩ := ascending_cons.mp hl
    rcases List.mem_cons.mp hm with he | hm
    · obtain ⟨rfl, rfl⟩ := Prod.mk.inj he
      simp [lookup, hk]
    · have hlt : compare k' k = .lt := hhead k (List.mem_map_of_mem (f := Prod.fst) hm)
      have hne : compare a k' ≠ .eq := by
        intro he
        rw [← Std.TransCmp.congr_left he, hk] at hlt
        simp at hlt
      simp only [lookup, hne, if_false]
      exact ih htail hm

theorem lookup_eq_some_iff [Std.LawfulEqOrd α] {a : α} {v : β} {l : List (α × β)}
    (hl : Ascending (l.map Prod.fst)) : lookup a l = some v ↔ (a, v) ∈ l := by
  constructor
  · intro h
    obtain ⟨k, hk, hm⟩ := exists_of_lookup_eq_some h
    rwa [Std.compare_eq_iff_eq.mp hk]
  · exact lookup_eq_some_of_mem hl Std.ReflOrd.compare_self

end Lookup

section Change

-- A key that is found nowhere gets a place of its own.
theorem mem_insertNew {a : α} {b : β} {l : List (α × β)} {e : α × β} (h : lookup a l = none) :
    e ∈ insertNew a b l ↔ e = (a, b) ∨ e ∈ l := by
  unfold insertNew
  induction l with
  | nil => simp [alter]
  | cons head l ih =>
    obtain ⟨k, v⟩ := head
    have hk : compare a k ≠ .eq := lookup_eq_none_iff.mp h (k, v) (by simp)
    simp only [lookup, hk, if_false] at h
    cases hc : compare a k with
    | lt => simp [alter, hc]
    | eq => exact False.elim (hk hc)
    | gt => simp [alter, hc, ih h, or_left_comm]

private theorem mem_keys_alter {f : Option β → β} {a k : α} {l : List (α × β)}
    (hk : k ∈ (alter f a l).map Prod.fst) : k = a ∨ k ∈ l.map Prod.fst := by
  induction l with
  | nil => simpa [alter] using hk
  | cons head l ih =>
    obtain ⟨k', v⟩ := head
    simp only [alter] at hk
    split at hk <;> simp only [List.map_cons, List.mem_cons] at hk ⊢ <;> grind

theorem erase_sublist {a : α} {l : List (α × β)} : (erase a l).Sublist l := by
  induction l with
  | nil => simp [erase]
  | cons e l ih =>
    obtain ⟨k, v⟩ := e
    simp only [erase]
    split
    · exact List.sublist_cons_self _ _
    · exact ih.cons_cons _

theorem ascending_erase {a : α} {l : List (α × β)} (hl : Ascending (l.map Prod.fst)) :
    Ascending ((erase a l).map Prod.fst) :=
  hl.sublist (erase_sublist.map Prod.fst)

theorem mem_erase [Std.LawfulEqOrd α] {a : α} {l : List (α × β)} {e : α × β}
    (hl : Ascending (l.map Prod.fst)) : e ∈ erase a l ↔ e ∈ l ∧ e.1 ≠ a := by
  induction l with
  | nil => simp [erase]
  | cons head l ih =>
    obtain ⟨k, v⟩ := head
    obtain ⟨hhead, htail⟩ := ascending_cons.mp hl
    by_cases hk : compare a k = .eq
    · obtain rfl := Std.compare_eq_iff_eq.mp hk
      have hne : e ∈ l → e.1 ≠ a := by
        rintro he rfl
        have := hhead e.1 (List.mem_map_of_mem (f := Prod.fst) he)
        simp [Std.ReflOrd.compare_self] at this
      simp only [erase, hk, if_true, List.mem_cons]
      grind
    · have hak : k ≠ a := by rintro rfl; exact hk Std.ReflOrd.compare_self
      simp only [erase, hk, if_false, List.mem_cons, ih htail]
      grind

variable [Std.TransOrd α]

theorem lookup_of_lt {a k : α} {v : β} {l : List (α × β)}
    (hl : Ascending (((k, v) :: l).map Prod.fst)) (hk : compare a k = .lt) :
    lookup a ((k, v) :: l) = none := by
  rw [lookup_eq_none_iff]
  intro e he
  rcases List.mem_cons.mp he with rfl | he
  · simp [hk]
  · have hlt := (ascending_cons.mp hl).1 e.1 (List.mem_map_of_mem (f := Prod.fst) he)
    simp [Std.TransCmp.lt_trans hk hlt]

theorem mem_alter [Std.LawfulEqOrd α] {f : Option β → β} {a : α} {l : List (α × β)} {e : α × β}
    (hl : Ascending (l.map Prod.fst)) :
    e ∈ alter f a l ↔ e = (a, f (lookup a l)) ∨ e ∈ l ∧ e.1 ≠ a := by
  induction l with
  | nil => simp [alter, lookup]
  | cons head l ih =>
    obtain ⟨k, v⟩ := head
    obtain ⟨hhead, htail⟩ := ascending_cons.mp hl
    have hne (hk : ∀ b ∈ l.map Prod.fst, compare a b = .lt) : e ∈ l → e.1 ≠ a := by
      rintro he rfl
      have := hk e.1 (List.mem_map_of_mem (f := Prod.fst) he)
      simp [Std.ReflOrd.compare_self] at this
    cases hk : compare a k with
    | lt =>
      have hak : k ≠ a := by rintro rfl; simp [Std.ReflOrd.compare_self] at hk
      have htail' := hne fun b hb => Std.TransCmp.lt_trans hk (hhead b hb)
      rw [lookup_of_lt hl hk]
      simp only [alter, hk, List.mem_cons]
      grind
    | eq =>
      obtain rfl := Std.compare_eq_iff_eq.mp hk
      have htail' := hne hhead
      simp only [alter, lookup, hk, if_true, List.mem_cons]
      grind
    | gt =>
      have hak : k ≠ a := by rintro rfl; simp [Std.ReflOrd.compare_self] at hk
      simp only [alter, lookup, hk, List.mem_cons, ih htail]
      grind

theorem ascending_alter {f : Option β → β} {a : α} {l : List (α × β)}
    (hl : Ascending (l.map Prod.fst)) : Ascending ((alter f a l).map Prod.fst) := by
  induction l with
  | nil => simp [alter, Ascending]
  | cons head l ih =>
    obtain ⟨k, v⟩ := head
    obtain ⟨hhead, htail⟩ := ascending_cons.mp hl
    cases hk : compare a k with
    | lt =>
      simp only [alter, hk, List.map_cons]
      refine ascending_cons.mpr ⟨?_, hl⟩
      intro b hb
      rcases List.mem_cons.mp hb with rfl | hb
      · exact hk
      · exact Std.TransCmp.lt_trans hk (hhead b hb)
    | eq =>
      simp only [alter, hk]
      exact hl
    | gt =>
      simp only [alter, hk, List.map_cons]
      refine ascending_cons.mpr ⟨?_, ih htail⟩
      intro b hb
      rcases mem_keys_alter hb with rfl | hb
      · exact Std.OrientedCmp.lt_of_gt hk
      · exact hhead b hb

theorem ascending_insertNew {a : α} {b : β} {l : List (α × β)}
    (hl : Ascending (l.map Prod.fst)) : Ascending ((insertNew a b l).map Prod.fst) :=
  ascending_alter hl

theorem ascending_insert [Std.LawfulEqOrd α] {a : α} {l : List α} (hl : Ascending l) :
    Ascending (insert a l) := by
  induction l with
  | nil => simp [insert, Ascending]
  | cons b l ih =>
    obtain ⟨hhead, htail⟩ := ascending_cons.mp hl
    cases hb : compare a b with
    | lt =>
      simp only [insert, hb]
      refine ascending_cons.mpr ⟨?_, hl⟩
      intro c hc
      rcases List.mem_cons.mp hc with rfl | hc
      · exact hb
      · exact Std.TransCmp.lt_trans hb (hhead c hc)
    | eq => simpa only [insert, hb] using hl
    | gt =>
      simp only [insert, hb]
      refine ascending_cons.mpr ⟨?_, ih htail⟩
      intro c hc
      rcases mem_insert.mp hc with rfl | hc
      · exact Std.OrientedCmp.lt_of_gt hb
      · exact hhead c hc

-- An ascending list is known from its elements. The order may be that of a part of them, such
-- as the key of an entry.
theorem eq_of_mem_iff {γ : Type} (key : γ → α) {l m : List γ} (hl : Ascending (l.map key))
    (hm : Ascending (m.map key)) (h : ∀ x, x ∈ l ↔ x ∈ m) : l = m := by
  have hnodup {n : List γ} (hn : Ascending (n.map key)) : n.Nodup :=
    List.Pairwise.of_map key (fun _ _ => mt (congrArg key)) hn.nodup
  have hperm : l.Perm m := (List.perm_ext_iff_of_nodup (hnodup hl) (hnodup hm)).mpr h
  refine hperm.eq_of_pairwise ?_ (List.pairwise_map.mp hl) (List.pairwise_map.mp hm)
  intro x y _ _ hxy hyx
  rw [Std.OrientedCmp.gt_of_lt hxy] at hyx
  simp at hyx

end Change

section Gather

variable {γ : Type}

-- Hand lists over to a table, each under its key. Lists under the same key are put together.
def gather (t l : List (α × List γ)) : List (α × List γ) :=
  l.foldl (fun t e => alter (·.getD [] ++ e.2) e.1 t) t

theorem gather_concat {t l : List (α × List γ)} {e : α × List γ} :
    gather t (l ++ [e]) = alter (·.getD [] ++ e.2) e.1 (gather t l) := by
  simp [gather]

variable [Std.TransOrd α]

theorem ascending_gather {l : List (α × List γ)} : Ascending ((gather [] l).map Prod.fst) := by
  induction l using List.reverseRecOn with
  | nil => exact ascending_nil
  | append_singleton l e ih =>
    rw [gather_concat]
    exact ascending_alter ih

variable [Std.LawfulEqOrd α] [DecidableEq α]

-- What is under a key is all that was handed over under it, in order.
theorem mem_gather {k : α} {v : List γ} {l : List (α × List γ)} :
    (k, v) ∈ gather [] l ↔
      k ∈ l.map Prod.fst ∧ v = (l.filter (·.1 = k)).flatMap Prod.snd := by
  induction l using List.reverseRecOn generalizing k v with
  | nil => simp [gather]
  | append_singleton l e ih =>
    rw [gather_concat, mem_alter ascending_gather]
    by_cases hk : k = e.1
    · subst hk
      have hlookup : (lookup e.1 (gather [] l)).getD [] =
          (l.filter (·.1 = e.1)).flatMap Prod.snd := by
        cases h : lookup e.1 (gather [] l) with
        | some v => exact (ih.mp ((lookup_eq_some_iff ascending_gather).mp h)).2
        | none =>
          have hnone : ∀ e' ∈ l, e'.1 ≠ e.1 := by
            intro e' he' hk
            have hm := ih.mpr ⟨List.mem_map.mpr ⟨e', he', hk⟩, rfl⟩
            exact lookup_eq_none_iff.mp h _ hm Std.ReflOrd.compare_self
          rw [List.filter_eq_nil_iff.mpr (by simpa using hnone)]
          rfl
      simp [hlookup]
    · simp [hk, ih, Ne.symm hk]

end Gather

section Groups

variable {κ γ : Type} [DecidableEq κ]

-- Groups of a list under different keys make up the part of the list with one of the keys.
theorem flatMap_perm_filter {key : γ → κ} {xs : List γ} {l : List (κ × List γ)}
    (hkeys : (l.map Prod.fst).Nodup) (hl : ∀ e ∈ l, e.2 = xs.filter (key · = e.1)) :
    (l.flatMap Prod.snd).Perm (xs.filter (key · ∈ l.map Prod.fst)) := by
  induction l with
  | nil => simp
  | cons e l ih =>
    obtain ⟨hnew, hkeys⟩ := List.nodup_cons.mp hkeys
    obtain ⟨he, hl⟩ := List.forall_mem_cons.mp hl
    let both := xs.filter (key · ∈ (e :: l).map Prod.fst)
    have hfirst : both.filter (key · = e.1) = xs.filter (key · = e.1) := by
      rw [List.filter_filter]
      refine List.filter_congr fun x _ => ?_
      simp only [List.map_cons, List.mem_cons]
      grind
    have hrest : (both.filter fun x => !(key x = e.1 : Bool)) =
        xs.filter (key · ∈ l.map Prod.fst) := by
      rw [List.filter_filter]
      refine List.filter_congr fun x _ => ?_
      simp only [List.map_cons, List.mem_cons]
      grind
    rw [List.flatMap_cons, he, ← hfirst]
    refine ((ih hkeys hl).append_left _).trans ?_
    rw [← hrest]
    exact List.filter_append_perm _ both

-- A table of all groups, each under its key, without those of some keys.
theorem flatMap_filter_perm {key : γ → κ} {xs : List γ} {l : List (κ × List γ)}
    (hkeys : (l.map Prod.fst).Nodup)
    (hl : ∀ k v, (k, v) ∈ l ↔ v = xs.filter (key · = k) ∧ v ≠ []) (keep : κ → Bool) :
    ((l.filter fun e => keep e.1).flatMap Prod.snd).Perm (xs.filter fun x => keep (key x)) := by
  let kept := l.filter fun e => keep e.1
  have hkept : (kept.map Prod.fst).Nodup := hkeys.sublist (List.filter_sublist.map _)
  have hgroups : ∀ e ∈ kept, e.2 = xs.filter (key · = e.1) := fun e he =>
    ((hl e.1 e.2).mp (List.mem_filter.mp he).1).1
  have hkey (x : γ) (hx : x ∈ xs) : key x ∈ kept.map Prod.fst ↔ keep (key x) = true := by
    constructor
    · intro h
      obtain ⟨e, he, hk⟩ := List.mem_map.mp h
      exact hk ▸ (List.mem_filter.mp he).2
    · intro hkeep
      have hgroup : (key x, xs.filter (key · = key x)) ∈ l :=
        (hl _ _).mpr ⟨rfl, List.ne_nil_of_mem (List.mem_filter.mpr ⟨hx, by simp⟩)⟩
      exact List.mem_map.mpr ⟨_, List.mem_filter.mpr ⟨hgroup, hkeep⟩, rfl⟩
  have hfilter : xs.filter (key · ∈ kept.map Prod.fst) = xs.filter fun x => keep (key x) := by
    refine List.filter_congr fun x hx => ?_
    rw [Bool.eq_iff_iff, decide_eq_true_eq, hkey x hx]
  exact hfilter ▸ flatMap_perm_filter hkept hgroups

end Groups

end Rulebook.Sorted
