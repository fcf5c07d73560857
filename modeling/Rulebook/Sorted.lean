namespace Rulebook.Sorted

variable {α β : Type} [Ord α]

-- Put an element into an ascending list. An element that compares equal to one in the list is
-- already there, and the spelling met first stays.
def insert (a : α) : List α → List α
  | [] => [a]
  | b :: l =>
    match compare a b with
    | .lt => a :: b :: l
    | .eq => b :: l
    | .gt => b :: insert a l

-- Tables are ascending lists of keys with their values.

def lookup (a : α) : List (α × β) → Option β
  | [] => none
  | (k, v) :: l => if compare a k = .eq then some v else lookup a l

def contains (a : α) (l : List (α × β)) : Bool :=
  (lookup a l).isSome

-- Give a key its value, found from the value that it had so far.
def alter (f : Option β → β) (a : α) : List (α × β) → List (α × β)
  | [] => [(a, f none)]
  | (k, v) :: l =>
    match compare a k with
    | .lt => (a, f none) :: (k, v) :: l
    | .eq => (k, f (some v)) :: l
    | .gt => (k, v) :: alter f a l

-- A key that is already there keeps its value.
def insertNew (a : α) (b : β) (l : List (α × β)) : List (α × β) :=
  alter (·.getD b) a l

def erase (a : α) : List (α × β) → List (α × β)
  | [] => []
  | (k, v) :: l => if compare a k = .eq then l else (k, v) :: erase a l

-- The positions of the elements in stable ascending order.
def order (l : List α) : List Nat :=
  (l.zipIdx.mergeSort fun a b => (compare a.1 b.1).isLE).map Prod.snd

-- For each neighbouring pair of the ascending order, whether the two compare equal.
def ties (l : List α) : List Bool :=
  let sorted := l.mergeSort fun a b => (compare a b).isLE
  (sorted.zip sorted.tail).map fun p => compare p.1 p.2 == .eq

theorem mem_insert [Std.LawfulEqOrd α] {a x : α} {l : List α} :
    x ∈ insert a l ↔ x = a ∨ x ∈ l := by
  induction l with
  | nil => simp [insert]
  | cons b l ih =>
    simp only [insert]
    split
    case h_1 => simp
    case h_2 h =>
      obtain rfl := Std.compare_eq_iff_eq.mp h
      simp
    case h_3 => simp [ih, or_left_comm]

end Rulebook.Sorted
