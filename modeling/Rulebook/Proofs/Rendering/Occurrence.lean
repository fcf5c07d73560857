import Rulebook.Solver.Rendering

namespace Rulebook

-- The existential variable is among the terms of the atom.
def Atom.mentions (z : String) (a : Atom) : Bool :=
  Term.existential z ∈ a.terms

theorem Atom.mentions_iff {z : String} {a : Atom} :
    a.mentions z = true ↔ .existential z ∈ a.terms :=
  decide_eq_true_iff

namespace Rendering

-- An atom as a solver reads it.
structure AtomText where
  name : String
  terms : List String
  deriving DecidableEq

def AtomText.text (a : AtomText) : String :=
  a.name ++ "(" ++ ", ".intercalate a.terms ++ ")"

-- What a solver reads of a line.
inductive LineText
  | blank
  | fact (atom : AtomText)
  | rule (head body : List (List AtomText))
  deriving DecidableEq

-- A line with some head and some body.
def clause (head body : String) : String :=
  head ++ " :- " ++ body ++ " ."

def LineText.text : LineText → String
  | blank => ""
  | fact a => a.text ++ " ."
  | rule head body =>
    clause (disjunctionText AtomText.text head) (disjunctionText AtomText.text body)

-- Rendering without a state: it is known beforehand what stands for each existential variable.

def termText (value : String → String) : Term → String
  | .existential z => value z
  | t => sanitize t.name

def atomText (value : String → String) (a : Atom) : AtomText :=
  ⟨sanitize a.name, a.terms.map (termText value)⟩

def ruleText (value : String → String) (head body : List (List Atom)) : LineText :=
  .rule (head.map (·.map (atomText value))) (body.map (·.map (atomText value)))

-- The lines of a rule.
def ruleTexts (solver : Solver) (value : String → String) (r : Rule) : List LineText :=
  (heads solver r.head).map fun head => ruleText value head (positivePart r.body)

-- The atoms of a rule in the order in which they are rendered.
def visited (solver : Solver) (r : Rule) : List Atom :=
  (heads solver r.head).flatMap fun head => head.flatten ++ (positivePart r.body).flatten

-- Where the head is no single conjunction, DLV is given what clingo is given.
theorem heads_eq_singleton {solver : Solver} {head : List (List Atom)}
    (h : solver = .clingo ∨ head.length ≠ 1) : heads solver head = [head] := by
  unfold heads
  split
  next => simp at h
  next => rfl

theorem heads_dlv {head : List (List Atom)} {conjunction : List Atom} (h : head = [conjunction]) :
    heads .dlv head = conjunction.map fun a => [[a]] := by
  rw [h, heads]

theorem visited_eq {solver : Solver} {r : Rule} (h : solver = .clingo ∨ r.head.length ≠ 1) :
    visited solver r = r.head.flatten ++ (positivePart r.body).flatten := by
  rw [visited, heads_eq_singleton h, List.flatMap_singleton]

-- The body is visited again behind each atom of the head.
theorem visited_dlv {r : Rule} {conjunction : List Atom} (h : r.head = [conjunction]) :
    visited .dlv r = conjunction.flatMap fun a => a :: (positivePart r.body).flatten := by
  rw [visited, heads_dlv h, List.flatMap_map]
  rfl

-- The first atom with an existential variable says what stands for it.
def skolemText (line : Nat) (atoms : List Atom) (z : String) : String :=
  match atoms.find? (·.mentions z) with
  | some a => skolemTerm line a.terms
  | none => ""

-- An existential variable with the terms that it is met among.
abbrev Occurrence := String × List Term

def occurrenceOf (terms : List Term) : Term → List Occurrence
  | .existential z => [(z, terms)]
  | _ => []

def occurrences (a : Atom) : List Occurrence :=
  a.terms.flatMap (occurrenceOf a.terms)

theorem lookup_occurrenceOf (z : String) (terms l : List Term) :
    (l.flatMap (occurrenceOf terms)).lookup z =
      if Term.existential z ∈ l then some terms else none := by
  induction l with
  | nil => rfl
  | cons t l ih =>
    rw [List.flatMap_cons, List.lookup_append, ih]
    cases t with
    | existential y =>
      by_cases hy : z = y
      · simp [occurrenceOf, hy]
      · simp [occurrenceOf, List.lookup_cons, hy, beq_eq_false_iff_ne.mpr hy]
    | constant | universal | langString => simp [occurrenceOf]

-- The first occurrence of a variable is in the first atom that mentions it.
theorem lookup_occurrences (z : String) (atoms : List Atom) :
    (atoms.flatMap occurrences).lookup z =
      (atoms.find? (·.mentions z)).map Atom.terms := by
  induction atoms with
  | nil => rfl
  | cons a atoms ih =>
    rw [List.flatMap_cons, List.lookup_append, ih, occurrences, lookup_occurrenceOf]
    by_cases hz : Term.existential z ∈ a.terms <;> simp [Atom.mentions, hz]

variable {line : Nat}

-- What stands for a variable, by the occurrences.
def valueIn (line : Nat) (met : List Occurrence) (z : String) : String :=
  ((met.lookup z).map (skolemTerm line)).getD ""

theorem valueIn_occurrences (line : Nat) (atoms : List Atom) :
    valueIn line (atoms.flatMap occurrences) = skolemText line atoms := by
  funext z
  rw [valueIn, lookup_occurrences, skolemText]
  cases atoms.find? (·.mentions z) <;> rfl

-- The variables met so far have their texts from where they were met first.
structure Knows (line : Nat) (met : List Occurrence) (s : Skolems) : Prop where
  line_eq : s.line = line
  lookup_eq : ∀ z, s.known.lookup z = (met.lookup z).map (skolemTerm line)

theorem knows_start (index : Nat) : Knows (lineNumber index) [] (.start index) :=
  ⟨rfl, fun _ => rfl⟩

-- A visit meets some occurrences. What it gives is told by all occurrences up to its end, and
-- later ones change nothing about it.
def Meets {α : Type} (line : Nat) (met : List Occurrence) (visit : Skolems → α × Skolems)
    (result : (String → String) → α) : Prop :=
  ∀ before after s, Knows line before s →
    Knows line (before ++ met) (visit s).2 ∧
      (visit s).1 = result (valueIn line (before ++ met ++ after))

namespace Meets

variable {α β γ : Type}

theorem skolemize (terms : List Term) (z : String) :
    Meets line [(z, terms)] (skolemize terms z) fun value => value z := by
  rintro before after s ⟨rfl, hknown⟩
  have hz := hknown z
  cases hb : before.lookup z with
  | some found =>
    rw [hb] at hz
    simp only [Rendering.skolemize, hz, Option.map_some]
    refine ⟨⟨rfl, fun w => ?_⟩, ?_⟩
    · rw [hknown, List.lookup_append]
      by_cases hw : w = z
      · simp [hw, hb]
      · simp [List.lookup_cons, beq_eq_false_iff_ne.mpr hw]
    · simp [valueIn, List.lookup_append, hb]
  | none =>
    rw [hb] at hz
    simp only [Rendering.skolemize, hz, Option.map_none]
    refine ⟨⟨rfl, fun w => ?_⟩, ?_⟩
    · rw [List.lookup_cons, List.lookup_append]
      by_cases hw : w = z
      · simp [hw, hb]
      · simp [List.lookup_cons, beq_eq_false_iff_ne.mpr hw, hknown]
    · simp [valueIn, List.lookup_append, hb]

theorem pure (a : α) : Meets line [] (fun s => (a, s)) fun _ => a := by
  intro before after s hs
  simpa using hs

theorem map {met : List Occurrence} {visit : Skolems → α × Skolems}
    {result : (String → String) → α} (h : Meets line met visit result) (f : α → β) :
    Meets line met (fun s => (f (visit s).1, (visit s).2)) fun value => f (result value) :=
  fun before after s hs => ⟨(h before after s hs).1, congrArg f (h before after s hs).2⟩

-- One visit after the other.
theorem append {met met' : List Occurrence} {visit : Skolems → α × Skolems}
    {visit' : Skolems → β × Skolems} {result : (String → String) → α}
    {result' : (String → String) → β} (h : Meets line met visit result)
    (h' : Meets line met' visit' result') (f : α → β → γ) :
    Meets line (met ++ met')
      (fun s => (f (visit s).1 (visit' (visit s).2).1, (visit' (visit s).2).2))
      fun value => f (result value) (result' value) := by
  intro before after s hs
  obtain ⟨hs, hfirst⟩ := h before (met' ++ after) s hs
  obtain ⟨hs, hsecond⟩ := h' (before ++ met) after _ hs
  refine ⟨by rwa [← List.append_assoc], ?_⟩
  simp only [hfirst, hsecond, List.append_assoc]

theorem thread {met : α → List Occurrence} {visit : α → Skolems → β × Skolems}
    {result : α → (String → String) → β} {l : List α}
    (h : ∀ a ∈ l, Meets line (met a) (visit a) (result a)) :
    Meets line (l.flatMap met) (thread visit l) fun value => l.map fun a => result a value := by
  induction l with
  | nil => exact pure []
  | cons a l ih =>
    have ih := ih fun b hb => h b (List.mem_cons_of_mem a hb)
    exact (h a List.mem_cons_self).append ih List.cons

-- Each part of a line is its text without a state.

theorem term (terms : List Term) (t : Term) :
    Meets line (occurrenceOf terms t) (term terms t) fun value => termText value t := by
  cases t with
  | existential z => exact skolemize terms z
  | constant | universal | langString => exact pure _

theorem atom (a : Atom) :
    Meets line (occurrences a) (atom a) fun value => (atomText value a).text :=
  (thread fun t _ => term a.terms t).map
    fun texts => sanitize a.name ++ "(" ++ ", ".intercalate texts ++ ")"

theorem conjunction (atoms : List Atom) :
    Meets line (atoms.flatMap occurrences) (conjunction atoms)
      fun value => ", ".intercalate (atoms.map fun a => (atomText value a).text) :=
  (thread fun a _ => atom a).map (", ".intercalate ·)

theorem disjunction (disjuncts : List (List Atom)) :
    Meets line (disjuncts.flatten.flatMap occurrences) (disjunction disjuncts)
      fun value => disjunctionText AtomText.text (disjuncts.map (·.map (atomText value))) := by
  have hmet : disjuncts.flatten.flatMap occurrences =
      disjuncts.flatMap (·.flatMap occurrences) := by
    rw [List.flatten_eq_flatMap, List.flatMap_assoc]
    rfl
  simp only [hmet, disjunctionText, List.map_map, Function.comp_def]
  exact (thread fun c _ => conjunction c).map (" | ".intercalate ·)

theorem ruleLine (head : List (List Atom)) (body : List (List Literal)) :
    Meets line ((head.flatten ++ (positivePart body).flatten).flatMap occurrences)
      (ruleLine head body) fun value => (ruleText value head (positivePart body)).text := by
  rw [List.flatMap_append]
  exact (disjunction head).append (disjunction (positivePart body)) clause

end Meets

-- A rule is rendered as if it had been known from the start what stands for each variable.
theorem rule_eq_ruleTexts (solver : Solver) (r : Rule) (index : Nat) :
    rule solver r (.start index) = "\n".intercalate
      ((ruleTexts solver (skolemText (lineNumber index) (visited solver r)) r).map
        LineText.text) := by
  have hmeets : Meets (lineNumber index) _
      (thread (fun head s => ruleLine head r.body s) (heads solver r.head)) _ :=
    .thread fun head _ => .ruleLine head r.body
  rw [rule, (hmeets [] [] _ (knows_start index)).2]
  simp only [List.nil_append, List.append_nil, ← List.flatMap_assoc, ruleTexts, List.map_map]
  rw [← visited, valueIn_occurrences]
  rfl

-- For clingo there is one line for each statement.
def lineText (index : Nat) : Statement → LineText
  | .fact f => .fact (atomText (skolemText (lineNumber index) [f.atom]) f.atom)
  | .rule r =>
    ruleText (skolemText (lineNumber index) (visited .clingo r)) r.head (positivePart r.body)
  | .dataSource _ => .blank

theorem statement_clingo (index : Nat) (s : Statement) :
    statement .clingo index s = (lineText index s).text := by
  cases s with
  | fact f =>
    have hmeets : Meets (lineNumber index) _ (atom f.atom) _ := .atom f.atom
    have hvalue := valueIn_occurrences (lineNumber index) [f.atom]
    rw [List.flatMap_singleton] at hvalue
    rw [statement, (hmeets [] [] _ (knows_start index)).2, List.nil_append, List.append_nil, hvalue]
    rfl
  | rule r => exact rule_eq_ruleTexts .clingo r index
  | dataSource d => rfl

end Rendering

end Rulebook
