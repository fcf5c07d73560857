import Rulebook.Exchange.Model
import Rulebook.Proofs.Json.Record
import Rulebook.Proofs.Path

-- What has passed the checks of its constructor, and what is read from JSON, which has passed them
-- as well.

namespace Rulebook

open Json

namespace Predicate

theorem arity_lt_of_ofJson {j : Json} {p : Predicate} (h : ofJson j = .ok p) :
    p.arity < UInt64.size := by
  obtain ⟨s, hs, h⟩ := bind_eq_ok h
  obtain ⟨name, hname, h⟩ := bind_eq_ok h
  obtain ⟨n, hn, h⟩ := bind_eq_ok h
  obtain rfl := Except.ok.inj h
  have hs : ∀ n ∈ s.arity, n < UInt64.size := by
    refine asRecord_invariant (I := fun s : Slots => ∀ n ∈ s.arity, n < UInt64.size)
      ?_ (by simp) hs
    simp only [fields, List.mem_cons, List.not_mem_nil, or_false, forall_eq_or_imp,
      forall_eq]
    refine ⟨fun v s s' hi hread => ?_, fun v s s' hi hread => ?_⟩
    · obtain ⟨a, -, rfl⟩ := slot_read_eq_ok hread
      exact hi
    · obtain ⟨a, ha, rfl⟩ := slot_read_eq_ok hread
      simpa using lt_of_asNat_eq_ok ha
  exact hs n (required_eq_ok hn)

end Predicate

namespace Atom

-- The atom has passed the checks.
def Checked (a : Atom) : Prop :=
  new a.name a.terms = .ok a

instance (a : Atom) : Decidable a.Checked :=
  inferInstanceAs (Decidable (new a.name a.terms = .ok a))

theorem checked_of_new {name : String} {terms : List Term} {a : Atom}
    (h : new name terms = .ok a) : a.Checked := by
  have hnew := h
  unfold new at h
  split at h
  · cases h
  · split at h
    · cases h
    · obtain rfl := Except.ok.inj h
      exact hnew

theorem Checked.named {a : Atom} (h : a.Checked) : ∀ t ∈ a.terms, t.hasEmptyName = false := by
  unfold Checked new at h
  split at h
  · cases h
  · split at h
    next => cases h
    next hterms => simpa using hterms

theorem checked_of_ofJson {j : Json} {a : Atom} (h : ofJson j = .ok a) : a.Checked := by
  obtain ⟨s, hs, h⟩ := bind_eq_ok h
  obtain ⟨name, hname, h⟩ := bind_eq_ok h
  obtain ⟨terms, hterms, h⟩ := bind_eq_ok h
  exact checked_of_new (checked_eq_ok h)

end Atom

namespace Literal

theorem checked_of_ofJson {j : Json} {b : Literal} (h : ofJson j = .ok b) :
    b.atom.Checked := by
  obtain ⟨choice, hchoice, v, hv⟩ := exists_of_asChoice_eq_ok h
  simp only [List.mem_cons, List.not_mem_nil, or_false] at hchoice
  rcases hchoice with rfl | rfl
  · obtain ⟨a, ha, rfl⟩ := map_eq_ok hv
    exact Atom.checked_of_ofJson ha
  · obtain ⟨a, ha, rfl⟩ := map_eq_ok hv
    exact Atom.checked_of_ofJson ha

end Literal

namespace Fact

theorem atom_of_new {a : Atom} {f : Fact} (h : new a = .ok f) : f.atom = a := by
  unfold new at h
  split at h
  · obtain rfl := Except.ok.inj h
    rfl
  · cases h

theorem checked_of_ofJson {j : Json} {f : Fact} (h : ofJson j = .ok f) : f.atom.Checked := by
  obtain ⟨a, ha, h⟩ := bind_eq_ok h
  rw [atom_of_new (checked_eq_ok h)]
  exact Atom.checked_of_ofJson ha

end Fact

namespace Rule

-- All atoms of the rule have passed the checks.
structure Checked (r : Rule) : Prop where
  head : ∀ c ∈ r.head, ∀ a ∈ c, a.Checked
  body : ∀ c ∈ r.body, ∀ b ∈ c, b.atom.Checked

instance (r : Rule) : Decidable r.Checked :=
  decidable_of_iff
    ((∀ c ∈ r.head, ∀ a ∈ c, a.Checked) ∧ ∀ c ∈ r.body, ∀ b ∈ c, b.atom.Checked)
    ⟨fun h => ⟨h.1, h.2⟩, fun h => ⟨h.head, h.body⟩⟩

theorem parts_of_new {head : List (List Atom)} {body : List (List Literal)} {r : Rule}
    (h : new head body = .ok r) : r.head = head ∧ r.body = body := by
  unfold new at h
  split at h
  · split at h
    · obtain rfl := Except.ok.inj h
      exact ⟨rfl, rfl⟩
    · cases h
  · cases h

theorem checked_of_ofJson {j : Json} {r : Rule} (h : ofJson j = .ok r) : r.Checked := by
  obtain ⟨s, hs, h⟩ := bind_eq_ok h
  obtain ⟨head, hhead, h⟩ := bind_eq_ok h
  obtain ⟨body, hbody, h⟩ := bind_eq_ok h
  obtain ⟨rfl, rfl⟩ := parts_of_new (checked_eq_ok h)
  let I (s : Slots) : Prop :=
    (∀ head ∈ s.head, ∀ c ∈ head, ∀ a ∈ c, a.Checked) ∧
      ∀ body ∈ s.body, ∀ c ∈ body, ∀ b ∈ c, b.atom.Checked
  have hi : I s := by
    refine asRecord_invariant ?_ ⟨by simp, by simp⟩ hs
    simp only [fields, List.mem_cons, List.not_mem_nil, or_false, forall_eq_or_imp, forall_eq]
    refine ⟨fun v s s' hi hread => ?_, fun v s s' hi hread => ?_⟩
    · obtain ⟨head, hhead, rfl⟩ := slot_read_eq_ok hread
      refine ⟨?_, hi.2⟩
      rintro _ ⟨⟩ c hc a ha
      obtain ⟨v, hv⟩ := exists_of_asList_eq_ok hhead c hc
      obtain ⟨v, hv⟩ := exists_of_asList_eq_ok hv a ha
      exact Atom.checked_of_ofJson hv
    · obtain ⟨body, hbody, rfl⟩ := slot_read_eq_ok hread
      refine ⟨hi.1, ?_⟩
      rintro _ ⟨⟩ c hc b hb
      obtain ⟨v, hv⟩ := exists_of_asList_eq_ok hbody c hc
      obtain ⟨v, hv⟩ := exists_of_asList_eq_ok hv b hb
      exact Literal.checked_of_ofJson hv
  exact ⟨hi.1 _ (required_eq_ok hhead), hi.2 _ (required_eq_ok hbody)⟩

end Rule

namespace DataSource

-- The path of a file is text. Only such a source can be written.
def IsText : DataSource → Prop
  | csvFile path | rdfFile path => path.IsText
  | sparqlQuery _ _ _ => True

theorem isText_of_pathOfJson {j : Json} {p : Path} (h : pathOfJson j = .ok p) : p.IsText := by
  obtain ⟨s, -, h⟩ := bind_eq_ok h
  obtain ⟨text, -, h⟩ := bind_eq_ok h
  obtain rfl := Except.ok.inj h
  exact Path.isText_ofText text

theorem isText_of_ofJson {j : Json} {s : DataSource} (h : ofJson j = .ok s) : s.IsText := by
  obtain ⟨choice, hchoice, v, hv⟩ := exists_of_asChoice_eq_ok h
  simp only [List.mem_cons, List.not_mem_nil, or_false] at hchoice
  rcases hchoice with rfl | rfl | rfl
  · obtain ⟨p, hp, rfl⟩ := map_eq_ok hv
    exact isText_of_pathOfJson hp
  · obtain ⟨p, hp, rfl⟩ := map_eq_ok hv
    exact isText_of_pathOfJson hp
  · obtain ⟨q, -, hv⟩ := bind_eq_ok hv
    obtain ⟨endpoint, -, hv⟩ := bind_eq_ok hv
    obtain ⟨selection, -, hv⟩ := bind_eq_ok hv
    obtain ⟨query, -, hv⟩ := bind_eq_ok hv
    obtain rfl := Except.ok.inj hv
    trivial

end DataSource

namespace Declaration

theorem of_ofJson {j : Json} {d : Declaration} (h : ofJson j = .ok d) :
    d.predicate.arity < UInt64.size ∧ ∀ s ∈ d.source, s.IsText := by
  obtain ⟨s, hs, h⟩ := bind_eq_ok h
  obtain ⟨p, hp, h⟩ := bind_eq_ok h
  obtain rfl := Except.ok.inj h
  let I (s : Slots) : Prop :=
    (∀ p ∈ s.predicate, p.arity < UInt64.size) ∧ ∀ source ∈ s.source.join, source.IsText
  have hi : I s := by
    refine asRecord_invariant ?_ ⟨by simp, by simp⟩ hs
    simp only [fields, List.mem_cons, List.not_mem_nil, or_false, forall_eq_or_imp, forall_eq]
    refine ⟨fun v s s' hi hread => ?_, fun v s s' hi hread => ?_⟩
    · obtain ⟨p, hp, rfl⟩ := slot_read_eq_ok hread
      exact ⟨by simpa using Predicate.arity_lt_of_ofJson hp, hi.2⟩
    · obtain ⟨source, hsource, rfl⟩ := slot_read_eq_ok hread
      refine ⟨hi.1, fun source' hmem => ?_⟩
      obtain rfl : source = some source' := hmem
      unfold asOption at hsource
      split at hsource
      · cases hsource
      · obtain ⟨_, hread, hsome⟩ := map_eq_ok hsource
        exact Option.some.inj hsome ▸ DataSource.isText_of_ofJson hread
  exact ⟨hi.1 p (required_eq_ok hp), hi.2⟩

end Declaration

namespace Statement

-- All atoms of the statement have passed the checks, and a declared arity is a machine word.
def Checked : Statement → Prop
  | fact f => f.atom.Checked
  | rule r => r.Checked
  | dataSource d => d.predicate.arity < UInt64.size

instance : DecidablePred Checked
  | fact f => inferInstanceAs (Decidable f.atom.Checked)
  | rule r => inferInstanceAs (Decidable r.Checked)
  | dataSource d => inferInstanceAs (Decidable (d.predicate.arity < UInt64.size))

-- The path of a declared file is text.
def IsText : Statement → Prop
  | dataSource d => ∀ s ∈ d.source, s.IsText
  | _ => True

theorem checked_of_ofJson {j : Json} {s : Statement} (h : ofJson j = .ok s) : s.Checked := by
  obtain ⟨choice, hchoice, v, hv⟩ := exists_of_asChoice_eq_ok h
  simp only [List.mem_cons, List.not_mem_nil, or_false] at hchoice
  rcases hchoice with rfl | rfl | rfl
  · obtain ⟨f, hf, rfl⟩ := map_eq_ok hv
    exact Fact.checked_of_ofJson hf
  · obtain ⟨r, hr, rfl⟩ := map_eq_ok hv
    exact Rule.checked_of_ofJson hr
  · obtain ⟨d, hd, rfl⟩ := map_eq_ok hv
    exact (Declaration.of_ofJson hd).1

theorem isText_of_ofJson {j : Json} {s : Statement} (h : ofJson j = .ok s) : s.IsText := by
  obtain ⟨choice, hchoice, v, hv⟩ := exists_of_asChoice_eq_ok h
  simp only [List.mem_cons, List.not_mem_nil, or_false] at hchoice
  rcases hchoice with rfl | rfl | rfl
  · obtain ⟨f, -, rfl⟩ := map_eq_ok hv
    trivial
  · obtain ⟨r, -, rfl⟩ := map_eq_ok hv
    trivial
  · obtain ⟨d, hd, rfl⟩ := map_eq_ok hv
    exact (Declaration.of_ofJson hd).2

-- The statement was made by the constructors that check, or it was read from JSON.
inductive Made : Statement → Prop
  | fact {name : String} {terms : List Term} {a : Atom} {f : Fact}
      (hatom : Atom.new name terms = .ok a) (hfact : Fact.new a = .ok f) : Made (.fact f)
  | rule {head : List (List Atom)} {body : List (List Literal)} {r : Rule}
      (hhead : ∀ c ∈ head, ∀ a ∈ c, ∃ name terms, Atom.new name terms = .ok a)
      (hbody : ∀ c ∈ body, ∀ b ∈ c, ∃ name terms, Atom.new name terms = .ok b.atom)
      (hrule : Rule.new head body = .ok r) : Made (.rule r)
  | dataSource {d : Declaration} (harity : d.predicate.arity < UInt64.size) : Made (.dataSource d)
  | decoded {j : Json} {s : Statement} (h : Statement.ofJson j = .ok s) : Made s

theorem Made.checked {s : Statement} (h : s.Made) : s.Checked := by
  cases h with
  | fact hatom hfact =>
    obtain rfl := Fact.atom_of_new hfact
    exact Atom.checked_of_new hatom
  | rule hhead hbody hrule =>
    obtain ⟨rfl, rfl⟩ := Rule.parts_of_new hrule
    refine ⟨fun c hc a ha => ?_, fun c hc b hb => ?_⟩
    · obtain ⟨name, terms, hnew⟩ := hhead c hc a ha
      exact Atom.checked_of_new hnew
    · obtain ⟨name, terms, hnew⟩ := hbody c hc b hb
      exact Atom.checked_of_new hnew
  | dataSource harity => exact harity
  | decoded h => exact checked_of_ofJson h

-- Nothing else has passed the checks.
theorem made_iff_checked {s : Statement} : s.Made ↔ s.Checked := by
  refine ⟨Made.checked, fun h => ?_⟩
  cases s with
  | fact f => exact .fact h (dif_pos f.ground)
  | rule r =>
    have hnew : Rule.new r.head r.body = .ok r := by
      rw [Rule.new, dif_pos r.head_nonempty, dif_pos r.body_nonempty]
    exact .rule (fun c hc a ha => ⟨_, _, h.head c hc a ha⟩)
      (fun c hc b hb => ⟨_, _, h.body c hc b hb⟩) hnew
  | dataSource d => exact .dataSource h

end Statement

end Rulebook
