import Rulebook.Proofs.Exchange.Checked
import Rulebook.Proofs.Naming
import Rulebook.Proofs.Rendering.Occurrence
import Mathlib.Data.List.Basic

-- What can be read off the texts that solvers are given.

namespace Rulebook.Rendering

theorem intercalate_cons (sep part : List Char) (parts : List (List Char)) :
    sep.intercalate (part :: parts) = part ++ parts.flatMap (sep ++ ·) := by
  induction parts generalizing part with
  | nil => simp
  | cons next parts ih =>
    rw [List.intercalate_cons_cons, ih, List.flatMap_cons, List.append_assoc, List.append_assoc]

-- A code that can be read off the front of a text, if what comes after it is of some kind.
def Legible {α : Type} (Part : α → Prop) (code : α → List Char) (After : List Char → Prop) : Prop :=
  ∀ ⦃a b⦄, Part a → Part b → ∀ ⦃u v⦄, After u → After v → code a ++ u = code b ++ v →
    a = b ∧ u = v

namespace Legible

variable {α : Type} {Part : α → Prop} {code : α → List Char} {After : List Char → Prop}

theorem mono {After' : List Char → Prop} (h : Legible Part code After)
    (hafter : ∀ u, After' u → After u) : Legible Part code After' :=
  fun _ _ ha hb _ _ hu hv => h ha hb (hafter _ hu) (hafter _ hv)

-- The parts of a list after the first, each behind a separator.
private theorem tail {sep : List Char} (h : Legible Part code After)
    (hafter : ∀ (l : List α) u, After u → After (l.flatMap (sep ++ code ·) ++ u)) :
    Legible (fun l : List α => ∀ a ∈ l, Part a) (fun l => l.flatMap (sep ++ code ·))
      fun u => After u ∧ ¬sep <+: u := by
  intro l
  induction l with
  | nil =>
    rintro (_ | ⟨b, m⟩) - hm u v ⟨-, hu⟩ - he
    · exact ⟨rfl, he⟩
    · refine absurd ⟨code b ++ (m.flatMap (sep ++ code ·) ++ v), ?_⟩ hu
      simpa [List.append_assoc] using he.symm
  | cons a l ih =>
    rintro (_ | ⟨b, m⟩) hl hm u v hu hv he
    · refine absurd ⟨code a ++ (l.flatMap (sep ++ code ·) ++ u), ?_⟩ hv.2
      simpa [List.append_assoc] using he
    · simp only [List.flatMap_cons, List.append_assoc, List.append_cancel_left_eq] at he
      obtain ⟨rfl, hrest⟩ := h (hl a List.mem_cons_self) (hm b List.mem_cons_self)
        (hafter l u hu.1) (hafter m v hv.1) he
      obtain ⟨rfl, huv⟩ := ih (fun c hc => hl c (List.mem_cons_of_mem _ hc))
        (fun c hc => hm c (List.mem_cons_of_mem _ hc)) hu hv hrest
      exact ⟨rfl, huv⟩

-- Parts with separators between them. A list without parts must not look like one with some.
theorem joined {sep : List Char} {Parts : List α → Prop} (h : Legible Part code After)
    (hsep : ∀ u, After (sep ++ u)) (hparts : ∀ l, Parts l → ∀ a ∈ l, Part a)
    (hnil : Parts [] → ∀ a, Part a → ∀ u, ¬After (code a ++ u)) :
    Legible Parts (fun l => sep.intercalate (l.map code)) fun u => After u ∧ ¬sep <+: u := by
  have hafter (l : List α) (u : List Char) (hu : After u) :
      After (l.flatMap (sep ++ code ·) ++ u) := by
    cases l with
    | nil => exact hu
    | cons a l => simpa [List.append_assoc] using hsep _
  rintro (_ | ⟨a, l⟩) (_ | ⟨b, m⟩) hl hm u v hu hv he
  · exact ⟨rfl, he⟩
  · simp only [List.map_nil, List.map_cons, intercalate_cons, List.append_assoc,
      List.intercalate_nil, List.nil_append] at he
    exact absurd (he ▸ hu.1) (hnil hl b (hparts _ hm b List.mem_cons_self) _)
  · simp only [List.map_nil, List.map_cons, intercalate_cons, List.append_assoc,
      List.intercalate_nil, List.nil_append] at he
    exact absurd (he ▸ hv.1) (hnil hm a (hparts _ hl a List.mem_cons_self) _)
  · simp only [List.map_cons, intercalate_cons, List.flatMap_map, List.append_assoc] at he
    obtain ⟨rfl, hrest⟩ := h (hparts _ hl a List.mem_cons_self) (hparts _ hm b List.mem_cons_self)
      (hafter l u hu.1) (hafter m v hv.1) he
    obtain ⟨rfl, huv⟩ := h.tail hafter (fun c hc => hparts _ hl c (List.mem_cons_of_mem _ hc))
      (fun c hc => hparts _ hm c (List.mem_cons_of_mem _ hc)) hu hv hrest
    exact ⟨rfl, huv⟩

end Legible

-- The text goes on with one of some characters.
def Next (cs : List Char) (u : List Char) : Prop :=
  ∃ c ∈ cs, ∃ w, u = c :: w

theorem Next.mono {cs ds : List Char} {u : List Char} (h : Next cs u) (hsub : cs ⊆ ds) :
    Next ds u := by
  obtain ⟨c, hc, w, rfl⟩ := h
  exact ⟨c, hsub hc, w, rfl⟩

-- The characters of identifiers.
def isWordChar (c : Char) : Bool :=
  c.isAlphanum || c == '_'

def IsWord (u : List Char) : Prop :=
  ∀ c ∈ u, isWordChar c = true

theorem isWord_sanitize (name : String) : IsWord (sanitize name).toList := by
  intro c hc
  simp only [sanitize, String.toList_ofList, List.mem_map] at hc
  obtain ⟨d, -, rfl⟩ := hc
  unfold isWordChar
  split <;> simp_all

theorem IsWord.not_next {f : List Char} (hf : IsWord f) (hne : f ≠ []) {cs : List Char}
    (hcs : cs.any isWordChar = false) (u : List Char) : ¬Next cs (f ++ u) := by
  rintro ⟨c, hc, w, he⟩
  obtain ⟨d, f, rfl⟩ := List.exists_cons_of_ne_nil hne
  obtain ⟨rfl, -⟩ := List.cons.inj he
  exact List.any_eq_false.mp hcs d hc (hf d List.mem_cons_self)

theorem legible_word :
    Legible IsWord id fun u => ∃ c w, u = c :: w ∧ isWordChar c = false := by
  rintro u v hu hv _ _ ⟨c, w, rfl, hc⟩ ⟨d, x, rfl, hd⟩ he
  have hstop {u : List Char} {c : Char} {w : List Char} (hu : IsWord u)
      (hc : isWordChar c = false) : (u ++ c :: w).takeWhile isWordChar = u := by
    rw [List.takeWhile_append_of_pos hu]
    simp [hc]
  have huv : u = v := by
    have h := congrArg (List.takeWhile isWordChar) he
    rwa [id, id, hstop hu hc, hstop hv hd] at h
  subst huv
  exact ⟨rfl, List.append_cancel_left he⟩

-- A rendered term is a word, or a word applied to a word.
inductive IsTerm : List Char → Prop
  | word {u : List Char} (hne : u ≠ []) (hu : IsWord u) : IsTerm u
  | call {f u : List Char} (hne : f ≠ []) (hf : IsWord f) (hu : IsWord u) :
    IsTerm (f ++ '(' :: (u ++ [')']))

theorem IsTerm.not_next {t : List Char} (h : IsTerm t) (u : List Char) :
    ¬Next [',', ')'] (t ++ u) := by
  cases h with
  | word hne hu => exact hu.not_next hne rfl u
  | call hne hf =>
    rw [List.append_assoc]
    exact hf.not_next hne rfl _

theorem legible_term :
    Legible (fun t : String => IsTerm t.toList) String.toList (Next [',', ')']) := by
  have hend {u : List Char} (hu : Next [',', ')'] u) :
      ∃ c w, u = c :: w ∧ isWordChar c = false ∧ c ≠ '(' := by
    obtain ⟨c, hc, w, rfl⟩ := hu
    refine ⟨c, w, rfl, ?_⟩
    simp only [List.mem_cons, List.not_mem_nil, or_false] at hc
    rcases hc with rfl | rfl <;> decide
  -- A word is not the beginning of a call.
  have hword {u f r v w : List Char} (hu : IsWord u) (hf : IsWord f) (hv : Next [',', ')'] v)
      (he : u ++ v = f ++ '(' :: (r ++ [')']) ++ w) : False := by
    obtain ⟨c, x, rfl, hc, hne⟩ := hend hv
    have h := (legible_word hu hf ⟨c, x, rfl, hc⟩ ⟨'(', _, rfl, rfl⟩
      (by simpa [List.append_assoc] using he)).2
    exact hne (List.cons.inj h).1
  intro s t hs ht u v hu hv he
  obtain ⟨c, w, hcu, hc, -⟩ := hend hu
  obtain ⟨d, x, hdv, hd, -⟩ := hend hv
  suffices s.toList = t.toList ∧ u = v from ⟨String.toList_inj.mp this.1, this.2⟩
  generalize s.toList = s, t.toList = t at *
  cases hs with
  | word _ hs =>
    cases ht with
    | word _ ht => exact legible_word hs ht ⟨c, w, hcu, hc⟩ ⟨d, x, hdv, hd⟩ he
    | call _ hg ht => exact (hword hs hg hu he).elim
  | call _ hf hs =>
    cases ht with
    | word _ ht => exact (hword ht hf hv he.symm).elim
    | call _ hg ht =>
      simp only [List.append_assoc, List.cons_append, List.nil_append] at he
      obtain ⟨rfl, hrest⟩ := legible_word hf hg ⟨'(', _, rfl, rfl⟩ ⟨'(', _, rfl, rfl⟩ he
      obtain ⟨rfl, huv⟩ := legible_word hs ht ⟨')', _, rfl, rfl⟩ ⟨')', _, rfl, rfl⟩
        (List.cons.inj hrest).2
      exact ⟨rfl, (List.cons.inj huv).2⟩

-- The name and the terms of an atom are as they are rendered.
structure AtomText.Legal (a : AtomText) : Prop where
  name : IsWord a.name.toList
  terms : ∀ t ∈ a.terms, IsTerm t.toList

theorem AtomText.toList_text (a : AtomText) :
    a.text.toList =
      a.name.toList ++ '(' :: ((", ".intercalate a.terms).toList ++ [')']) := by
  simp [text]

private theorem not_prefix_of_next {c d : Char} {u w : List Char} (hu : Next [c] u) (hne : d ≠ c) :
    ¬d :: w <+: u := by
  obtain ⟨_, hc, v, rfl⟩ := hu
  obtain rfl := List.mem_singleton.mp hc
  rintro ⟨x, hx⟩
  exact hne (List.cons.inj hx).1

theorem legible_terms :
    Legible (fun l : List String => ∀ t ∈ l, IsTerm t.toList)
      (fun l => (", ".intercalate l).toList) (Next [')']) := by
  simp only [String.toList_intercalate]
  refine (legible_term.joined (fun u => ⟨',', by simp, ' ' :: u, rfl⟩) (fun l hl => hl)
    fun _ t ht u => ht.not_next u).mono fun u hu => ⟨?_, not_prefix_of_next hu (by decide)⟩
  exact hu.mono (by simp)

theorem legible_atom :
    Legible AtomText.Legal (fun a => a.text.toList) fun _ => True := by
  rintro a b ha hb u v - - he
  simp only [AtomText.toList_text, List.append_assoc, List.cons_append, List.nil_append] at he
  obtain ⟨hname, hrest⟩ := legible_word ha.name hb.name ⟨'(', _, rfl, rfl⟩ ⟨'(', _, rfl, rfl⟩ he
  obtain ⟨hterms, huv⟩ := legible_terms ha.terms hb.terms ⟨')', by simp, _, rfl⟩
    ⟨')', by simp, _, rfl⟩ (List.cons.inj hrest).2
  cases a
  cases b
  simp_all [String.toList_inj]

-- An atom begins with a name or with a parenthesis.
private theorem AtomText.Legal.not_next {a : AtomText} (h : a.Legal) (u : List Char) :
    ¬Next [',', ' '] (a.text.toList ++ u) := by
  rw [a.toList_text, List.append_assoc]
  by_cases hname : a.name.toList = []
  · rw [hname]
    rintro ⟨c, hc, w, he⟩
    obtain ⟨rfl, -⟩ := List.cons.inj he
    simp at hc
  · exact h.name.not_next hname rfl _

theorem legible_conjunction :
    Legible (fun l : List AtomText => ∀ a ∈ l, a.Legal)
      (fun l => (", ".intercalate (l.map AtomText.text)).toList) (Next [' ']) := by
  have hatom : Legible AtomText.Legal (fun a => a.text.toList) (Next [',', ' ']) :=
    legible_atom.mono fun _ _ => trivial
  simp only [String.toList_intercalate, List.map_map, Function.comp_def]
  exact (hatom.joined (fun u => ⟨',', by simp, ' ' :: u, rfl⟩) (fun l hl => hl)
    fun _ a ha u => ha.not_next u).mono
      fun u hu => ⟨hu.mono (by simp), not_prefix_of_next hu (by decide)⟩

-- A side of a rule holds something to choose from.
structure LegalSide (d : List (List AtomText)) : Prop where
  ne_nil : d ≠ []
  atoms : ∀ c ∈ d, ∀ a ∈ c, a.Legal

theorem legible_disjunction :
    Legible LegalSide (fun d => (disjunctionText AtomText.text d).toList)
      fun u => Next [' '] u ∧ ¬" | ".toList <+: u := by
  simp only [disjunctionText, String.toList_intercalate (s := " | "), List.map_map,
    Function.comp_def]
  exact legible_conjunction.joined (fun u => ⟨' ', by simp, '|' :: ' ' :: u, rfl⟩)
    (fun d hd => hd.atoms) fun h => absurd rfl h.ne_nil

-- What follows a side is no further choice.
private theorem next_side (c : Char) (u : List Char) (hne : c ≠ '|') :
    Next [' '] (' ' :: c :: u) ∧ ¬" | ".toList <+: ' ' :: c :: u :=
  ⟨⟨' ', by simp, _, rfl⟩, fun ⟨_, hx⟩ => hne (List.cons.inj (List.cons.inj hx).2).1.symm⟩

theorem disjunctionText_inj {d d' : List (List AtomText)} (hd : LegalSide d) (hd' : LegalSide d')
    (h : disjunctionText AtomText.text d = disjunctionText AtomText.text d') : d = d' :=
  (legible_disjunction hd hd' (next_side '.' [] (by decide)) (next_side '.' [] (by decide))
    (congrArg (·.toList ++ [' ', '.']) h)).1

-- The characters of what stands on the two sides of a rule.
def isTextChar (c : Char) : Bool :=
  isWordChar c || c ∈ ['(', ')', ',', ' ', '|']

def IsText (u : List Char) : Prop :=
  ∀ c ∈ u, isTextChar c = true

instance (u : List Char) : Decidable (IsText u) :=
  decidable_of_iff (u.all isTextChar = true) (by simp [IsText])

theorem IsWord.isText {u : List Char} (h : IsWord u) : IsText u := by
  intro c hc
  simp [isTextChar, h c hc]

namespace IsText

theorem not_mem {u : List Char} (h : IsText u) {c : Char} (hc : isTextChar c = false) : c ∉ u :=
  fun hmem => Bool.false_ne_true (hc.symm.trans (h c hmem))

theorem append {u v : List Char} (hu : IsText u) (hv : IsText v) : IsText (u ++ v) :=
  fun c hc => (List.mem_append.mp hc).elim (hu c) (hv c)

theorem intercalate {sep : String} {texts : List String} (hsep : IsText sep.toList)
    (h : ∀ t ∈ texts, IsText t.toList) : IsText (sep.intercalate texts).toList := by
  rw [String.toList_intercalate]
  cases texts with
  | nil => simp [IsText]
  | cons t texts =>
    rw [List.map_cons, intercalate_cons]
    refine append (h t List.mem_cons_self) fun c hc => ?_
    obtain ⟨_, hnext, hc⟩ := List.mem_flatMap.mp hc
    obtain ⟨next, hmem, rfl⟩ := List.mem_map.mp hnext
    exact hsep.append (h next (List.mem_cons_of_mem _ hmem)) c hc

theorem term {t : List Char} (h : IsTerm t) : IsText t := by
  cases h with
  | word _ hu => exact hu.isText
  | call _ hf hu =>
    exact hf.isText.append (append (u := ['(']) (by decide) (hu.isText.append (by decide)))

theorem atom {a : AtomText} (h : a.Legal) : IsText a.text.toList := by
  have hterms : IsText (", ".intercalate a.terms).toList :=
    intercalate (by decide) fun t ht => term (h.terms t ht)
  rw [a.toList_text]
  exact h.name.isText.append (append (u := ['(']) (by decide) (hterms.append (by decide)))

theorem disjunction {d : List (List AtomText)} (h : LegalSide d) :
    IsText (disjunctionText AtomText.text d).toList := by
  refine intercalate (by decide) fun t ht => ?_
  obtain ⟨l, hl, rfl⟩ := List.mem_map.mp ht
  refine intercalate (by decide) fun t ht => ?_
  obtain ⟨a, ha, rfl⟩ := List.mem_map.mp ht
  exact atom (h.atoms l hl a ha)

end IsText

theorem toList_clause (head body : String) :
    (clause head body).toList =
      head.toList ++ ' ' :: ':' :: '-' :: ' ' :: (body.toList ++ [' ', '.']) := by
  simp [clause]

namespace LineText

-- The atoms of the line are legal, and a rule has two sides.
def Legal : LineText → Prop
  | blank => True
  | fact a => a.Legal
  | rule head body => LegalSide head ∧ LegalSide body

theorem text_inj {k l : LineText} (hk : k.Legal) (hl : l.Legal) (h : k.text = l.text) : k = l := by
  -- The atom of a fact, taken for a head, would not be followed by a body.
  have hfact {a : AtomText} {head body : List (List AtomText)} (ha : a.Legal)
      (hr : (rule head body).Legal) (he : (fact a).text = (rule head body).text) : False := by
    have ht : (fact a).text.toList =
        (disjunctionText AtomText.text [[a]]).toList ++ [' ', '.'] := by
      simp [text, disjunctionText]
    have he := congrArg String.toList he
    rw [ht, text, toList_clause] at he
    have hrest := (legible_disjunction ⟨by simp, by simpa using ha⟩ hr.1
      (next_side '.' _ (by decide)) (next_side ':' _ (by decide)) he).2
    exact absurd (List.cons.inj (List.cons.inj hrest).2).1 (by decide)
  have he := congrArg String.toList h
  cases k with
  | blank =>
    cases l with
    | blank => rfl
    | fact b => simp [text] at he
    | rule head body => simp [text, toList_clause] at he
  | fact a =>
    cases l with
    | blank => simp [text] at he
    | fact b =>
      simp only [text, String.toList_append] at he
      rw [(legible_atom hk hl trivial trivial he).1]
    | rule head body => exact (hfact hk hl h).elim
  | rule head body =>
    cases l with
    | blank => simp [text, toList_clause] at he
    | fact b => exact (hfact hl hk h.symm).elim
    | rule head' body' =>
      rw [text, text, toList_clause, toList_clause] at he
      obtain ⟨rfl, hrest⟩ := legible_disjunction hk.1 hl.1 (next_side ':' _ (by decide))
        (next_side ':' _ (by decide)) he
      have hbody := (List.append_cancel_left_eq [' ', ':', '-', ' '] _ _).mp hrest
      obtain ⟨rfl, -⟩ := legible_disjunction hk.2 hl.2 (next_side '.' _ (by decide))
        (next_side '.' _ (by decide)) hbody
      rfl

-- A line has no characters but those of its sides and of what separates and ends them.
theorem not_mem_text {l : LineText} (h : l.Legal) {c : Char} (hc : isTextChar c = false)
    (hmarks : c ∉ [':', '-', '.']) : c ∉ l.text.toList := by
  simp only [List.mem_cons, List.not_mem_nil, or_false, not_or] at hmarks
  have hblank : c ≠ ' ' := by
    rintro rfl
    cases hc
  cases l with
  | blank => simp [text]
  | fact a =>
    have hatom := (IsText.atom h).not_mem hc
    simp [text, hatom, hmarks, hblank]
  | rule head body =>
    have hhead := (IsText.disjunction h.1).not_mem hc
    have hbody := (IsText.disjunction h.2).not_mem hc
    simp [text, toList_clause, hhead, hbody, hmarks, hblank]

-- No line goes on in the next one.
theorem newline_not_mem {l : LineText} (h : l.Legal) : '\n' ∉ l.text.toList :=
  not_mem_text h rfl (by decide)

end LineText

-- The function that a line has for its variables.
theorem isAlphanum_of_mem_function {line : Nat} {c : Char}
    (h : c ∈ ("f" ++ toString line).toList) : c.isAlphanum = true := by
  rw [String.toList_append] at h
  rcases List.mem_append.mp h with h | h
  · rw [List.mem_singleton.mp h]
    rfl
  · simp [Char.isAlphanum, isDigit_of_mem_toString h]

-- What stands for a variable is a term.
theorem isTerm_skolemTerm (line : Nat) (terms : List Term) :
    IsTerm (skolemTerm line terms).toList := by
  have hname : IsWord ("f" ++ toString line).toList := fun c hc => by
    simp [isWordChar, isAlphanum_of_mem_function hc]
  unfold skolemTerm
  split
  next u _ =>
    have h := IsTerm.call (by simp) hname (isWord_sanitize u.name)
    simpa [String.toList_append] using h
  next => exact .word (by simp) hname

theorem isTerm_sanitize_name {t : Term} (h : t.hasEmptyName = false) :
    IsTerm (sanitize t.name).toList := by
  have hname : t.name.toList ≠ [] := by
    cases t <;> simp_all [Term.hasEmptyName, Term.name]
  exact .word (by simpa [sanitize] using hname) (isWord_sanitize t.name)

theorem legal_atomText {value : String → String} {a : Atom} (ha : a.Checked)
    (hvalue : ∀ z, a.mentions z = true → IsTerm (value z).toList) : (atomText value a).Legal := by
  refine ⟨isWord_sanitize a.name, fun text htext => ?_⟩
  obtain ⟨t, ht, rfl⟩ := List.mem_map.mp htext
  cases t with
  | existential z => exact hvalue z (Atom.mentions_iff.mpr ht)
  | constant | universal | langString => exact isTerm_sanitize_name (ha.named _ ht)

-- An atom is legal where it is known what stands for its variables.
theorem legal_of_mem (line : Nat) {atoms : List Atom} {a : Atom} (hmem : a ∈ atoms)
    (ha : a.Checked) : (atomText (skolemText line atoms) a).Legal := by
  refine legal_atomText ha fun z hz => ?_
  unfold skolemText
  cases hfind : atoms.find? (·.mentions z) with
  | none => exact absurd hz (List.find?_eq_none.mp hfind a hmem)
  | some b => exact isTerm_skolemTerm line b.terms

theorem heads_ne_nil (solver : Solver) (r : Rule) : heads solver r.head ≠ [] := by
  have h := r.head_nonempty
  unfold heads
  split <;> simp_all [hasNoEmptyPart]

-- Whatever the order is, what is visited is the head and the positive body.
theorem mem_visited {solver : Solver} {r : Rule} {a : Atom} :
    a ∈ visited solver r ↔ a ∈ r.head.flatten ∨ a ∈ (positivePart r.body).flatten := by
  have hheads : a ∈ (heads solver r.head).flatten.flatten ↔ a ∈ r.head.flatten := by
    unfold heads
    split
    next h => simp [h]
    next => simp
  obtain ⟨head, hhead⟩ := List.exists_mem_of_ne_nil _ (heads_ne_nil solver r)
  rw [← hheads]
  simp only [visited, List.mem_flatMap, List.mem_append]
  constructor
  · rintro ⟨head, hhead, ha | ha⟩
    · refine .inl ?_
      obtain ⟨c, hc, ha⟩ := List.mem_flatten.mp ha
      exact List.mem_flatten.mpr ⟨c, List.mem_flatten.mpr ⟨head, hhead, hc⟩, ha⟩
    · exact .inr ha
  · rintro (ha | ha)
    · obtain ⟨c, hc, ha⟩ := List.mem_flatten.mp ha
      obtain ⟨head, hhead, hc⟩ := List.mem_flatten.mp hc
      exact ⟨head, hhead, .inl (List.mem_flatten.mpr ⟨c, hc, ha⟩)⟩
    · exact ⟨head, hhead, .inr ha⟩

theorem checked_of_mem_visited {solver : Solver} {r : Rule} (h : r.Checked) {a : Atom}
    (ha : a ∈ visited solver r) : a.Checked := by
  rcases mem_visited.mp ha with ha | ha
  · obtain ⟨c, hc, ha⟩ := List.mem_flatten.mp ha
    exact h.head c hc a ha
  · simp only [positivePart, List.mem_flatten, List.mem_map, exists_exists_and_eq_and,
      List.mem_filterMap] at ha
    obtain ⟨c, hc, b, hb, hpositive⟩ := ha
    cases b with
    | positive b =>
      obtain rfl := Option.some.inj hpositive
      exact h.body c hc _ hb
    | negative b => cases hpositive

private theorem legal_side {value : String → String} {d : List (List Atom)} (hne : d ≠ [])
    (h : ∀ a ∈ d.flatten, (atomText value a).Legal) :
    LegalSide (d.map (·.map (atomText value))) := by
  refine ⟨by simpa using hne, fun c hc a ha => ?_⟩
  obtain ⟨c, hmem, rfl⟩ := List.mem_map.mp hc
  obtain ⟨b, hb, rfl⟩ := List.mem_map.mp ha
  exact h b (List.mem_flatten.mpr ⟨c, hmem, hb⟩)

-- Both sides of a rule can be read.
theorem legal_sides (solver : Solver) {r : Rule} (h : r.Checked) (line : Nat) :
    (ruleText (skolemText line (visited solver r)) r.head (positivePart r.body)).Legal := by
  have hlegal {a : Atom} (ha : a ∈ visited solver r) :=
    legal_of_mem line ha (checked_of_mem_visited h ha)
  have hhead : r.head ≠ [] := by
    intro heq
    simpa [heq, hasNoEmptyPart] using r.head_nonempty
  have hbody : positivePart r.body ≠ [] := by
    intro heq
    simpa [List.map_eq_nil_iff.mp heq, hasNoEmptyPart] using r.body_nonempty
  exact ⟨legal_side hhead fun a ha => hlegal (mem_visited.mpr (.inl ha)),
    legal_side hbody fun a ha => hlegal (mem_visited.mpr (.inr ha))⟩

end Rulebook.Rendering
