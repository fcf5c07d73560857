import Rulebook.Exchange.KnowledgeBase
import Rulebook.Proofs.Classification.ClosedForm
import Rulebook.Proofs.Exchange.RoundTrip
import Rulebook.Proofs.Naming

-- What is said of every statement: facts are ground, rules have no empty parts, and names and
-- language tags say something. Reading a knowledge base makes sure of all but two of these.

namespace Rulebook

open Json

namespace Term

-- Constants and variables have a name.
def Named : Term → Prop
  | constant n | universal n | existential n => n ≠ ""
  | langString _ _ => True

-- A language-tagged string could have been built: its tag is not blank.
def Tagged : Term → Prop
  | langString value lang => langString? value lang = .ok (langString value lang)
  | _ => True

theorem named_iff {t : Term} : t.Named ↔ t.hasEmptyName = false := by
  cases t <;> simp [Named, hasEmptyName]

theorem name_ne_empty {t : Term} (h : t.Named) : t.name ≠ "" := by
  cases t with
  | constant | universal | existential => exact h
  | langString value lang => simp [name, ← String.toList_inj]

end Term

namespace Atom

structure Named (a : Atom) : Prop where
  name : a.name ≠ ""
  terms : ∀ t ∈ a.terms, t.Named

def Tagged (a : Atom) : Prop :=
  ∀ t ∈ a.terms, t.Tagged

-- The checks of an atom are about its names, and about nothing else.
theorem checked_iff_named {a : Atom} : a.Checked ↔ a.Named := by
  constructor
  · intro h
    refine ⟨?_, fun t ht => Term.named_iff.mpr (h.named t ht)⟩
    intro hname
    simp [Checked, new, hname] at h
  · intro h
    have hname : a.name.isEmpty = false := by simpa using h.name
    have hterms : a.terms.any Term.hasEmptyName = false :=
      List.any_eq_false.mpr fun t ht => by simp [Term.named_iff.mp (h.terms t ht)]
    simp [Checked, new, hname, hterms]

end Atom

-- The general atom of a predicate has nothing unnamed but perhaps the predicate.
theorem Predicate.named_generalAtom {p : Predicate} : p.generalAtom.Named ↔ p.name ≠ "" := by
  refine ⟨Atom.Named.name, fun h => ⟨h, fun t ht => ?_⟩⟩
  obtain ⟨i, -, rfl⟩ := List.mem_map.mp ht
  intro hempty
  have hlength := congrArg String.length hempty
  simp at hlength

theorem Predicate.tagged_generalAtom (p : Predicate) : p.generalAtom.Tagged := by
  intro t ht
  obtain ⟨i, -, rfl⟩ := List.mem_map.mp ht
  trivial

-- A stand-in has its mark, if nothing else, for a name.
theorem Declaration.name_alias_ne (d : Declaration) : d.alias.name ≠ "" := by
  rw [← String.toList_inj.ne, Declaration.alias, String.toList_append]
  exact List.append_ne_nil_of_right_ne_nil _ d.toList_aliasMark_ne_nil

namespace Rule

-- Head and body have no empty parts, and everything in them is named.
structure Sound (r : Rule) : Prop where
  head_ne_nil : r.head ≠ []
  body_ne_nil : r.body ≠ []
  head : ∀ c ∈ r.head, c ≠ [] ∧ ∀ a ∈ c, a.Named
  body : ∀ c ∈ r.body, c ≠ [] ∧ ∀ b ∈ c, b.atom.Named

structure Tagged (r : Rule) : Prop where
  head : ∀ c ∈ r.head, ∀ a ∈ c, a.Tagged
  body : ∀ c ∈ r.body, ∀ b ∈ c, b.atom.Tagged

structure WellFormed (r : Rule) : Prop where
  sound : r.Sound
  tagged : r.Tagged

private theorem parts_of_hasNoEmptyPart {α : Type} {disjuncts : List (List α)}
    (h : hasNoEmptyPart disjuncts = true) : disjuncts ≠ [] ∧ ∀ c ∈ disjuncts, c ≠ [] := by
  simpa [hasNoEmptyPart] using h

theorem checked_iff_sound {r : Rule} : r.Checked ↔ r.Sound := by
  obtain ⟨hhead, hheads⟩ := parts_of_hasNoEmptyPart r.head_nonempty
  obtain ⟨hbody, hbodies⟩ := parts_of_hasNoEmptyPart r.body_nonempty
  constructor
  · intro h
    refine ⟨hhead, hbody, fun c hc => ⟨hheads c hc, fun a ha => ?_⟩,
      fun c hc => ⟨hbodies c hc, fun b hb => ?_⟩⟩
    · exact Atom.checked_iff_named.mp (h.head c hc a ha)
    · exact Atom.checked_iff_named.mp (h.body c hc b hb)
  · intro h
    exact ⟨fun c hc a ha => Atom.checked_iff_named.mpr ((h.head c hc).2 a ha),
      fun c hc b hb => Atom.checked_iff_named.mpr ((h.body c hc).2 b hb)⟩

-- The rule of a stand-in is as good as the names of the two predicates.
theorem wellFormed_importRule {p q : Predicate} :
    (importRule p q).WellFormed ↔ p.name ≠ "" ∧ q.name ≠ "" := by
  constructor
  · intro h
    have hhead := (h.sound.head _ List.mem_cons_self).2 _ List.mem_cons_self
    have hbody := (h.sound.body _ List.mem_cons_self).2 _ List.mem_cons_self
    exact ⟨hhead.name, hbody.name⟩
  · rintro ⟨hp, hq⟩
    have hhead := Predicate.named_generalAtom.mpr hp
    have hbody := Predicate.named_generalAtom.mpr hq
    refine ⟨⟨List.cons_ne_nil _ _, List.cons_ne_nil _ _, ?_, ?_⟩, ?_, ?_⟩
    · simpa [importRule, single] using hhead
    · simpa [importRule, single, Literal.atom] using hbody
    · simpa [importRule, single] using p.tagged_generalAtom
    · simpa [importRule, single, Literal.atom] using q.tagged_generalAtom

end Rule

namespace Statement

-- What reading makes sure of.
def Sound : Statement → Prop
  | fact f => (∀ t ∈ f.terms, t.isGround = true) ∧ f.atom.Named
  | rule r => r.Sound
  | dataSource _ => True

-- What reading does not look at: the tags of language-tagged strings, and the names of predicates
-- that are declared.
def Labelled : Statement → Prop
  | fact f => f.atom.Tagged
  | rule r => r.Tagged
  | dataSource d => d.predicate.name ≠ ""

-- A declared arity is a machine word. Other arities are counted.
def ArityFits : Statement → Prop
  | dataSource d => d.predicate.arity < UInt64.size
  | _ => True

structure WellFormed (s : Statement) : Prop where
  sound : s.Sound
  labelled : s.Labelled

theorem checked_iff {s : Statement} : s.Checked ↔ s.Sound ∧ s.ArityFits := by
  cases s with
  | fact f =>
    have hground : ∀ t ∈ f.terms, t.isGround = true := List.all_eq_true.mp f.ground
    exact ⟨fun h => ⟨⟨hground, Atom.checked_iff_named.mp h⟩, trivial⟩,
      fun h => Atom.checked_iff_named.mpr h.1.2⟩
  | rule r => simp [Checked, Sound, ArityFits, Rule.checked_iff_sound]
  | dataSource d => simp [Checked, Sound, ArityFits]

end Statement

namespace Classification

variable {ss : List Statement}

-- A predicate with a source has the name that the facts or the declarations give it.
private theorem name_ne_of_mem_aliased (hall : ∀ s ∈ ss, s.WellFormed) {p : Predicate}
    (hp : p ∈ (build ss).aliased) : p.name ≠ "" := by
  obtain ⟨hne, -⟩ := ((closedForm_build ss).mem_aliased p).mp hp
  obtain ⟨d, hd⟩ := List.exists_mem_of_ne_nil _ hne
  obtain ⟨hdeclared, rfl⟩ := Content.mem_of_mem_sources hd
  obtain ⟨s, hs, hd⟩ := List.mem_filterMap.mp hdeclared
  cases s with
  | fact f =>
    obtain rfl := Option.some.inj hd
    exact (hall _ hs).sound.2.name
  | rule r => cases hd
  | dataSource e =>
    obtain rfl := Option.some.inj hd
    exact (hall _ hs).labelled

-- The rules that are compiled are the ones of the knowledge base, and those of stand-ins, whose own
-- names are never empty.
theorem wellFormed_rules_iff (hsound : ∀ s ∈ ss, s.Sound) :
    (∀ r ∈ (build ss).rules, r.WellFormed) ↔
      (∀ r, .rule r ∈ ss → r.Tagged) ∧ ∀ p ∈ (build ss).aliased, p.name ≠ "" := by
  have hc := closedForm_build ss
  constructor
  · intro h
    refine ⟨fun r hr => (h r ((hc.mem_rules r).mpr (.inl (Content.mem_rules_of.mpr hr)))).tagged,
      fun p hp => ?_⟩
    have ha := (hc.mem_aliased p).mp hp
    obtain ⟨d, hd⟩ := List.exists_mem_of_ne_nil _ ha.1
    have hrule := h _ ((hc.mem_rules _).mpr (.inr ⟨p, d, ha, hd, rfl⟩))
    exact (Rule.wellFormed_importRule.mp hrule).1
  · rintro ⟨htagged, hnamed⟩ r hr
    rcases (hc.mem_rules r).mp hr with hr | ⟨p, d, ha, -, rfl⟩
    · have hr := Content.mem_rules_of.mp hr
      exact ⟨hsound _ hr, htagged r hr⟩
    · exact Rule.wellFormed_importRule.mpr ⟨hnamed p ((hc.mem_aliased p).mpr ha), d.name_alias_ne⟩

end Classification

namespace KnowledgeBase

theorem statements_of_load {text : String} {kb : KnowledgeBase} (h : load text = .ok kb) :
    ∃ j, asList Statement.ofJson j = .ok kb.statements := by
  obtain ⟨ss, hread, rfl⟩ := map_eq_ok h
  unfold decode at hread
  split at hread
  next => cases hread
  next ss' hj =>
    split at hread
    · obtain rfl := Except.ok.inj hread
      refine ⟨_, hj.trans ?_⟩
      cases ss' <;> rfl
    · cases hread

theorem load_of_loadFile {path : Path} {text : String} {kb : KnowledgeBase}
    (h : loadFile path (some text) = .ok kb) : load text = .ok kb := by
  simp only [loadFile] at h
  split at h
  next hkb => rwa [Except.ok.inj h] at hkb
  next => cases h
  next => cases h

-- A text without line breaks is read as a file is.
theorem loadFile_compact (kb : KnowledgeBase)
    (h : ∀ s ∈ kb.statements, s.Sound ∧ s.ArityFits ∧ s.IsText) (path : Path) :
    ∃ j, kb.toJson? = some j ∧
      loadFile path (some j.compact) = .ok (ofStatements kb.statements) := by
  obtain ⟨j, hj, hread, hprintable⟩ :=
    exists_toJson (fun s hs => Statement.checked_iff.mpr ⟨(h s hs).1, (h s hs).2.1⟩)
      fun s hs => (h s hs).2.2
  have hload : load j.compact = .ok (ofStatements kb.statements) := by
    unfold load
    rw [decode_compact _ hprintable, hread]
    rfl
  exact ⟨j, hj, by simp [loadFile, hload]⟩

-- A list of statements can be read from some file exactly if all of them are sound, with declared
-- arities that fit and paths that are text. Blank tags and declared predicates without a name are
-- read as they are, and these are what can be wrong with the rules that are compiled; from
-- well-formed statements come well-formed rules.
theorem loadable_iff_sound (ss : List Statement) :
    ((∃ path text kb, loadFile path (some text) = .ok kb ∧ kb.statements = ss) ↔
      ∀ s ∈ ss, s.Sound ∧ s.ArityFits ∧ s.IsText) ∧
    ((∀ s ∈ ss, s.Sound) →
      ((∀ r ∈ (Classification.build ss).rules, r.WellFormed) ↔
        (∀ r, .rule r ∈ ss → r.Tagged) ∧
          ∀ p ∈ (Classification.build ss).aliased, p.name ≠ "") ∧
      ((∀ s ∈ ss, s.Labelled) → ∀ r ∈ (Classification.build ss).rules, r.WellFormed)) := by
  refine ⟨⟨?_, fun h => ?_⟩, fun hsound => ⟨Classification.wellFormed_rules_iff hsound, ?_⟩⟩
  · rintro ⟨path, text, kb, h, rfl⟩ s hs
    obtain ⟨j, hj⟩ := statements_of_load (load_of_loadFile h)
    obtain ⟨v, hv⟩ := exists_of_asList_eq_ok hj s hs
    obtain ⟨hsound, harity⟩ := Statement.checked_iff.mp (Statement.checked_of_ofJson hv)
    exact ⟨hsound, harity, Statement.isText_of_ofJson hv⟩
  · obtain ⟨j, -, hload⟩ := loadFile_compact ⟨ss, 0⟩ h (.ofText "")
    refine ⟨_, _, _, hload, ?_⟩
    cases ss <;> rfl
  · intro hlabelled
    refine (Classification.wellFormed_rules_iff hsound).mpr ⟨fun r hr => hlabelled _ hr, ?_⟩
    exact fun p hp =>
      Classification.name_ne_of_mem_aliased (fun s hs => ⟨hsound s hs, hlabelled s hs⟩) hp

-- A string with a tag, and a predicate that has facts and a file.
def labelled : List Statement :=
  [.fact ⟨⟨"p", [.langString "v" "en"]⟩, rfl⟩,
    .dataSource ⟨⟨"p", 1⟩, some (.csvFile (.ofText "a.csv"))⟩]

theorem wellFormed_labelled :
    (∃ path text kb, loadFile path (some text) = .ok kb ∧ kb.statements = labelled) ∧
      (Classification.build labelled).rules.length = 2 ∧
      ∀ r ∈ (Classification.build labelled).rules, r.WellFormed := by
  obtain ⟨hload, hrules⟩ := loadable_iff_sound labelled
  have hread : ∀ s ∈ labelled, s.Sound ∧ s.ArityFits ∧ s.IsText := by
    simp only [labelled, List.mem_cons, List.not_mem_nil, or_false, forall_eq_or_imp, forall_eq]
    have harity : 1 < UInt64.size := by decide
    obtain ⟨hfact, hfits⟩ :=
      Statement.checked_iff (s := .fact ⟨⟨"p", [.langString "v" "en"]⟩, rfl⟩).mp rfl
    refine ⟨⟨hfact, hfits, trivial⟩, trivial, harity, ?_⟩
    simp [Statement.IsText, DataSource.IsText, Path.isText_ofText]
  have hlabelled : ∀ s ∈ labelled, s.Labelled := by
    have htag : Term.langString? "v" "en" = .ok (.langString "v" "en") := by decide +kernel
    have hname : "p" ≠ "" := by decide
    simp only [labelled, List.mem_cons, List.not_mem_nil, or_false, forall_eq_or_imp, forall_eq]
    exact ⟨fun t ht => List.mem_singleton.mp ht ▸ htag, hname⟩
  exact ⟨hload.mpr hread, by decide +kernel, (hrules fun s hs => (hread s hs).1).2 hlabelled⟩

-- A blank tag, and a predicate without a name that has two sources.
def unlabelledText : String :=
  "[\x7b\"fact\":\x7b\"predicate\":\"p\",\"terms\":[\x7b\"language_string\":\x7b\"value\":\"v\"," ++
  "\"lang\":\" \"\x7d\x7d]\x7d\x7d,\x7b\"data_source\":\x7b\"predicate\":\x7b\"name\":\"\"," ++
  "\"arity\":1\x7d\x7d\x7d,\x7b\"data_source\":\x7b\"predicate\":\x7b\"name\":\"\"," ++
  "\"arity\":1\x7d,\"source\":\x7b\"csv_file\":\x7b\"path\":\"a.csv\"\x7d\x7d\x7d\x7d]"

def unlabelled : KnowledgeBase :=
  ⟨[.fact ⟨⟨"p", [.langString "v" " "]⟩, rfl⟩, .dataSource ⟨⟨"", 1⟩, none⟩,
    .dataSource ⟨⟨"", 1⟩, some (.csvFile (.ofText "a.csv"))⟩], 1⟩

theorem not_wellFormed_unlabelled :
    loadFile (.ofText "kb.json") (some unlabelledText) = .ok unlabelled ∧
      (∃ s ∈ unlabelled.statements, ¬s.WellFormed) ∧
      ∃ r ∈ (Classification.build unlabelled.statements).rules, ¬r.WellFormed := by
  have htext : unlabelled.toJson?.map Json.compact = some unlabelledText := by decide +kernel
  have hread : ∀ s ∈ unlabelled.statements, s.Sound ∧ s.ArityFits ∧ s.IsText := by
    simp only [unlabelled, List.mem_cons, List.not_mem_nil, or_false, forall_eq_or_imp, forall_eq]
    have harity : 1 < UInt64.size := by decide
    obtain ⟨hfact, hfits⟩ :=
      Statement.checked_iff (s := .fact ⟨⟨"p", [.langString "v" " "]⟩, rfl⟩).mp rfl
    refine ⟨⟨hfact, hfits, trivial⟩, ⟨trivial, harity, ?_⟩, trivial, harity, ?_⟩
    · simp [Statement.IsText]
    · simp [Statement.IsText, DataSource.IsText, Path.isText_ofText]
  refine ⟨?_, ⟨_, List.mem_cons_self, fun h => ?_⟩, ?_⟩
  · obtain ⟨j, hj, hload⟩ := loadFile_compact unlabelled hread (.ofText "kb.json")
    rw [hj, Option.map_some, Option.some.injEq] at htext
    rw [← htext]
    exact hload
  · have hblank : Term.langString? "v" " " = .ok (.langString "v" " ") :=
      h.labelled _ List.mem_cons_self
    exact absurd hblank (by decide +kernel)
  · refine ⟨importRule ⟨"", 1⟩ (Declaration.localFacts ⟨"", 1⟩).alias, by decide +kernel, ?_⟩
    exact fun h => (Rule.wellFormed_importRule.mp h).1 rfl

end KnowledgeBase

end Rulebook
