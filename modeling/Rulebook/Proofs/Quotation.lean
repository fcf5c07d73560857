import Rulebook.Proofs.Reasoner.Answers

namespace Rulebook

-- Put something in the place of every occurrence of a character.
def replaceEach (c : Char) (instead : List Char) (cs : List Char) : List Char :=
  cs.flatMap fun d => if d = c then instead else [d]

-- Quotes are escaped as by two replacements in a row. The second one leaves alone what the first
-- has put in, as this has no quotes.
theorem escapeQuotes_eq_replaceEach (cs : List Char) :
    escapeQuotes cs = replaceEach '"' ['\\', '"'] (replaceEach '\\' ['\\', '\\'] cs) := by
  rw [escapeQuotes, replaceEach, replaceEach, List.flatMap_assoc]
  refine List.flatMap_congr fun c _ => ?_
  by_cases hslash : c = '\\'
  · simp [hslash]
  · by_cases hquote : c = '"'
    · simp [hquote]
    · simp [hslash, hquote]

-- A quote or a backslash comes with a backslash in front, and no other character does.
theorem escapeQuotes_cons (c : Char) (cs : List Char) :
    (c = '\\' ∨ c = '"') ∧ escapeQuotes (c :: cs) = '\\' :: c :: escapeQuotes cs ∨
      (c ≠ '\\' ∧ c ≠ '"') ∧ escapeQuotes (c :: cs) = c :: escapeQuotes cs := by
  by_cases h : c = '\\' ∨ c = '"'
  · exact .inl ⟨h, by simp [escapeQuotes, h]⟩
  · exact .inr ⟨not_or.mp h, by simp [escapeQuotes, h]⟩

-- An escaped text does not begin with a quote, so the first one that stands free is not in it.
theorem escapeQuotes_cons_append_ne {c : Char} {cs r s : List Char} :
    escapeQuotes (c :: cs) ++ r ≠ '"' :: s := by
  rcases escapeQuotes_cons c cs with ⟨-, hcs⟩ | ⟨hc, hcs⟩
  · simp [hcs]
  · simp [hcs, hc.2]

theorem escapeQuotes_append_inj {cs ds r s : List Char} :
    escapeQuotes cs ++ '"' :: r = escapeQuotes ds ++ '"' :: s ↔ cs = ds ∧ r = s := by
  refine ⟨fun h => ?_, fun ⟨hcs, hr⟩ => by rw [hcs, hr]⟩
  induction cs generalizing ds with
  | nil =>
    cases ds with
    | nil => exact ⟨rfl, (List.cons.inj h).2⟩
    | cons d ds => exact absurd h.symm escapeQuotes_cons_append_ne
  | cons c cs ih =>
    cases ds with
    | nil => exact absurd h escapeQuotes_cons_append_ne
    | cons d ds =>
      -- Both texts begin with an escaped character, or both with one that needs no escape.
      have hhead : c = d ∧ escapeQuotes cs ++ '"' :: r = escapeQuotes ds ++ '"' :: s := by
        rcases escapeQuotes_cons c cs with ⟨-, hcs⟩ | ⟨hc, hcs⟩
        · rcases escapeQuotes_cons d ds with ⟨-, hds⟩ | ⟨hd, hds⟩
          · simpa [hcs, hds] using h
          · simp [hcs, hds, Ne.symm hd.1] at h
        · rcases escapeQuotes_cons d ds with ⟨-, hds⟩ | ⟨-, hds⟩
          · simp [hcs, hds, hc.1] at h
          · simpa [hcs, hds] using h
      obtain ⟨hcs, hr⟩ := ih hhead.2
      exact ⟨by rw [hhead.1, hcs], hr⟩

namespace Term

-- The value ends at the first quote that no backslash belongs to, and the rest is the tag.
theorem name_langString_inj {value lang value' lang' : String} :
    (langString value lang).name = (langString value' lang').name ↔
      value = value' ∧ lang = lang' := by
  simp only [name, String.ofList_inj, List.cons_append, List.append_assoc, List.cons.injEq,
    true_and, List.nil_append, escapeQuotes_append_inj, String.toList_inj]

theorem eq_of_name_of_kind {t u : Term} (hname : t.name = u.name) (ht : t.kind = .langString)
    (hu : u.kind = .langString) : t = u := by
  cases t with
  | langString value lang =>
    cases u with
    | langString value' lang' =>
      obtain ⟨rfl, rfl⟩ := name_langString_inj.mp hname
      rfl
    | constant | universal | existential => cases hu
  | constant | universal | existential => cases ht

end Term

-- Facts with one row have terms of the same names at all places.
theorem Fact.name_eq_of_row {f g : Fact} (h : f.row = g.row) {e : Term × Term}
    (he : e ∈ f.terms.zip g.terms) : e.1.name = e.2.name := by
  rw [row, row, ← List.forall₂_eq_eq_eq, List.forall₂_map_left_iff, List.forall₂_map_right_iff]
    at h
  exact (List.forall₂_iff_zip.mp h).2 he

-- What a load gives to a recorder: a row for each fact, and no others.
theorem Run.data_of_load {answers : FixedAnswers} {r : Reasoner Recorder} {kb : KnowledgeBase}
    {steps : List (Workspace Recorder × Action)} {w : Workspace Recorder}
    (hopened : Opened ({ answers := answers } : Recorder) r)
    (hrun : Run (fun _ _ => False) ⟨kb, r⟩ steps w) (hload : (w.reasoner.load w.kb).1 = .ok ())
    (k : String) :
    ((Sorted.lookup k (w.reasoner.load w.kb).2.backend.data).getD []).Perm
      ((factsUnder k w.kb.statements).map Fact.row) := by
  have hm : Mirrored id (w.perform .load).2 :=
    ((hrun.action .load).mono fun _ _ => False.elim).mirrored Recorder.shadows_id
      ⟨rfl, rfl, rfl⟩ hopened
  have hretains := Reasoner.Retains.of_load hload
  have hholds : (w.reasoner.load w.kb).2.backend.Holds (.build w.kb.statements) _ :=
    hretains.index ▸ hm.holds hretains.loaded
  rw [hholds.lookup_data]
  exact Classification.delivered_perm k w.kb.statements

-- The name of a language-tagged string tells its value and its tag, whatever quotes, backslashes
-- and at signs are in them. So an engine that is given a row for each fact never has one row for
-- facts with different language-tagged strings at some place.
theorem name_langString_eq_iff :
    (∀ value lang : String,
      (Term.langString value lang).name = String.ofList
        ('"' :: replaceEach '"' ['\\', '"'] (replaceEach '\\' ['\\', '\\'] value.toList) ++
          ['"', '@'] ++ lang.toList)) ∧
    (∀ value lang value' lang' : String,
      (Term.langString value lang).name = (Term.langString value' lang').name ↔
        value = value' ∧ lang = lang') ∧
    (∀ f g : Fact, f.row = g.row → ∀ e ∈ f.terms.zip g.terms,
      e.1.kind = .langString → e.2.kind = .langString → e.1 = e.2) ∧
    ∀ (answers : FixedAnswers) (r : Reasoner Recorder) (kb : KnowledgeBase)
      (steps : List (Workspace Recorder × Action)) (w : Workspace Recorder),
      Opened ({ answers := answers } : Recorder) r → Run (fun _ _ => False) ⟨kb, r⟩ steps w →
      (w.reasoner.load w.kb).1 = .ok () → ∀ k : String,
        ((Sorted.lookup k (w.reasoner.load w.kb).2.backend.data).getD []).Perm
          ((factsUnder k w.kb.statements).map Fact.row) := by
  refine ⟨fun value lang => ?_, fun value lang value' lang' => Term.name_langString_inj,
    fun f g h e he ht hu => Term.eq_of_name_of_kind (Fact.name_eq_of_row h he) ht hu,
    fun answers r kb steps w hopened hrun => hrun.data_of_load hopened⟩
  rw [Term.name, escapeQuotes_eq_replaceEach]

-- Two strings whose names would be the same if nothing was escaped.

def quoteInValue : Fact :=
  ⟨⟨"p", [.langString "a\"@b" "c"]⟩, rfl⟩

def quoteInTag : Fact :=
  ⟨⟨"p", [.langString "a" "b\"@c"]⟩, rfl⟩

def Workspace.withQuotes : Workspace Recorder :=
  ⟨⟨[.fact quoteInValue, .fact quoteInTag], 2⟩, .new ({} : Recorder)⟩

theorem name_langString_withQuotes :
    quoteInValue.row ≠ quoteInTag.row ∧
      ((Sorted.lookup "p-1" (Workspace.withQuotes.reasoner.load
          Workspace.withQuotes.kb).2.backend.data).getD []).Perm
        [["\"a\\\"@b\"@c"], ["\"a\"@b\"@c"]] := by
  obtain ⟨-, -, hrows, hdata⟩ := name_langString_eq_iff
  refine ⟨fun h => ?_, ?_⟩
  · have heq := hrows _ _ h _ List.mem_cons_self rfl rfl
    exact absurd heq (by decide)
  · have hfacts : (factsUnder "p-1" Workspace.withQuotes.kb.statements).map Fact.row =
        [["\"a\\\"@b\"@c"], ["\"a\"@b\"@c"]] := by
      decide +kernel
    exact hfacts ▸ hdata {} _ _ [] Workspace.withQuotes .new .start (by decide +kernel) "p-1"

end Rulebook
