import Rulebook.Exchange.KnowledgeBase
import Rulebook.Proofs.Exchange.Checked
import Rulebook.Proofs.Json.RoundTrip

namespace Rulebook

open Json

namespace Term

theorem ofJson_toJson (t : Term) : ofJson t.toJson = .ok t := by
  cases t <;> rfl

theorem printable_toJson (t : Term) : Printable t.toJson := by
  cases t <;> simp [toJson, Printable, PrintableMembers]

end Term

namespace Predicate

theorem ofJson_toJson {p : Predicate} (h : p.arity < UInt64.size) : ofJson p.toJson = .ok p := by
  have hrecord : asRecord plain fields {} p.toJson = .ok ⟨some p.name, some p.arity⟩ := by
    simp only [toJson, asRecord]
    rw [readMembers_slot rfl (asString_string _) rfl, readMembers_slot rfl (asNat_ofNat h) rfl]
    rfl
  unfold ofJson
  rw [hrecord]
  rfl

theorem printable_toJson (p : Predicate) : Printable p.toJson := by
  simp [toJson, Printable, PrintableMembers, Json.ofNat]

end Predicate

namespace Atom

theorem ofJson_toJson {a : Atom} (h : a.Checked) : ofJson a.toJson = .ok a := by
  have hterms : asList Term.ofJson (.array (a.terms.map Term.toJson)) = .ok a.terms :=
    asList_map fun t _ => t.ofJson_toJson
  have hrecord : asRecord plain fields {} a.toJson = .ok ⟨some a.name, some a.terms⟩ := by
    simp only [toJson, asRecord]
    rw [readMembers_slot rfl (asString_string _) rfl, readMembers_slot rfl hterms rfl]
    rfl
  unfold ofJson
  rw [hrecord]
  change checked (new a.name a.terms) = _
  rw [h]
  rfl

theorem printable_toJson (a : Atom) : Printable a.toJson := by
  have hterms := printable_array_map fun t (_ : t ∈ a.terms) => t.printable_toJson
  simpa [toJson, Printable, PrintableMembers] using hterms

end Atom

namespace Literal

theorem ofJson_toJson {b : Literal} (h : b.atom.Checked) : ofJson b.toJson = .ok b := by
  cases b with
  | positive a =>
    have ha := Atom.ofJson_toJson (a := a) h
    exact asChoice_single rfl (congrArg (Except.map positive) ha)
  | negative a =>
    have ha := Atom.ofJson_toJson (a := a) h
    exact asChoice_single rfl (congrArg (Except.map negative) ha)

theorem printable_toJson (b : Literal) : Printable b.toJson := by
  cases b with
  | positive a => simpa [toJson, Printable, PrintableMembers] using a.printable_toJson
  | negative a => simpa [toJson, Printable, PrintableMembers] using a.printable_toJson

end Literal

namespace Fact

theorem ofJson_toJson {f : Fact} (h : f.atom.Checked) : ofJson f.toJson = .ok f := by
  unfold ofJson toJson
  rw [Atom.ofJson_toJson h]
  change checked (new f.atom) = _
  rw [new, dif_pos f.ground]
  rfl

end Fact

namespace Rule

theorem ofJson_toJson {r : Rule} (h : r.Checked) : ofJson r.toJson = .ok r := by
  have hhead : asList (asList Atom.ofJson)
      (.array (r.head.map fun c => .array (c.map Atom.toJson))) = .ok r.head :=
    asList_map fun c hc => asList_map fun a ha => Atom.ofJson_toJson (h.head c hc a ha)
  have hbody : asList (asList Literal.ofJson)
      (.array (r.body.map fun c => .array (c.map Literal.toJson))) = .ok r.body :=
    asList_map fun c hc => asList_map fun b hb => Literal.ofJson_toJson (h.body c hc b hb)
  have hrecord : asRecord plain fields {} r.toJson = .ok ⟨some r.head, some r.body⟩ := by
    simp only [toJson, asRecord]
    rw [readMembers_slot rfl hhead rfl, readMembers_slot rfl hbody rfl]
    rfl
  unfold ofJson
  rw [hrecord]
  change checked (new r.head r.body) = _
  rw [new, dif_pos r.head_nonempty, dif_pos r.body_nonempty]
  rfl

theorem printable_toJson (r : Rule) : Printable r.toJson := by
  have hhead := printable_array_map fun c (_ : c ∈ r.head) =>
    printable_array_map fun a (_ : a ∈ c) => a.printable_toJson
  have hbody := printable_array_map fun c (_ : c ∈ r.body) =>
    printable_array_map fun b (_ : b ∈ c) => b.printable_toJson
  exact ⟨hhead, hbody, trivial⟩

end Rule

-- What can be written is written so that it is read again.

namespace DataSource

theorem exists_toJson {s : DataSource} (h : s.IsText) :
    ∃ members, s.toJson? = some (.object members) ∧ ofJson (.object members) = .ok s ∧
      Printable (.object members) := by
  cases s with
  | csvFile path | rdfFile path =>
    obtain ⟨text, rfl⟩ := Path.isText_iff.mp h
    have htext : (Path.ofText text).text? = some text := Bytes.text?_ofText text
    refine ⟨_, by rw [toJson?, pathToJson?, htext]; rfl, rfl, ?_⟩
    simp [Printable, PrintableMembers]
  | sparqlQuery endpoint selection query =>
    refine ⟨_, rfl, rfl, ?_⟩
    simp [Printable, PrintableMembers]

end DataSource

namespace Declaration

theorem exists_toJson {d : Declaration} (harity : d.predicate.arity < UInt64.size)
    (htext : ∀ s ∈ d.source, s.IsText) :
    ∃ j, d.toJson? = some j ∧ ofJson j = .ok d ∧ Printable j := by
  obtain ⟨p, source⟩ := d
  have hp := Predicate.ofJson_toJson (p := p) harity
  cases source with
  | none =>
    refine ⟨_, rfl, ?_, p.printable_toJson, trivial⟩
    have hrecord : asRecord plain fields {} (.object [("predicate", p.toJson)]) =
        .ok ⟨some p, none⟩ := by
      simp only [asRecord]
      rw [readMembers_slot rfl hp rfl]
      rfl
    change ofJson (.object [("predicate", p.toJson)]) = _
    unfold ofJson
    rw [hrecord]
    rfl
  | some s =>
    obtain ⟨members, hmembers, hread, hprintable⟩ := DataSource.exists_toJson (htext s rfl)
    have hs : asOption DataSource.ofJson (.object members) = .ok (some s) := by
      simp only [asOption, hread]
      rfl
    refine ⟨.object [("predicate", p.toJson), ("source", .object members)], ?_, ?_,
      p.printable_toJson, hprintable, trivial⟩
    · simp [toJson?, hmembers]
    · have hrecord : asRecord plain fields {}
          (.object [("predicate", p.toJson), ("source", .object members)]) =
            .ok ⟨some p, some (some s)⟩ := by
        simp only [asRecord]
        rw [readMembers_slot rfl hp rfl, readMembers_slot rfl hs rfl]
        rfl
      unfold ofJson
      rw [hrecord]
      rfl

end Declaration

namespace Statement

theorem exists_toJson {s : Statement} (h : s.Checked) (htext : s.IsText) :
    ∃ j, s.toJson? = some j ∧ ofJson j = .ok s ∧ Printable j := by
  cases s with
  | fact f =>
    have hf := Fact.ofJson_toJson (f := f) h
    exact ⟨_, rfl, asChoice_single rfl (congrArg (Except.map fact) hf),
      f.atom.printable_toJson, trivial⟩
  | rule r =>
    have hr := Rule.ofJson_toJson (r := r) h
    exact ⟨_, rfl, asChoice_single rfl (congrArg (Except.map rule) hr), r.printable_toJson,
      trivial⟩
  | dataSource d =>
    obtain ⟨j, hj, hread, hprintable⟩ := Declaration.exists_toJson (d := d) h htext
    refine ⟨.object [("data_source", j)], ?_, ?_, hprintable, trivial⟩
    · simp [toJson?, hj]
    · exact asChoice_single rfl (congrArg (Except.map dataSource) hread)

end Statement

namespace KnowledgeBase

private theorem mapM_eq_map {α β : Type} {f : α → Option β} {g : α → β} {l : List α}
    (h : ∀ a ∈ l, f a = some (g a)) : l.mapM f = some (l.map g) := by
  induction l with
  | nil => rfl
  | cons a l ih =>
    obtain ⟨ha, hl⟩ := List.forall_mem_cons.mp h
    rw [List.mapM_cons, ha, ih hl]
    rfl

theorem exists_toJson {kb : KnowledgeBase} (h : ∀ s ∈ kb.statements, s.Checked)
    (htext : ∀ s ∈ kb.statements, s.IsText) :
    ∃ j, kb.toJson? = some j ∧ asList Statement.ofJson j = .ok kb.statements ∧ Printable j := by
  obtain ⟨ss, version⟩ := kb
  let written (s : Statement) : Json := s.toJson?.getD .null
  have hwritten : ∀ s ∈ ss, s.toJson? = some (written s) ∧
      Statement.ofJson (written s) = .ok s ∧ Printable (written s) := by
    intro s hs
    obtain ⟨j, hj, hread, hprintable⟩ := Statement.exists_toJson (h s hs) (htext s hs)
    have hsome : written s = j := by simp [written, hj]
    rw [hsome]
    exact ⟨hj, hread, hprintable⟩
  have hall : ss.mapM Statement.toJson? = some (ss.map written) := by
    exact mapM_eq_map fun s hs => (hwritten s hs).1
  exact ⟨_, congrArg (Option.map Json.array) hall, asList_map fun s hs => (hwritten s hs).2.1,
    printable_array_map fun s hs => (hwritten s hs).2.2⟩

-- Saving loses nothing: the statements of a saved knowledge base are read again as they were and
-- in their order, and so is the text of each of them alone. Paths have to be text.
theorem loadFile_save {kb : KnowledgeBase} (hmade : ∀ s ∈ kb.statements, s.Made)
    (htext : ∀ s ∈ kb.statements, s.IsText) (path path' : Path) :
    (∃ text, kb.saveFile path true = .ok text ∧
      loadFile path' (some text) =
        .ok ⟨kb.statements, if kb.statements.isEmpty then 0 else 1⟩) ∧
    ∀ s ∈ kb.statements, ∃ j, s.toJson? = some j ∧
      Json.decode Statement.ofJson j.compact = .ok s := by
  constructor
  · obtain ⟨j, hj, hread, hprintable⟩ := exists_toJson (fun s hs => (hmade s hs).checked) htext
    have hload : load (j.pretty 0) = .ok (ofStatements kb.statements) := by
      unfold load
      rw [decode_pretty _ hprintable, hread]
      rfl
    refine ⟨j.pretty 0, by simp [saveFile, hj], ?_⟩
    simp only [loadFile, hload, ofStatements, addMany]
    cases kb.statements <;> rfl
  · intro s hs
    obtain ⟨j, hj, hread, hprintable⟩ := Statement.exists_toJson (hmade s hs).checked (htext s hs)
    refine ⟨j, hj, ?_⟩
    rw [decode_compact _ hprintable]
    exact hread

-- Quotes, controls and characters outside the first plane, and an arity that just fits.
def spelledOut : KnowledgeBase :=
  ⟨[.fact ⟨⟨"r", [.constant "a\"b\\c\n𝄞", .langString "\x01" ""]⟩, rfl⟩,
    .rule (.single ⟨"s", [.universal "X"]⟩ ⟨"r", [.universal "X", .existential "Y"]⟩),
    .dataSource ⟨⟨"", 18446744073709551615⟩, some (.csvFile (.ofText "a//ø.csv"))⟩,
    .dataSource ⟨⟨"s", 1⟩, none⟩], 7⟩

theorem loadFile_spelledOut :
    ∃ text, spelledOut.saveFile (.ofText "kb.json") true = .ok text ∧
      loadFile (.ofText "kb.json") (some text) = .ok ⟨spelledOut.statements, 1⟩ := by
  have hmade : ∀ s ∈ spelledOut.statements, s.Made := by
    simp only [Statement.made_iff_checked]
    decide +kernel
  have htext : ∀ s ∈ spelledOut.statements, s.IsText := by
    simp [spelledOut, Statement.IsText, DataSource.IsText, Path.isText_ofText]
  exact (loadFile_save hmade htext (.ofText "kb.json") (.ofText "kb.json")).1

end KnowledgeBase

end Rulebook
