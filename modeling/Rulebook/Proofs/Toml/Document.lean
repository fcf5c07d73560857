import Mathlib.Data.List.Basic
import Rulebook.Proofs.Toml.Value
import Rulebook.Toml.Document

namespace Rulebook.Toml

-- A document that was written is read line by line. Names need no quotes.

def Bare (name : String) : Prop :=
  name.toList ≠ [] ∧ ∀ c ∈ name.toList, isBareKeyChar c = true

instance (name : String) : Decidable (Bare name) :=
  decidable_of_bool (!name.toList.isEmpty && name.toList.all isBareKeyChar) (by simp [Bare])

-- A character of such a name is none that means something else.
theorem ne_of_isBareKeyChar {c d : Char} (hc : isBareKeyChar c = true)
    (hd : isBareKeyChar d = false) : c ≠ d := by
  rintro rfl
  cases hc.symm.trans hd

theorem solid_of_isBareKeyChar {c : Char} (hc : isBareKeyChar c = true) : Solid c := by
  have hne {d : Char} (hd : isBareKeyChar d = false) : c ≠ d := ne_of_isBareKeyChar hc hd
  refine ⟨?_, hne (by decide), hne (by decide), hne (by decide)⟩
  simp [isBlank, hne (d := ' ') (by decide), hne (d := '\t') (by decide)]

namespace Bare

variable {name : String} (h : Bare name)

include h

theorem exists_cons : ∃ c cs, name.toList = c :: cs ∧ isBareKeyChar c = true := by
  obtain ⟨c, cs, hcs⟩ := List.exists_cons_of_ne_nil h.1
  exact ⟨c, cs, hcs, h.2 c (by simp [hcs])⟩

theorem keyPart {r : List Char} (hr : ∀ c ∈ r.head?, isBareKeyChar c = false) :
    keyPart? (name.toList ++ r) = some (name, r) := by
  obtain ⟨c, cs, hcs, hc⟩ := h.exists_cons
  have hone : oneLine? (name.toList ++ r) = none := by
    simp [hcs, oneLine?, ne_of_isBareKeyChar hc (d := '"') (by decide),
      ne_of_isBareKeyChar hc (d := '\'') (by decide)]
  have hspan : (name.toList ++ r).span isBareKeyChar = (name.toList, r) := by
    rw [List.span_eq_takeWhile_dropWhile, takeWhile_front h.2 hr, dropWhile_front h.2 hr]
  have hname : String.ofList (c :: cs) = name := by rw [← hcs, String.ofList_toList]
  rw [hcs] at hone hspan ⊢
  simp only [keyPart?, hone, hspan, hname]

-- A key is read together with the blanks after it.
theorem key {r : List Char} (hr : ∀ c ∈ r.head?, isBareKeyChar c = false)
    (hdot : expect '.' (skipBlanks r) = none) :
    key? (name.toList ++ r) = some ([name], skipBlanks r) := by
  obtain ⟨c, cs, hcs, hc⟩ := h.exists_cons
  have hskip : skipBlanks (name.toList ++ r) = name.toList ++ r := by
    simp [hcs, skipBlanks, (solid_of_isBareKeyChar hc).1]
  have hpart : paddedKeyPart? (name.toList ++ r) = some (name, skipBlanks r) := by
    simp [paddedKeyPart?, hskip, h.keyPart hr]
  simp [key?, separated, separatedWithin, hpart, hdot, nestingLimit]

-- The header of a section.
theorem line_header (r : List Char) :
    line? ('[' :: (name.toList ++ ']' :: r)) = some (.table [name], r) := by
  obtain ⟨c, cs, hcs, hc⟩ := h.exists_cons
  have hkey : key? (name.toList ++ ']' :: r) = some ([name], ']' :: r) :=
    h.key (r := ']' :: r) (by simp [isBareKeyChar]) rfl
  have hbracket : c ≠ '[' := ne_of_isBareKeyChar hc (by decide)
  rw [hcs, List.cons_append] at hkey ⊢
  simp [line?, hbracket, hkey, expect]

theorem line_entry {i : Item} (hi : i.fits = true) (r : List Char) :
    line? (name.toList ++ ' ' :: '=' :: ' ' :: (i.print.toList ++ '\n' :: r)) =
      some (.entry [name] i.toJson, '\n' :: r) := by
  obtain ⟨c, cs, hcs, hc⟩ := h.exists_cons
  have hkey : key? (name.toList ++ ' ' :: '=' :: ' ' :: (i.print.toList ++ '\n' :: r)) =
      some ([name], '=' :: ' ' :: (i.print.toList ++ '\n' :: r)) :=
    h.key (r := ' ' :: '=' :: ' ' :: _) (by simp [isBareKeyChar]) rfl
  have hblank : skipBlanks (' ' :: (i.print.toList ++ '\n' :: r)) =
      i.print.toList ++ '\n' :: r := by
    obtain ⟨d, rest, hd, hsolid⟩ := exists_print_cons i
    have hspace : isBlank ' ' = true := by decide
    simp [hd, skipBlanks, hspace, hsolid]
  have hvalue : value? (nestingLimit - 1) (i.print.toList ++ '\n' :: r) =
      some (i.toJson, '\n' :: r) :=
    value_print 78 hi r
  have hbracket : c ≠ '[' := ne_of_isBareKeyChar hc (by decide)
  rw [hcs, List.cons_append] at hkey ⊢
  simp [line?, hbracket, keyValue?, hkey, expect, hblank, hvalue]

end Bare

-- A section in which no name needs quotes or comes twice.
structure Section.Plain (s : Section) : Prop where
  name : Bare s.name
  keys : ∀ key ∈ s.items.map (·.1), Bare key
  nodup : (s.items.map (·.1)).Nodup

-- One whose numbers can be written besides.
structure Section.Writable (s : Section) : Prop extends Section.Plain s where
  fits : ∀ i ∈ s.items, i.2.fits = true

-- What the lines of a section say.
def Section.lines (s : Section) : List Line :=
  .table [s.name] :: s.items.map fun i => .entry [i.1] i.2.toJson

def itemsText (items : List (String × Item)) : List Char :=
  items.flatMap fun i => i.1.toList ++ ' ' :: '=' :: ' ' :: (i.2.print.toList ++ ['\n'])

theorem Section.toList_print (s : Section) :
    s.print.toList = '[' :: (s.name.toList ++ ']' :: '\n' :: itemsText s.items) := by
  simp [Section.print, itemsText, String.toList_join, List.flatMap_map]

-- One line is read, with the end of the one before it.
theorem lines_cons {fuel : Nat} {taken : List Line} {cs r : List Char} {line : Line}
    (h : line? (skipGap cs) = some (line, '\n' :: r)) :
    lines? (fuel + 1) taken cs = lines? fuel (line :: taken) r := by
  have hend : endLine? ('\n' :: r) = some r := rfl
  cases hgap : skipGap cs with
  | nil =>
    rw [hgap] at h
    cases h
  | cons c rest =>
    rw [hgap] at h
    simp only [lines?, hgap, h, hend]

theorem lines_itemsText {items : List (String × Item)}
    (hkeys : ∀ key ∈ items.map (·.1), Bare key) (hfits : ∀ i ∈ items, i.2.fits = true)
    (fuel : Nat) (taken : List Line) (r : List Char) :
    lines? (fuel + items.length) taken (itemsText items ++ r) =
      lines? fuel ((items.map fun i => .entry [i.1] i.2.toJson).reverse ++ taken) r := by
  induction items generalizing taken with
  | nil => rfl
  | cons i items ih =>
    obtain ⟨hkey, hkeys⟩ := List.forall_mem_cons.mp hkeys
    obtain ⟨hfit, hfits⟩ := List.forall_mem_cons.mp hfits
    have htext : itemsText (i :: items) ++ r = i.1.toList ++ ' ' :: '=' :: ' ' ::
        (i.2.print.toList ++ '\n' :: (itemsText items ++ r)) := by
      simp [itemsText]
    have hline := hkey.line_entry hfit (itemsText items ++ r)
    obtain ⟨c, cs, hcs, hc⟩ := hkey.exists_cons
    rw [htext, List.length_cons, ← Nat.add_assoc]
    rw [hcs, List.cons_append] at hline ⊢
    rw [← skipGap_solid (solid_of_isBareKeyChar hc)] at hline
    rw [lines_cons hline, ih hkeys hfits]
    simp

-- An empty line may come first.
theorem lines_section {s : Section} (h : s.Writable) {gap : List Char}
    (hgap : gap = [] ∨ gap = ['\n']) (fuel : Nat) (taken : List Line) (r : List Char) :
    lines? (fuel + s.lines.length) taken (gap ++ (s.print.toList ++ r)) =
      lines? fuel (s.lines.reverse ++ taken) r := by
  have hsolid : Solid '[' := ⟨by decide, by decide, by decide, by decide⟩
  have htext : s.print.toList ++ r =
      '[' :: (s.name.toList ++ ']' :: '\n' :: (itemsText s.items ++ r)) := by
    simp [s.toList_print]
  have hskip : skipGap (gap ++ (s.print.toList ++ r)) = s.print.toList ++ r := by
    rw [htext]
    rcases hgap with rfl | rfl
    · exact skipGap_solid hsolid _
    · exact skipGap_newline hsolid [] (by simp) _
  have hline : line? (skipGap (gap ++ (s.print.toList ++ r))) =
      some (.table [s.name], '\n' :: (itemsText s.items ++ r)) := by
    rw [hskip, htext]
    exact h.name.line_header _
  have hlength : fuel + s.lines.length = fuel + s.items.length + 1 := by
    simp [Section.lines, Nat.add_assoc]
  rw [hlength, lines_cons hline, lines_itemsText h.keys h.fits]
  simp [Section.lines]

theorem lines_sections {sections : List Section} (h : ∀ s ∈ sections, s.Writable) (fuel : Nat)
    (taken : List Line) :
    lines? (fuel + 1 + (sections.flatMap Section.lines).length) taken
        (sections.flatMap fun s => '\n' :: s.print.toList) =
      some (taken.reverse ++ sections.flatMap Section.lines) := by
  induction sections generalizing taken with
  | nil => simp [lines?, skipGap, skipGapWithin]
  | cons s sections ih =>
    obtain ⟨hs, hsections⟩ := List.forall_mem_cons.mp h
    have hlength : fuel + 1 + ((s :: sections).flatMap Section.lines).length =
        fuel + 1 + (sections.flatMap Section.lines).length + s.lines.length := by
      simp only [List.flatMap_cons, List.length_append]
      omega
    have hread := lines_section hs (.inr rfl)
      (fuel + 1 + (sections.flatMap Section.lines).length) taken
      (sections.flatMap fun s => '\n' :: s.print.toList)
    rw [hlength, List.flatMap_cons]
    refine hread.trans ?_
    rw [ih hsections]
    simp

-- A document of sections with an empty line between them.

theorem toList_sections (s : Section) (sections : List Section) :
    ("\n".intercalate ((s :: sections).map Section.print)).toList =
      s.print.toList ++ sections.flatMap fun s => '\n' :: s.print.toList := by
  induction sections generalizing s with
  | nil => simp
  | cons s' sections ih =>
    have hnext := ih s'
    rw [List.map_cons] at hnext
    rw [List.map_cons, List.map_cons, String.intercalate_cons_cons, String.toList_append,
      String.toList_append, hnext]
    simp

private theorem length_lines_le (s : Section) : s.lines.length ≤ s.print.toList.length := by
  have hitems : s.items.length ≤ (itemsText s.items).length := length_le_flatMap (by simp) _
  rw [s.toList_print]
  simp only [Section.lines, List.length_cons, List.length_append, List.length_map]
  omega

theorem lines_print {sections : List Section} (h : ∀ s ∈ sections, s.Writable) {cs : List Char}
    (hcs : cs = ("\n".intercalate (sections.map Section.print)).toList) :
    lines? (cs.length + 1) [] cs = some (sections.flatMap Section.lines) := by
  cases sections with
  | nil =>
    subst hcs
    rfl
  | cons s sections =>
    obtain ⟨hs, hsections⟩ := List.forall_mem_cons.mp h
    rw [toList_sections] at hcs
    have htext := congrArg List.length hcs
    have hrest := length_flatMap_le (f := Section.lines) (g := fun s => '\n' :: s.print.toList)
      (fun s => Nat.le_succ_of_le (length_lines_le s)) sections
    have hlength := Nat.add_le_add (length_lines_le s) hrest
    rw [List.length_append] at htext
    obtain ⟨fuel, hfuel⟩ := Nat.exists_eq_add_of_le hlength
    have hfirst := lines_section hs (.inl rfl)
      (fuel + 1 + (sections.flatMap Section.lines).length) []
      (sections.flatMap fun s => '\n' :: s.print.toList)
    have hcount : cs.length + 1 =
        fuel + 1 + (sections.flatMap Section.lines).length + s.lines.length := by
      omega
    rw [List.nil_append, ← hcs, lines_sections hsections] at hfirst
    rw [hcount, hfirst]
    simp

-- The tables that the lines stand for. No key comes twice.

namespace Table

theorem alter?_of_new {key : String} {change : Option Node → Option Node} {t : Table}
    (h : key ∉ t.map (·.1)) :
    alter? key change t = (change none).map fun n => t ++ [(key, n)] := by
  induction t with
  | nil => rfl
  | cons m t ih =>
    obtain ⟨k, n⟩ := m
    obtain ⟨hk, ht⟩ : ¬key = k ∧ key ∉ t.map (·.1) := by simpa using h
    simp only [alter?, if_neg (Ne.symm hk), ih ht]
    cases change none <;> rfl

-- Entries of one part each.
theorem ofEntries?_of_new {items : List (String × Json)} (start : Table)
    (h : (start.map (·.1) ++ items.map (·.1)).Nodup) :
    ofEntries? (items.map fun i => ([i.1], i.2)) start =
      some (start ++ items.map fun i => (i.1, .leaf i.2)) := by
  induction items generalizing start with
  | nil => simp [ofEntries?]
  | cons i items ih =>
    have hnew : i.1 ∉ start.map (·.1) := by
      intro hmem
      exact (List.nodup_append.mp h).2.2 _ hmem _ (by simp) rfl
    have hadd : addKeyValue? [i.1] i.2 start = some (start ++ [(i.1, .leaf i.2)]) := by
      simp only [addKeyValue?, List.reverse_singleton, List.reverse_nil, within?, List.isEmpty_nil,
        Bool.true_or, if_true, insertNew?, alter?_of_new hnew]
      rfl
    have hrest := ih (start ++ [(i.1, .leaf i.2)]) (by simpa using h)
    have hfold : ofEntries? ((i :: items).map fun i => ([i.1], i.2)) start =
        (addKeyValue? [i.1] i.2 start).bind
          (ofEntries? (items.map fun i => ([i.1], i.2))) := by
      simp only [ofEntries?, List.map_cons, List.foldlM_cons]
      rfl
    rw [hfold, hadd, Option.bind_some, hrest]
    simp

end Table

theorem entriesOf_append (entries : List (List String × Json)) {rest : List Line}
    (h : entriesOf rest = ([], rest)) :
    entriesOf (entries.map (fun e => .entry e.1 e.2) ++ rest) = (entries, rest) := by
  induction entries with
  | nil => exact h
  | cons e entries ih =>
    rw [List.map_cons, List.cons_append, entriesOf, ih]

-- What a section becomes.
def Section.table (s : Section) : String × Node :=
  (s.name, .table .header (s.items.map fun i => (i.1, .leaf i.2.toJson)))

theorem addTable?_section {s : Section} (h : s.Writable) {t : Table}
    (hnew : s.name ∉ t.map (·.1)) :
    t.addTable? [s.name] (s.items.map fun i => ([i.1], i.2.toJson)) =
      some (t ++ [s.table]) := by
  have hkeys : (([] : Table).map (·.1) ++
      (s.items.map fun i => (i.1, i.2.toJson)).map (·.1)).Nodup := by
    simpa [Function.comp_def] using h.nodup
  have hentries := Table.ofEntries?_of_new [] hkeys
  simp only [List.map_map, Function.comp_def, List.nil_append] at hentries
  simp only [Table.addTable?, List.reverse_singleton, List.reverse_nil, Table.within?,
    Table.alter?_of_new hnew, hentries]
  rfl

theorem addSections_lines {sections : List Section} (h : ∀ s ∈ sections, s.Writable) {t : Table}
    (hnames : (t.map (·.1) ++ sections.map (·.name)).Nodup) :
    addSections? (sections.flatMap Section.lines) t = some (t ++ sections.map Section.table) := by
  induction sections generalizing t with
  | nil => simp [addSections?]
  | cons s sections ih =>
    obtain ⟨hs, hsections⟩ := List.forall_mem_cons.mp h
    have hnew : s.name ∉ t.map (·.1) := by
      intro hmem
      exact (List.nodup_append.mp hnames).2.2 _ hmem _ (by simp) rfl
    have hstop : entriesOf (sections.flatMap Section.lines) =
        ([], sections.flatMap Section.lines) := by
      cases sections <;> rfl
    have hentries := entriesOf_append (s.items.map fun i => ([i.1], i.2.toJson)) hstop
    have hlines : (s :: sections).flatMap Section.lines = .table [s.name] ::
        ((s.items.map fun i => ([i.1], i.2.toJson)).map (fun e => .entry e.1 e.2) ++
          sections.flatMap Section.lines) := by
      simp [Section.lines, Function.comp_def]
    have hrest := ih hsections (t := t ++ [s.table]) (by simpa [Section.table] using hnames)
    rw [hlines, addSections?, hentries, addTable?_section hs hnew, Option.bind_some, hrest]
    simp

theorem build_lines {sections : List Section} (h : ∀ s ∈ sections, s.Writable)
    (hnames : (sections.map (·.name)).Nodup) :
    build? (sections.flatMap Section.lines) = some (sections.map Section.table) := by
  have hstop : entriesOf (sections.flatMap Section.lines) =
      ([], sections.flatMap Section.lines) := by
    cases sections <;> rfl
  have hadd := addSections_lines h (t := []) (by simpa using hnames)
  simp only [build?, hstop]
  simpa [Table.ofEntries?] using hadd

theorem membersToJson_map {α : Type} (f : α → String × Node) (l : List α) :
    membersToJson (l.map f) = l.map fun a => ((f a).1, (f a).2.toJson) := by
  induction l with
  | nil => rfl
  | cons a l ih => rw [List.map_cons, membersToJson, ih, List.map_cons]

theorem toJson_tables (sections : List Section) :
    Table.toJson (sections.map Section.table) =
      .object (sections.map fun s => (s.name, s.toJson)) := by
  have hsection (s : Section) : s.table.2.toJson = s.toJson := by
    simp only [Section.table, Node.toJson, membersToJson_map, Section.toJson]
  simp only [Table.toJson, membersToJson_map, hsection]
  rfl

theorem print?_eq_some {sections : List Section} {text : String}
    (h : print? sections = some text) :
    (∀ s ∈ sections, ∀ i ∈ s.items, i.2.fits = true) ∧
      text = "\n".intercalate (sections.map Section.print) := by
  unfold print? at h
  split at h
  next hfits => exact ⟨by simpa using hfits, (Option.some.inj h).symm⟩
  next => cases h

-- What was written is read as it was, whatever the texts hold.
theorem read_print {sections : List Section} (h : ∀ s ∈ sections, s.Plain)
    (hnames : (sections.map (·.name)).Nodup) {text : String} (htext : print? sections = some text) :
    read? text = some (.object (sections.map fun s => (s.name, s.toJson))) := by
  obtain ⟨hfits, htext⟩ := print?_eq_some htext
  have hwritable : ∀ s ∈ sections, s.Writable := fun s hs => ⟨h s hs, hfits s hs⟩
  have hmark : withoutMark text.toList = text.toList := by
    rw [htext]
    cases sections with
    | nil => rfl
    | cons s sections =>
      rw [toList_sections, s.toList_print]
      rfl
  have hlines := lines_print hwritable (congrArg String.toList htext)
  simp only [read?, hmark, hlines]
  simp [build_lines hwritable hnames, toJson_tables]

end Rulebook.Toml
