import Rulebook.Classification
import Rulebook.Proofs.Lines
import Mathlib.Data.List.Basic

namespace Rulebook

-- What an engine is told of one source.
structure SourceBlock where
  index : Nat
  predicate : String
  parameters : SourceParameters
  deriving DecidableEq

namespace SourceBlock

-- The lines of a block, without the empty one at its end.
def lines (b : SourceBlock) : List (List Char) :=
  (DataSource.configurationLines (toString b.index) b.predicate b.parameters).map fun l =>
    (l.1 ++ "=" ++ l.2).toList

def text (b : SourceBlock) : String :=
  DataSource.configurationBlock (toString b.index) b.predicate b.parameters

-- The texts in a block.
def values (b : SourceBlock) : List String :=
  b.predicate :: b.parameters.kind :: b.parameters.values

-- No text in a block goes over the end of its line.
def OneLined (b : SourceBlock) : Prop :=
  ∀ v ∈ b.values, '\n' ∉ v.toList

-- Blocks are read without knowing where they are from.

-- What a line has after a key and an equals sign.
def value? (key : String) (line : List Char) : Option String :=
  let start := (key ++ "=").toList
  if start <+: line then some (String.ofList (line.drop start.length)) else none

-- The number is read off the first line, and the others have to bear the same one.
def ofLines? : List (List Char) → Option SourceBlock
  | predicate :: kind :: parameters => do
    let digits := (predicate.drop 3).takeWhile Char.isDigit
    let key := "EDB" ++ String.ofList digits
    let predicate ← value? (key ++ "_predname") predicate
    let kind ← value? (key ++ "_type") kind
    let values ← parameters.zipIdx.mapM fun v => value? (key ++ "_param" ++ toString v.2) v.1
    some ⟨Nat.ofDigitChars 10 digits 0, predicate, kind, values⟩
  | _ => none

-- A text of blocks, with an empty line after each.
def read? (text : String) : Option (List SourceBlock) :=
  match ((text.toList.splitOn '\n').splitOn []).reverse with
  | [] :: [] :: blocks => blocks.reverse.mapM ofLines?
  | _ => none

theorem value?_append (key value : String) :
    value? key (key ++ "=" ++ value).toList = some value := by
  simp [value?]

-- What is read of a line was in it.
theorem subset_of_value? {key value : String} {line : List Char}
    (h : value? key line = some value) : value.toList ⊆ line := by
  simp only [value?] at h
  split at h
  · rw [← Option.some.inj h, String.toList_ofList]
    exact List.drop_subset _ _
  · cases h

theorem mapM_value?_zipIdx (key : String) (values : List String) (n : Nat) :
    ((((values.zipIdx n).map fun v => (key ++ "_param" ++ toString v.2, v.1)).map fun l =>
      (l.1 ++ "=" ++ l.2).toList).zipIdx n).mapM
        (fun v => value? (key ++ "_param" ++ toString v.2) v.1) = some values := by
  induction values generalizing n with
  | nil => rfl
  | cons v values ih =>
    simp only [List.zipIdx_cons, List.map_cons, List.mapM_cons, ih, value?_append]
    rfl

-- The number of a block, from its first line.
theorem digits_line (index : Nat) (r : List Char) :
    ((("EDB" ++ toString index ++ "_predname").toList ++ r).drop 3).takeWhile Char.isDigit =
      Nat.toDigits 10 index := by
  have hline : (("EDB" ++ toString index ++ "_predname").toList ++ r).drop 3 =
      Nat.toDigits 10 index ++ ("_predname".toList ++ r) := by
    simp
  rw [hline, List.takeWhile_append_of_pos fun c hc =>
    Nat.isDigit_of_mem_toDigits (by decide) (by decide) hc]
  simp

theorem ofLines?_lines (b : SourceBlock) : ofLines? b.lines = some b := by
  have hdigits : (((("EDB" ++ toString b.index ++ "_predname") ++ "=" ++
      b.predicate).toList.drop 3).takeWhile Char.isDigit) = Nat.toDigits 10 b.index := by
    have h := digits_line b.index ("=".toList ++ b.predicate.toList)
    rwa [← String.toList_append, ← String.toList_append, ← String.append_assoc] at h
  have hkey : "EDB" ++ String.ofList (Nat.toDigits 10 b.index) = "EDB" ++ toString b.index := by
    rw [Nat.toString_eq_ofList_toDigits]
  have hvalues := mapM_value?_zipIdx ("EDB" ++ toString b.index) b.parameters.values 0
  simp only [lines, DataSource.configurationLines, List.map_cons, ofLines?, hdigits, hkey, hvalues,
    value?_append, Nat.ofDigitChars_ten_toDigits]
  rfl

private theorem newline_not_mem_toDigits (n : Nat) : '\n' ∉ Nat.toDigits 10 n := by
  intro h
  have hdigit := Nat.isDigit_of_mem_toDigits (by decide) (by decide) h
  simp at hdigit

-- The keys fit on a line.
theorem exists_value_of_mem_lines {b : SourceBlock} {l : List Char} (h : l ∈ b.lines) :
    ∃ key value, l = (key ++ "=" ++ value).toList ∧ '\n' ∉ key.toList ∧ value ∈ b.values := by
  have hnumber := newline_not_mem_toDigits
  simp only [lines, DataSource.configurationLines, List.map_cons, List.mem_cons, List.map_map,
    List.mem_map] at h
  rcases h with rfl | rfl | ⟨⟨v, n⟩, hv, rfl⟩
  · exact ⟨_, _, rfl, by simp [hnumber], List.mem_cons_self⟩
  · exact ⟨_, _, rfl, by simp [hnumber], List.mem_cons_of_mem _ List.mem_cons_self⟩
  · have hmem := (List.mem_zipIdx hv).2.2
    refine ⟨_, _, rfl, by simp [hnumber], List.mem_cons_of_mem _ (List.mem_cons_of_mem _ ?_)⟩
    exact hmem ▸ List.getElem_mem _

theorem OneLined.fits {b : SourceBlock} (h : b.OneLined) : ∀ l ∈ b.lines, '\n' ∉ l ∧ [] ≠ l := by
  intro l hl
  obtain ⟨key, value, rfl, hkey, hvalue⟩ := exists_value_of_mem_lines hl
  refine ⟨?_, by simp⟩
  simp only [String.toList_append, List.mem_append, not_or]
  exact ⟨⟨hkey, by decide⟩, h value hvalue⟩

theorem toList_text (b : SourceBlock) :
    b.text.toList = (b.lines ++ [[]]).flatMap (· ++ ['\n']) := by
  simp [text, DataSource.configurationBlock, lines, String.toList_join, List.flatMap_map]

-- A text of blocks.
def join (blocks : List SourceBlock) : String :=
  String.join (blocks.map text)

theorem toList_join (blocks : List SourceBlock) :
    (join blocks).toList =
      ((blocks.map lines).flatMap (· ++ [[]])).flatMap (· ++ ['\n']) := by
  rw [join, String.toList_join]
  simp [List.flatMap_map, List.flatMap_assoc, toList_text]

-- Empty lines stand between blocks, and nowhere else.
theorem groups_join {blocks : List SourceBlock} (h : ∀ b ∈ blocks, b.OneLined) :
    ((join blocks).toList.splitOn '\n').splitOn [] = blocks.map lines ++ [[], []] := by
  have hfits : ∀ ls ∈ blocks.map lines, ∀ l ∈ ls, '\n' ∉ l ∧ [] ≠ l := by
    simpa using fun b hb => (h b hb).fits
  have hlines : (join blocks).toList.splitOn '\n' =
      (blocks.map lines ++ [[]]).flatMap (· ++ [[]]) := by
    rw [toList_join, splitOn_flatMap]
    · simp
    · intro l hl
      obtain ⟨ls, hls, hl⟩ := List.mem_flatMap.mp hl
      rcases List.mem_append.mp hl with hl | hl
      · exact (hfits ls hls l hl).1
      · simp [List.mem_singleton.mp hl]
  rw [hlines, splitOn_flatMap]
  · simp
  · intro ls hls hmem
    rcases List.mem_append.mp hls with hls | hls
    · exact (hfits ls hls [] hmem).2 rfl
    · simp [List.mem_singleton.mp hls] at hmem

theorem read?_join {blocks : List SourceBlock} (h : ∀ b ∈ blocks, b.OneLined) :
    read? (join blocks) = some blocks := by
  have hlines : (blocks.map lines).mapM ofLines? = some blocks := by
    have hall : ofLines? ∘ lines = pure := funext ofLines?_lines
    rw [List.mapM_map, hall, List.mapM_pure, List.map_id']
    rfl
  simp [read?, groups_join h, ← List.map_reverse, hlines]

theorem mem_of_mapM {α β : Type} {f : α → Option β} {xs : List α} {ys : List β}
    (h : xs.mapM f = some ys) {y : β} (hy : y ∈ ys) : ∃ x ∈ xs, f x = some y := by
  induction xs generalizing ys with
  | nil =>
    obtain rfl := Option.some.inj h
    cases hy
  | cons x xs ih =>
    simp only [List.mapM_cons, Option.bind_eq_bind, Option.bind_eq_some_iff] at h
    obtain ⟨first, hfirst, rest, hrest, hys⟩ := h
    obtain rfl := Option.some.inj hys
    rcases List.mem_cons.mp hy with rfl | hy
    · exact ⟨x, List.mem_cons_self, hfirst⟩
    · obtain ⟨x', hx', hy⟩ := ih hrest hy
      exact ⟨x', List.mem_cons_of_mem x hx', hy⟩

-- What is read of lines has no newlines.
theorem oneLined_of_ofLines? {ls : List (List Char)} {b : SourceBlock}
    (hls : ∀ l ∈ ls, '\n' ∉ l) (h : ofLines? ls = some b) : b.OneLined := by
  unfold ofLines? at h
  split at h
  next predicate kind parameters =>
    simp only [Option.bind_eq_bind, Option.bind_eq_some_iff, Option.some.injEq] at h
    obtain ⟨p, hp, k, hk, vs, hvs, rfl⟩ := h
    obtain ⟨hpredicate, hkind, hparameters⟩ := by simpa using hls
    intro v hv hmem
    simp only [values, List.mem_cons] at hv
    rcases hv with rfl | rfl | hv
    · exact hpredicate (subset_of_value? hp hmem)
    · exact hkind (subset_of_value? hk hmem)
    · obtain ⟨⟨l, n⟩, hl, hvalue⟩ := mem_of_mapM hvs hv
      exact hparameters l (List.fst_mem_of_mem_zipIdx hl) (subset_of_value? hvalue hmem)
  next => cases h

theorem oneLined_of_read? {text : String} {blocks : List SourceBlock}
    (h : read? text = some blocks) : ∀ b ∈ blocks, b.OneLined := by
  unfold read? at h
  split at h
  next groups hgroups =>
    intro b hb
    obtain ⟨ls, hls, hread⟩ := mem_of_mapM h hb
    refine oneLined_of_ofLines? (fun l hl => ?_) hread
    have hmem : ls ∈ (text.toList.splitOn '\n').splitOn [] := by
      rw [← List.mem_reverse, hgroups]
      exact List.mem_cons_of_mem _ (List.mem_cons_of_mem _ (List.mem_reverse.mp hls))
    exact (of_mem_splitOn ((of_mem_splitOn hmem).2 hl)).1
  next => cases h

theorem read?_join_iff {blocks : List SourceBlock} :
    read? (join blocks) = some blocks ↔ ∀ b ∈ blocks, b.OneLined :=
  ⟨oneLined_of_read?, read?_join⟩

-- A block tells of the source at a position, with the predicate that it feeds.
structure Tells (e : (Predicate × DataSource) × Nat) (b : SourceBlock) : Prop where
  index : b.index = e.2
  predicate : b.predicate = e.1.1.engineName
  parameters : e.1.2.parameters = .ok b.parameters

end SourceBlock

open SourceBlock

namespace DataSource

theorem stem?_eq_some {extensions : List String} {name stem : String}
    (h : stem? extensions name = some stem) :
    ∃ ending ∈ extensions, name = stem ++ ending ∧ stem ≠ "" := by
  unfold stem? at h
  obtain ⟨cs, hfound, hcs⟩ := Option.bind_eq_some_iff.mp h
  obtain ⟨ending, hending, hwithout⟩ := List.exists_of_findSome?_eq_some hfound
  unfold withoutEnding? at hwithout
  split at hwithout
  next hsuffix =>
    obtain ⟨front, hfront⟩ := hsuffix
    have hcs' : front = cs := by
      rw [← Option.some.inj hwithout, ← hfront]
      simp
    subst hcs'
    split at hcs
    · cases hcs
    next hne =>
      obtain rfl := Option.some.inj hcs
      refine ⟨ending, hending, ?_, ?_⟩
      · rw [← String.toList_inj, String.toList_append, String.toList_ofList, hfront]
      · simpa [← String.toList_inj] using hne
  next => cases hwithout

-- A file has parameters if its name is more than one of the extensions.
theorem exists_stem {extensions : List String} {path : Path} {ps : SourceParameters}
    (h : fileParameters extensions path = .ok ps) :
    ∃ stem ending, path.nameText? = some (stem ++ ending) ∧ ending ∈ extensions ∧ stem ≠ "" ∧
      ps = ⟨"INMEMORY", [path.folder, stem]⟩ := by
  unfold fileParameters at h
  split at h
  · cases h
  next name hname =>
    split at h
    · cases h
    next stem hstem =>
      obtain ⟨ending, hending, rfl, hne⟩ := stem?_eq_some hstem
      exact ⟨stem, ending, hname, hending, hne, (Except.ok.inj h).symm⟩

-- A name ends in at most one of the extensions, if none of them is the end of another one.
private theorem stem?_append {extensions : List String} {stem ending : String}
    (hextensions : ∀ e ∈ extensions, ∀ e' ∈ extensions, e.toList <:+ e'.toList → e = e')
    (hending : ending ∈ extensions) (hstem : stem ≠ "") :
    stem? extensions (stem ++ ending) = some stem := by
  have hfits {e : String} (he : e ∈ extensions)
      (hsuffix : e.toList <:+ (stem ++ ending).toList) : e = ending := by
    rw [String.toList_append] at hsuffix
    rcases List.suffix_or_suffix_of_suffix hsuffix (List.suffix_append _ _) with h | h
    · exact hextensions e he ending hending h
    · exact (hextensions ending hending e he h).symm
  have hwithout : withoutEnding? ending.toList (stem ++ ending).toList = some stem.toList := by
    simp [withoutEnding?]
  unfold stem?
  cases hfound : extensions.findSome? fun e => withoutEnding? e.toList (stem ++ ending).toList with
  | none =>
    have hnone := List.findSome?_eq_none_iff.mp hfound ending hending
    rw [hwithout] at hnone
    cases hnone
  | some cs =>
    obtain ⟨e, he, hcs⟩ := List.exists_of_findSome?_eq_some hfound
    have hsuffix : e.toList <:+ (stem ++ ending).toList := by
      unfold withoutEnding? at hcs
      split at hcs
      · assumption
      · cases hcs
    rw [hfits he hsuffix, hwithout] at hcs
    obtain rfl := Option.some.inj hcs
    simp [hstem]

-- What a file or a query needs to be handed to an engine: a name that is text, ends in one of the
-- extensions and says more than that, or an endpoint and variables.
def Usable : DataSource → Prop
  | csvFile path => ∃ stem ending, path.nameText? = some (stem ++ ending) ∧
    ending ∈ csvExtensions ∧ stem ≠ ""
  | rdfFile path => ∃ stem ending, path.nameText? = some (stem ++ ending) ∧
    ending ∈ rdfExtensions ∧ stem ≠ ""
  | sparqlQuery endpoint selection _ => endpoint ≠ "" ∧ selection ≠ ""

private theorem exists_fileParameters_iff {extensions : List String} {path : Path}
    (hextensions : ∀ e ∈ extensions, ∀ e' ∈ extensions, e.toList <:+ e'.toList → e = e') :
    (∃ ps, fileParameters extensions path = .ok ps) ↔
      ∃ stem ending, path.nameText? = some (stem ++ ending) ∧ ending ∈ extensions ∧ stem ≠ "" := by
  constructor
  · rintro ⟨ps, hps⟩
    obtain ⟨stem, ending, hname, hending, hstem, -⟩ := exists_stem hps
    exact ⟨stem, ending, hname, hending, hstem⟩
  · rintro ⟨stem, ending, hname, hending, hstem⟩
    simp only [fileParameters, hname, stem?_append hextensions hending hstem]
    exact ⟨_, rfl⟩

theorem exists_parameters_iff {s : DataSource} : (∃ ps, s.parameters = .ok ps) ↔ s.Usable := by
  cases s with
  | csvFile path => exact exists_fileParameters_iff (by decide)
  | rdfFile path => exact exists_fileParameters_iff (by decide)
  | sparqlQuery endpoint selection query =>
    simp only [parameters, Usable]
    split
    next h =>
      have h : endpoint = "" ∨ selection = "" := by simpa using h
      simp only [reduceCtorEq, exists_false, false_iff]
      exact fun hs => h.elim hs.1 hs.2
    next h => simpa using h

-- The directory and the name of a file fit on a line. In a query, newlines are replaced.
def Straight : DataSource → Prop
  | csvFile path | rdfFile path =>
    '\n' ∉ path.directory.shown.toList ∧ ∀ name, path.nameText? = some name → '\n' ∉ name.toList
  | sparqlQuery _ _ _ => True

theorem newline_not_mem_oneLine (s : String) : '\n' ∉ (oneLine s).toList := by
  simp only [oneLine, String.toList_ofList, List.mem_map, not_exists, not_and]
  intro c _ hc
  split at hc
  · cases hc
  · contradiction

private theorem straight_file {extensions : List String} {path : Path} {ps : SourceParameters}
    (hextensions : ∀ ending ∈ extensions, '\n' ∉ ending.toList)
    (h : fileParameters extensions path = .ok ps) :
    (∀ v ∈ ps.values, '\n' ∉ v.toList) ↔ '\n' ∉ path.directory.shown.toList ∧
      ∀ name, path.nameText? = some name → '\n' ∉ name.toList := by
  obtain ⟨stem, ending, hname, hending, -, rfl⟩ := exists_stem h
  have hdirectory : '\n' ∉ path.folder.toList ↔ '\n' ∉ path.directory.shown.toList := by
    unfold Path.folder
    split
    next he => simp [String.isEmpty_iff.mp he]
    next => rfl
  rw [List.forall_mem_cons, List.forall_mem_singleton, hdirectory]
  simp [hname, hextensions ending hending]

-- What a source needs for its block to be read as it is meant.
theorem straight_iff {s : DataSource} {ps : SourceParameters} (h : s.parameters = .ok ps) :
    (∀ v ∈ ps.values, '\n' ∉ v.toList) ↔ s.Straight := by
  cases s with
  | csvFile path => exact straight_file (by decide) h
  | rdfFile path => exact straight_file (by decide) h
  | sparqlQuery endpoint selection query =>
    simp only [parameters] at h
    split at h
    · cases h
    · obtain rfl := Except.ok.inj h
      simp [Straight, newline_not_mem_oneLine]

theorem newline_not_mem_kind {s : DataSource} {ps : SourceParameters}
    (h : s.parameters = .ok ps) : '\n' ∉ ps.kind.toList := by
  cases s with
  | csvFile path | rdfFile path =>
    obtain ⟨-, -, -, -, -, rfl⟩ := exists_stem h
    simp
  | sparqlQuery endpoint selection query =>
    simp only [parameters] at h
    split at h
    · cases h
    · obtain rfl := Except.ok.inj h
      simp

end DataSource

-- Either every source has its block, or the first one that cannot be used is the reason why not.
theorem DataSource.configuration_cases (sources : List (Predicate × DataSource)) (n : Nat) :
    (∃ blocks, List.Forall₂ Tells (sources.zipIdx n) blocks ∧ (∀ x ∈ sources, x.2.Usable) ∧
      ((sources.zipIdx n).mapM fun e => e.1.2.configuration e.2 e.1.1.engineName) =
        .ok (blocks.map SourceBlock.text)) ∨
    ∃ before p s after e, sources = before ++ (p, s) :: after ∧ (∀ x ∈ before, x.2.Usable) ∧
      ¬s.Usable ∧ s.parameters = .error e ∧
      ((sources.zipIdx n).mapM fun e => e.1.2.configuration e.2 e.1.1.engineName) = .error e := by
  induction sources generalizing n with
  | nil => exact .inl ⟨[], .nil, nofun, rfl⟩
  | cons source sources ih =>
    obtain ⟨p, s⟩ := source
    rw [List.zipIdx_cons, List.mapM_cons]
    cases hs : s.parameters with
    | error e =>
      have hunusable : ¬s.Usable := by
        rintro h
        obtain ⟨ps, hps⟩ := exists_parameters_iff.mpr h
        cases hs.symm.trans hps
      refine .inr ⟨[], p, s, sources, e, rfl, nofun, hunusable, hs, ?_⟩
      simp only [configuration, hs]
      rfl
    | ok ps =>
      have husable : s.Usable := exists_parameters_iff.mp ⟨ps, hs⟩
      have hconfiguration : s.configuration n p.engineName =
          .ok (SourceBlock.text ⟨n, p.engineName, ps⟩) := by
        rw [configuration, hs]
        rfl
      simp only [hconfiguration]
      rcases ih (n + 1) with
        ⟨blocks, hblocks, hall, hok⟩ | ⟨before, p', s', after, e, rfl, hbefore, hs', he, herror⟩
      · refine .inl ⟨⟨n, p.engineName, ps⟩ :: blocks, .cons ⟨rfl, rfl, hs⟩ hblocks, ?_, ?_⟩
        · exact List.forall_mem_cons.mpr ⟨husable, hall⟩
        · rw [hok]
          rfl
      · refine .inr ⟨(p, s) :: before, p', s', after, e, rfl, ?_, hs', he, ?_⟩
        · exact List.forall_mem_cons.mpr ⟨husable, hbefore⟩
        · rw [herror]
          rfl

theorem SourceBlock.Tells.oneLined_iff {e : (Predicate × DataSource) × Nat} {b : SourceBlock}
    (h : Tells e b) : b.OneLined ↔ '\n' ∉ e.1.1.name.toList ∧ e.1.2.Straight := by
  have hkind := DataSource.newline_not_mem_kind h.parameters
  have hpredicate : '\n' ∉ b.predicate.toList ↔ '\n' ∉ e.1.1.name.toList := by
    simp [h.predicate, Predicate.engineName, newline_not_mem_toDigits]
  rw [← DataSource.straight_iff h.parameters, ← hpredicate]
  simp [OneLined, values, hkind]

theorem forall_mem_iff_of_forall₂ {α β : Type} {r : α → β → Prop} {p : α → Prop} {q : β → Prop}
    (hpq : ∀ a b, r a b → (q b ↔ p a)) {as : List α} {bs : List β} (h : List.Forall₂ r as bs) :
    (∀ b ∈ bs, q b) ↔ ∀ a ∈ as, p a := by
  induction h with
  | nil => simp
  | cons hab _ ih => simp [hpq _ _ hab, ih]

-- What an engine is told of the sources of a knowledge base has one block for each of them, in
-- order. Line by line these blocks are read again, and nothing else, unless there is a newline in
-- the name of a predicate or in the path of a file. Texts of queries do no harm.
theorem Classification.read?_iff {c : Classification} {text : String}
    (h : c.sourceConfiguration = .ok text) :
    ∃ blocks, List.Forall₂ Tells c.external.zipIdx blocks ∧
      (read? text = some blocks ↔
        ∀ e ∈ c.external, '\n' ∉ e.1.name.toList ∧ e.2.Straight) := by
  rcases DataSource.configuration_cases c.external 0 with
    ⟨blocks, hblocks, -, hok⟩ | ⟨before, p, s, after, e, -, -, -, -, herror⟩
  · have htext : text = join blocks := by
      simp only [sourceConfiguration, sourceBlocks, hok] at h
      exact (Except.ok.inj h).symm
    have hsources : (∀ e ∈ c.external.zipIdx, '\n' ∉ e.1.1.name.toList ∧ e.1.2.Straight) ↔
        ∀ e ∈ c.external, '\n' ∉ e.1.name.toList ∧ e.2.Straight := by
      have hmap := List.zipIdx_map_fst 0 c.external
      conv_rhs => rw [← hmap]
      simp only [List.forall_mem_map]
    refine ⟨blocks, hblocks, ?_⟩
    rw [htext, read?_join_iff, ← hsources]
    exact forall_mem_iff_of_forall₂ (q := OneLined)
      (p := fun e => '\n' ∉ e.1.1.name.toList ∧ e.1.2.Straight)
      (fun _ _ => Tells.oneLined_iff) hblocks
  · simp only [sourceConfiguration, sourceBlocks, herror] at h
    cases h

-- A file, and a query over several lines.
def Classification.withQuery : Classification :=
  .build [.dataSource ⟨⟨"p", 1⟩, some (.csvFile (.ofText "a/b.csv"))⟩,
    .dataSource ⟨⟨"q", 1⟩, some (.sparqlQuery "e" "x" "?x a\n\n?y")⟩]

theorem Classification.read?_withQuery :
    ∃ text blocks, withQuery.sourceConfiguration = .ok text ∧ read? text = some blocks ∧
      List.Forall₂ Tells withQuery.external.zipIdx blocks := by
  have htext : withQuery.sourceConfiguration =
      .ok ("EDB0_predname=p-1\nEDB0_type=INMEMORY\nEDB0_param0=a\nEDB0_param1=b\n\n" ++
        "EDB1_predname=q-1\nEDB1_type=SPARQL\nEDB1_param0=e\nEDB1_param1=x\n" ++
        "EDB1_param2=?x a  ?y\n\n") := by
    decide +kernel
  have hexternal : withQuery.external =
      [(⟨"p", 1⟩, .csvFile (.ofText "a/b.csv")),
        (⟨"q", 1⟩, .sparqlQuery "e" "x" "?x a\n\n?y")] := by
    decide +kernel
  have hname : (Path.ofText "a/b.csv").nameText? = some "b.csv" := by decide +kernel
  have hdirectory : (Path.ofText "a/b.csv").directory.shown = "a" := by decide +kernel
  obtain ⟨blocks, hblocks, hread⟩ := Classification.read?_iff htext
  refine ⟨_, blocks, htext, hread.mpr ?_, hblocks⟩
  simp [hexternal, DataSource.Straight, hname, hdirectory]

-- A file in a directory whose name goes over several lines.
def Classification.withLines : Classification :=
  .build [.dataSource ⟨⟨"p", 1⟩, some (.csvFile
    (.ofText "a\nEDB0_param1=b\n\nEDB0_predname=q-1\nEDB0_type=INMEMORY\nEDB0_param0=c/d.csv"))⟩]

-- One source, and what is read is two of them.
theorem Classification.read?_withLines :
    withLines.external.length = 1 ∧
    ∃ text, withLines.sourceConfiguration = .ok text ∧
      read? text =
        some [⟨0, "p-1", "INMEMORY", ["a", "b"]⟩, ⟨0, "q-1", "INMEMORY", ["c", "d"]⟩] := by
  refine ⟨by decide +kernel,
    "EDB0_predname=p-1\nEDB0_type=INMEMORY\nEDB0_param0=a\nEDB0_param1=b\n\n" ++
      "EDB0_predname=q-1\nEDB0_type=INMEMORY\nEDB0_param0=c\nEDB0_param1=d\n\n", ?_, ?_⟩
  · decide +kernel
  · decide +kernel

end Rulebook
