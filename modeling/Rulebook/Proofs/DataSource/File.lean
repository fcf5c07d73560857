import Rulebook.Proofs.Classification.Configuration
import Rulebook.Proofs.Naming
import Rulebook.Proofs.Path

namespace Rulebook.DataSource

-- The path of a file, and the extensions that its name may have.
def file? : DataSource → Option (Path × List String)
  | csvFile path => some (path, csvExtensions)
  | rdfFile path => some (path, rdfExtensions)
  | sparqlQuery _ _ _ => none

section File

variable {s : DataSource} {path : Path} {extensions : List String} {ps : SourceParameters}

theorem parameters_of_file (hfile : s.file? = some (path, extensions)) :
    s.parameters = fileParameters extensions path := by
  cases s with
  | csvFile path' | rdfFile path' =>
    obtain ⟨rfl, rfl⟩ := Prod.mk.inj (Option.some.inj hfile)
    rfl
  | sparqlQuery endpoint selection query => cases hfile

-- No allowed extension is the end of another one.
theorem eq_of_suffix_of_file (hfile : s.file? = some (path, extensions)) :
    ∀ e ∈ extensions, ∀ e' ∈ extensions, e.toList <:+ e'.toList → e = e' := by
  cases s with
  | csvFile path' | rdfFile path' =>
    obtain ⟨-, rfl⟩ := Prod.mk.inj (Option.some.inj hfile)
    decide
  | sparqlQuery endpoint selection query => cases hfile

-- What an engine is told of a file: its folder, and its name without the extension.
theorem exists_stem_of_file (hfile : s.file? = some (path, extensions))
    (h : s.parameters = .ok ps) :
    ∃ stem ending, path.nameText? = some (stem ++ ending) ∧ ending ∈ extensions ∧ stem ≠ "" ∧
      ps = ⟨"INMEMORY", [path.folder, stem]⟩ :=
  exists_stem ((parameters_of_file hfile).symm.trans h)

-- Folder, name and the one extension that fits make the same path, but for a leading dot where
-- the path has no directory, just when the directory is text. Else it is told as it is shown.
theorem rejoined_of_parameters (hfile : s.file? = some (path, extensions))
    (h : s.parameters = .ok ps) :
    ∃ directory stem ending, ps.values = [directory, stem] ∧ ending ∈ extensions ∧
      ((Path.ofText (directory ++ "/" ++ stem ++ ending)).components =
          (if path.directory.bytes = [] then [.current] else []) ++ path.components ↔
        path.directory.IsText) ∧
      directory = path.folder ∧
      stem ≠ "" ∧ '/' ∉ stem.toList ∧ path.nameText? = some (stem ++ ending) ∧
      ∀ e ∈ extensions, e.toList <:+ (stem ++ ending).toList → e = ending := by
  obtain ⟨stem, ending, hname, hending, hstem, rfl⟩ := exists_stem_of_file hfile h
  have hbytes := Path.nameText?_eq_some_iff.mp hname
  have hslash : '/' ∉ (stem ++ ending).toList :=
    (Bytes.mem_ofText (by decide)).not.mp
      (Path.slash_not_mem (Path.mem_segments_of_fileName hbytes).1)
  rw [String.toList_append, List.mem_append, not_or] at hslash
  refine ⟨path.folder, stem, ending, rfl, hending, ?_, rfl, hstem, hslash.1, hname, ?_⟩
  · rw [String.append_assoc]
    exact Path.components_rejoined_iff hname
  · intro e he hfits
    have hends : ending.toList <:+ (stem ++ ending).toList := by simp
    rcases List.suffix_or_suffix_of_suffix hfits hends with hsuffix | hsuffix
    · exact eq_of_suffix_of_file hfile e he ending hending hsuffix
    · exact (eq_of_suffix_of_file hfile ending hending e he hsuffix).symm

-- A path with slashes and dots that do not count.
theorem rejoined_spelledOut :
    parameters (.csvFile (.ofText ".//data/./a.b.csv.gz/.")) =
      .ok ⟨"INMEMORY", [".//data", "a.b"]⟩ ∧
    ∃ ending ∈ csvExtensions,
      (Path.ofText (".//data" ++ "/" ++ "a.b" ++ ending)).components =
        (Path.ofText ".//data/./a.b.csv.gz/.").components := by
  have h : parameters (.csvFile (.ofText ".//data/./a.b.csv.gz/.")) =
      .ok ⟨"INMEMORY", [".//data", "a.b"]⟩ := by
    decide +kernel
  refine ⟨h, ?_⟩
  obtain ⟨directory, stem, ending, hvalues, hending, hcomponents, -⟩ :=
    rejoined_of_parameters rfl h
  have hdirectory : (Path.ofText ".//data/./a.b.csv.gz/.").directory.bytes ≠ [] := by
    decide +kernel
  have htext : (Path.ofText ".//data/./a.b.csv.gz/.").directory.IsText := by decide +kernel
  simp only [List.cons.injEq, and_true] at hvalues
  obtain ⟨rfl, rfl⟩ := hvalues
  refine ⟨ending, hending, ?_⟩
  simpa only [hdirectory, if_false, List.nil_append] using hcomponents.mpr htext

-- A file in a directory with a name that is not text.
def inStrayDirectory : Path :=
  ⟨Bytes.ofText "/data/" ++ 0xff :: Bytes.ofText "/people.csv"⟩

-- The name is replaced, so that the parameters lead elsewhere.
theorem rejoined_inStrayDirectory :
    parameters (.csvFile inStrayDirectory) = .ok ⟨"INMEMORY", ["/data/\uFFFD", "people"]⟩ ∧
    ∀ ending ∈ csvExtensions, ∀ lead ∈ [[], [Path.Component.current]],
      (Path.ofText ("/data/\uFFFD" ++ "/" ++ "people" ++ ending)).components ≠
        lead ++ inStrayDirectory.components := by
  decide +kernel

end File

section Block

-- A line break and a key between two values: where it is can be told unless a line break in a first
-- value and one in a second value hide it.
private theorem append_key_inj {α : Type} {c : α} {key a a' b b' : List α} (hkey : c ∉ key)
    (h : c ∈ a → c ∉ b') (h' : c ∈ a' → c ∉ b) :
    a ++ c :: (key ++ b) = a' ++ c :: (key ++ b') ↔ a = a' ∧ b = b' := by
  have hshift {m d d' : List α} (hmd : c ∈ m → c ∉ d)
      (heq : c :: (key ++ d) = m ++ c :: (key ++ d')) : m = [] ∧ d = d' := by
    cases m with
    | nil => exact ⟨rfl, List.append_cancel_left (List.cons.inj heq).2⟩
    | cons x m =>
      obtain ⟨rfl, hrest⟩ := List.cons.inj heq
      have hmem : c ∈ key ++ d := by
        rw [hrest]
        simp
      exact absurd ((List.mem_append.mp hmem).resolve_left hkey) (hmd List.mem_cons_self)
  constructor
  · intro heq
    rcases List.append_eq_append_iff.mp heq with ⟨m, ha', hrest⟩ | ⟨m, ha, hrest⟩
    · obtain ⟨rfl, hb⟩ := hshift (fun hm => h' (ha' ▸ List.mem_append_right a hm)) hrest
      exact ⟨by simpa using ha'.symm, hb⟩
    · obtain ⟨rfl, hb⟩ := hshift (fun hm => h (ha ▸ List.mem_append_right a' hm)) hrest
      exact ⟨by simpa using ha, hb.symm⟩
  · rintro ⟨rfl, rfl⟩
    rfl

-- What stands in the block of a file before its folder, and between its folder and its stem.

def blockHead (index predicate : String) : String :=
  "EDB" ++ index ++ "_predname=" ++ predicate ++ "\nEDB" ++ index ++ "_type=INMEMORY\nEDB" ++
    index ++ "_param0="

def stemKey (index : String) : String :=
  "EDB" ++ index ++ "_param1="

theorem toList_configurationBlock (index predicate folder stem : String) :
    (configurationBlock index predicate ⟨"INMEMORY", [folder, stem]⟩).toList =
      (blockHead index predicate).toList ++
        (folder.toList ++ '\n' :: ((stemKey index).toList ++ stem.toList)) ++ ['\n', '\n'] := by
  have hone : Nat.toDigits 10 1 = ['1'] := rfl
  simp [configurationBlock, configurationLines, blockHead, stemKey, hone]

theorem newline_not_mem_stemKey (index : Nat) : '\n' ∉ (stemKey (toString index)).toList := by
  have hnumber : '\n' ∉ (toString index).toList := fun h =>
    absurd (isDigit_of_mem_toString h) (by decide)
  simp only [stemKey, String.toList_append, List.mem_append, not_or]
  exact ⟨⟨by decide, hnumber⟩, by decide⟩

-- Blocks of files are the same just when folder and stem are. A line break in the one folder and
-- one in the other stem could hide the difference.
theorem configurationBlock_inj {index : Nat} {predicate folder folder' stem stem' : String}
    (h : '\n' ∈ folder.toList → '\n' ∉ stem'.toList)
    (h' : '\n' ∈ folder'.toList → '\n' ∉ stem.toList) :
    configurationBlock (toString index) predicate ⟨"INMEMORY", [folder, stem]⟩ =
        configurationBlock (toString index) predicate ⟨"INMEMORY", [folder', stem']⟩ ↔
      folder = folder' ∧ stem = stem' := by
  rw [← String.toList_inj, toList_configurationBlock, toList_configurationBlock,
    List.append_left_inj, List.append_right_inj,
    append_key_inj (newline_not_mem_stemKey index) h h', String.toList_inj, String.toList_inj]

variable {s t : DataSource} {p q : Path} {es fs : List String} {ps qs : SourceParameters}

-- The block of a file tells its folder and its stem, and not which of the extensions was removed:
-- files get the same block at one place for one predicate just when they agree in these two.
-- Nothing is said of files where the folder of one and the name of the other have line breaks.
theorem configuration_eq_iff (hs : s.file? = some (p, es)) (hps : s.parameters = .ok ps)
    (ht : t.file? = some (q, fs)) (hqs : t.parameters = .ok qs)
    (hpq : '\n' ∈ p.folder.toList → ∀ name, q.nameText? = some name → '\n' ∉ name.toList)
    (hqp : '\n' ∈ q.folder.toList → ∀ name, p.nameText? = some name → '\n' ∉ name.toList)
    (index : Nat) (predicate : String) :
    ∃ stem ending stem' ending',
      (p.nameText? = some (stem ++ ending) ∧ ending ∈ es ∧ ps.values = [p.folder, stem]) ∧
      (q.nameText? = some (stem' ++ ending') ∧ ending' ∈ fs ∧ qs.values = [q.folder, stem']) ∧
      ∃ text text', s.configuration index predicate = .ok text ∧
        t.configuration index predicate = .ok text' ∧
        (text = text' ↔ p.folder = q.folder ∧ stem = stem') := by
  obtain ⟨stem, ending, hname, hending, -, rfl⟩ := exists_stem_of_file hs hps
  obtain ⟨stem', ending', hname', hending', -, rfl⟩ := exists_stem_of_file ht hqs
  have hstem' : '\n' ∈ p.folder.toList → '\n' ∉ stem'.toList := by
    intro hfolder hmem
    exact hpq hfolder _ hname' (by simp [hmem])
  have hstem : '\n' ∈ q.folder.toList → '\n' ∉ stem.toList := by
    intro hfolder hmem
    exact hqp hfolder _ hname (by simp [hmem])
  have htext : s.configuration index predicate =
      .ok (configurationBlock (toString index) predicate ⟨"INMEMORY", [p.folder, stem]⟩) := by
    rw [configuration, hps]
    rfl
  have htext' : t.configuration index predicate =
      .ok (configurationBlock (toString index) predicate ⟨"INMEMORY", [q.folder, stem']⟩) := by
    rw [configuration, hqs]
    rfl
  exact ⟨stem, ending, stem', ending', ⟨hname, hending, rfl⟩, ⟨hname', hending', rfl⟩, _, _, htext,
    htext', configurationBlock_inj hstem' hstem⟩

-- Two files of one folder with different stems.
theorem configuration_otherStem :
    ∃ text text',
      configuration 0 "person-1" (.csvFile (.ofText "/data/people.csv.gz")) = .ok text ∧
      configuration 0 "person-1" (.rdfFile (.ofText "/data/persons.nt")) = .ok text' ∧
      text ≠ text' := by
  have hps : parameters (.csvFile (.ofText "/data/people.csv.gz")) =
      .ok ⟨"INMEMORY", ["/data", "people"]⟩ := by
    decide +kernel
  have hqs : parameters (.rdfFile (.ofText "/data/persons.nt")) =
      .ok ⟨"INMEMORY", ["/data", "persons"]⟩ := by
    decide +kernel
  have hfolder : '\n' ∉ (Path.folder (.ofText "/data/people.csv.gz")).toList := by decide +kernel
  have hfolder' : '\n' ∉ (Path.folder (.ofText "/data/persons.nt")).toList := by decide +kernel
  obtain ⟨stem, -, stem', -, ⟨-, -, hvalues⟩, ⟨-, -, hvalues'⟩, text, text', htext, htext', hiff⟩ :=
    configuration_eq_iff rfl hps rfl hqs (fun h => absurd h hfolder) (fun h => absurd h hfolder') 0
      "person-1"
  simp only [List.cons.injEq, and_true] at hvalues hvalues'
  obtain ⟨-, rfl⟩ := hvalues
  obtain ⟨-, rfl⟩ := hvalues'
  exact ⟨text, text', htext, htext', fun heq => absurd (hiff.mp heq).2 (by decide)⟩

-- Files of one folder that differ in their kind or in being compressed.
theorem configuration_sameStem :
    Path.nameText? (.ofText "/data/people.csv") = some "people.csv" ∧
    Path.nameText? (.ofText "/data/people.csv.gz") = some "people.csv.gz" ∧
    Path.nameText? (.ofText "/data/people.nt") = some "people.nt" ∧
    ∃ text,
      configuration 0 "person-1" (.csvFile (.ofText "/data/people.csv")) = .ok text ∧
      configuration 0 "person-1" (.csvFile (.ofText "/data/people.csv.gz")) = .ok text ∧
      configuration 0 "person-1" (.rdfFile (.ofText "/data/people.nt")) = .ok text := by
  refine ⟨by decide +kernel, by decide +kernel, by decide +kernel,
    "EDB0_predname=person-1\nEDB0_type=INMEMORY\nEDB0_param0=/data\nEDB0_param1=people\n\n",
    ?_, ?_, ?_⟩
  · decide +kernel
  · decide +kernel
  · decide +kernel

end Block

end Rulebook.DataSource
