import Rulebook.Proofs.Classification.Content
import Rulebook.Proofs.Naming
import Rulebook.Proofs.Path

namespace Rulebook

-- An import rule tells what it imports from.
theorem importRule_inj {p stand stand' : Predicate} :
    importRule p stand = importRule p stand' ↔ stand = stand' := by
  constructor
  · intro h
    have hbody : stand.generalAtom = stand'.generalAtom := by
      simpa [importRule, Rule.single] using congrArg Rule.body h
    rw [← Predicate.predicate_generalAtom (p := stand), hbody, Predicate.predicate_generalAtom]
  · rintro rfl
    rfl

namespace DataSource

-- How the path of a file is spelled.
def spelling? : DataSource → Option (List UInt8)
  | csvFile path | rdfFile path => some path.bytes
  | sparqlQuery _ _ _ => none

def respelled (bytes : List UInt8) : DataSource → DataSource
  | csvFile _ => csvFile ⟨bytes⟩
  | rdfFile _ => rdfFile ⟨bytes⟩
  | s => s

variable {s t : DataSource}

-- Equal sources: files of one kind that differ in the spelling at most, or one query.
inductive Alike : DataSource → DataSource → Prop
  | csvFile {p q : Path} (h : p.components = q.components) : Alike (.csvFile p) (.csvFile q)
  | rdfFile {p q : Path} (h : p.components = q.components) : Alike (.rdfFile p) (.rdfFile q)
  | sparqlQuery {endpoint selection query : String} :
      Alike (.sparqlQuery endpoint selection query) (.sparqlQuery endpoint selection query)

theorem alike_of_compare (h : compare s t = .eq) : Alike s t := by
  obtain ⟨hrank, hcomponents, hparts⟩ := compare_eq_iff.mp h
  cases s with
  | csvFile p =>
    cases t with
    | csvFile q => exact .csvFile hcomponents
    | rdfFile | sparqlQuery => simp [rank] at hrank
  | rdfFile p =>
    cases t with
    | rdfFile q => exact .rdfFile hcomponents
    | csvFile | sparqlQuery => simp [rank] at hrank
  | sparqlQuery endpoint selection query =>
    cases t with
    | sparqlQuery endpoint' selection' query' =>
      simp only [queryParts, List.cons.injEq, and_true] at hparts
      obtain ⟨rfl, rfl, rfl⟩ := hparts
      exact .sparqlQuery
    | csvFile | rdfFile => simp [rank] at hrank

theorem eq_of_compare_of_spelling (h : compare s t = .eq) (hspelling : s.spelling? = t.spelling?) :
    s = t := by
  cases alike_of_compare h with
  | csvFile _ => exact congrArg (fun bytes => csvFile ⟨bytes⟩) (Option.some.inj hspelling)
  | rdfFile _ => exact congrArg (fun bytes => rdfFile ⟨bytes⟩) (Option.some.inj hspelling)
  | sparqlQuery => rfl

theorem compare_respelled {x : List UInt8} (hspelling : s.spelling? = some x) (hx : x ≠ []) :
    compare s (s.respelled (x ++ [Path.slash])) = .eq ∧
      (s.respelled (x ++ [Path.slash])).spelling? = some (x ++ [Path.slash]) := by
  cases s with
  | csvFile p | rdfFile p =>
    obtain rfl := Option.some.inj hspelling
    exact ⟨compare_eq_iff.mpr ⟨rfl, (Path.components_trailing hx).symm, rfl⟩, rfl⟩
  | sparqlQuery => cases hspelling

-- There is one spelling of a query, and of the empty path.
theorem spelling_eq_of_compare (h : compare s t = .eq)
    (hempty : ∀ x, s.spelling? = some x → x = []) : s.spelling? = t.spelling? := by
  cases alike_of_compare h with
  | @csvFile p q hcomponents | @rdfFile p q hcomponents =>
    have hp : p = ⟨[]⟩ := congrArg Path.mk (hempty p.bytes rfl)
    have hnone : (⟨[]⟩ : Path).components = [] := by decide +kernel
    have hq : q.bytes = [] :=
      Path.bytes_eq_of_components_eq_nil (hcomponents.symm.trans (hp ▸ hnone))
    simp [spelling?, hp, hq]
  | sparqlQuery => rfl

end DataSource

namespace Declaration

def spelling? (d : Declaration) : Option (List UInt8) :=
  d.source.bind DataSource.spelling?

section Same

variable {d e : Declaration}

theorem same_iff_compare_source :
    d.same e = true ↔ d.predicate = e.predicate ∧
      (d.source = none ∧ e.source = none ∨
        ∃ s t, d.source = some s ∧ e.source = some t ∧ compare s t = .eq) := by
  rw [same_iff]
  refine compareLex_eq_eq.trans ?_
  cases hd : d.source <;> cases he : e.source <;> simp [compareOn, hd, he]

theorem eq_of_same_of_spelling (h : d.same e = true) (hspelling : d.spelling? = e.spelling?) :
    d = e := by
  obtain ⟨p, s⟩ := d
  obtain ⟨q, t⟩ := e
  obtain ⟨rfl, ⟨rfl, rfl⟩ | ⟨s, t, rfl, rfl, hst⟩⟩ := same_iff_compare_source.mp h
  · rfl
  · rw [DataSource.eq_of_compare_of_spelling hst hspelling]

theorem field_inj {bytes bytes' : List UInt8} : field bytes = field bytes' ↔ bytes = bytes' := by
  refine ⟨fun h => (List.append_inj h ?_).2, congrArg field⟩
  rw [Bytes.length_littleEndian, Bytes.length_littleEndian]

-- The path is what is hashed last.
theorem spelling_eq_of_canonicalBytes_eq (h : d.same e = true)
    (hbytes : d.canonicalBytes = e.canonicalBytes) : d.spelling? = e.spelling? := by
  obtain ⟨p, source⟩ := d
  obtain ⟨q, source'⟩ := e
  obtain ⟨rfl, ⟨rfl, rfl⟩ | ⟨s, t, rfl, rfl, hst⟩⟩ := same_iff_compare_source.mp h
  · rfl
  · simp only [canonicalBytes, identifyingFields, List.flatMap_cons, List.append_cancel_left_eq]
      at hbytes
    cases DataSource.alike_of_compare hst with
    | csvFile _ | rdfFile _ =>
      simp only [sourceFields, List.flatMap_cons, List.flatMap_nil, List.append_nil] at hbytes
      exact congrArg some (field_inj.mp (List.append_cancel_left hbytes))
    | sparqlQuery => rfl

theorem alias_eq_iff_of_same (h : d.same e = true) :
    d.alias = e.alias ↔ d.identifier = e.identifier := by
  cases hlocal : d.isLocalFacts with
  | true =>
    obtain rfl := eq_of_same_of_isLocalFacts h hlocal
    simp
  | false =>
    have hlocal' : e.isLocalFacts = false := isLocalFacts_of_same h ▸ hlocal
    simp [Declaration.alias, aliasMark, hlocal, hlocal', predicate_eq_of_same h]

-- An equal declaration with other bytes to hash is one of the same file, spelled differently.
theorem exists_canonicalBytes_ne_iff :
    (∃ e, d.same e = true ∧ d.canonicalBytes ≠ e.canonicalBytes) ↔
      ∃ x, d.spelling? = some x ∧ x ≠ [] := by
  constructor
  · rintro ⟨e, h, hne⟩
    have hspelling : d.spelling? ≠ e.spelling? := fun hspelling =>
      hne (congrArg canonicalBytes (eq_of_same_of_spelling h hspelling))
    by_contra hnone
    push Not at hnone
    refine hspelling ?_
    obtain ⟨-, ⟨hd, he⟩ | ⟨s, t, hd, he, hst⟩⟩ := same_iff_compare_source.mp h
    · rw [spelling?, spelling?, hd, he]
    · simp only [spelling?, hd, he, Option.bind_some] at hnone ⊢
      exact DataSource.spelling_eq_of_compare hst hnone
  · rintro ⟨x, hspelling, hx⟩
    obtain ⟨s, hs, hsx⟩ := Option.bind_eq_some_iff.mp hspelling
    obtain ⟨hcompare, hrespelled⟩ := DataSource.compare_respelled hsx hx
    have hsame : d.same ⟨d.predicate, some (s.respelled (x ++ [Path.slash]))⟩ = true :=
      same_iff_compare_source.mpr ⟨rfl, .inr ⟨_, _, hs, rfl, hcompare⟩⟩
    refine ⟨_, hsame, fun hbytes => ?_⟩
    have heq := spelling_eq_of_canonicalBytes_eq hsame hbytes
    rw [hspelling] at heq
    have hlonger : x = x ++ [Path.slash] := Option.some.inj (heq.trans hrespelled)
    exact absurd (congrArg List.length hlonger) (by simp)

-- Equal declarations are hashed alike just when they are spelled alike. Stand-ins and import rules
-- are the same just when the identifiers are. Every file but one with an empty path has another
-- spelling, with other bytes to hash; facts and queries have not.
theorem identifier_of_same (d : Declaration) :
    (∀ e, d.same e = true →
      (d.canonicalBytes = e.canonicalBytes ↔ d.spelling? = e.spelling?) ∧
      (d.spelling? = e.spelling? → d.identifier = e.identifier) ∧
      (d.alias = e.alias ↔ d.identifier = e.identifier) ∧
      (importRule d.predicate d.alias = importRule e.predicate e.alias ↔
        d.identifier = e.identifier)) ∧
    ((∃ e, d.same e = true ∧ d.canonicalBytes ≠ e.canonicalBytes) ↔
      ∃ x, d.spelling? = some x ∧ x ≠ []) := by
  refine ⟨fun e h => ?_, exists_canonicalBytes_ne_iff⟩
  have halike (hspelling : d.spelling? = e.spelling?) : d = e := eq_of_same_of_spelling h hspelling
  refine ⟨⟨spelling_eq_of_canonicalBytes_eq h, fun hs => congrArg canonicalBytes (halike hs)⟩,
    fun hs => congrArg identifier (halike hs), alias_eq_iff_of_same h, ?_⟩
  rw [predicate_eq_of_same h, importRule_inj, alias_eq_iff_of_same h]

end Same

-- One file, with one slash and with two.

def oneSlash : Declaration :=
  ⟨⟨"p", 1⟩, some (.csvFile (.ofText "a/b.csv"))⟩

def twoSlashes : Declaration :=
  ⟨⟨"p", 1⟩, some (.csvFile (.ofText "a//b.csv"))⟩

theorem canonicalBytes_twoSlashes :
    oneSlash.same twoSlashes = true ∧ oneSlash.canonicalBytes ≠ twoSlashes.canonicalBytes := by
  have hsame : oneSlash.same twoSlashes = true := by decide +kernel
  obtain ⟨hbytes, -⟩ := (identifier_of_same oneSlash).1 twoSlashes hsame
  exact ⟨hsame, hbytes.not.mpr (by decide)⟩

theorem identifier_twoSlashes :
    oneSlash.same twoSlashes = true ∧
      oneSlash.identifier = "4481a7beef7baba3" ∧ twoSlashes.identifier = "aeeb0efafdc2fbfa" ∧
      oneSlash.alias ≠ twoSlashes.alias ∧
      importRule ⟨"p", 1⟩ oneSlash.alias ≠ importRule ⟨"p", 1⟩ twoSlashes.alias := by
  refine ⟨?_, ?_, ?_, ?_, ?_⟩
  · decide +kernel
  · decide +kernel
  · decide +kernel
  · decide +kernel
  · decide +kernel

end Declaration

end Rulebook
