import Rulebook.Exchange.SettingsFile
import Rulebook.Proofs.Json.Record
import Rulebook.Proofs.Toml.Document

namespace Rulebook

open Json

-- Settings that were written are read as they were: first the records, then the text.

theorem asOption_asNat {n : Nat} (h : n < UInt64.size) :
    asOption asNat (.ofNat n) = .ok (some n) := by
  have hread := asNat_ofNat h
  unfold ofNat at hread ⊢
  rw [asOption, hread]
  · rfl
  · nofun

namespace ReasonerSettings

theorem ofJson_toJson (dialect : Dialect) {s : ReasonerSettings}
    (h : ∀ n, s.timeoutSeconds = some n → n < UInt64.size) : ofJson dialect s.toJson = .ok s := by
  obtain ⟨algorithm, strategy, timeout, level⟩ := s
  have halgorithm : asName dialect Algorithm.names (.string algorithm.text) = .ok algorithm := by
    cases algorithm <;> rfl
  have hstrategy : asName dialect HeadStrategy.names (.string strategy.text) = .ok strategy := by
    cases strategy <;> rfl
  have hlevel : asName dialect LogLevel.names (.string level.text) = .ok level := by
    cases level <;> rfl
  cases timeout with
  | none =>
    have hjson : toJson ⟨algorithm, strategy, none, level⟩ = .object
        [("algorithm", .string algorithm.text),
         ("rule_rewrite_strategy", .string strategy.text),
         ("log_level", .string level.text)] := rfl
    rw [ofJson, hjson, asRecord, readMembers_slot rfl halgorithm rfl,
      readMembers_slot rfl hstrategy rfl, readMembers_slot rfl hlevel rfl]
    rfl
  | some n =>
    have hjson : toJson ⟨algorithm, strategy, some n, level⟩ = .object
        [("algorithm", .string algorithm.text),
         ("rule_rewrite_strategy", .string strategy.text),
         ("timeout_seconds", .ofNat n),
         ("log_level", .string level.text)] := rfl
    rw [ofJson, hjson, asRecord, readMembers_slot rfl halgorithm rfl,
      readMembers_slot rfl hstrategy rfl, readMembers_slot rfl (asOption_asNat (h n rfl)) rfl,
      readMembers_slot rfl hlevel rfl]
    rfl

theorem plain_toSection (s : ReasonerSettings) : s.toSection.Plain := by
  obtain ⟨algorithm, strategy, timeout, level⟩ := s
  have hname : Toml.Bare "reasoner" := by decide
  cases timeout with
  | none =>
    have hkeys : (toSection ⟨algorithm, strategy, none, level⟩).items.map (·.1) =
        ["algorithm", "rule_rewrite_strategy", "log_level"] := rfl
    exact ⟨hname, hkeys ▸ by decide, hkeys ▸ by decide⟩
  | some n =>
    have hkeys : (toSection ⟨algorithm, strategy, some n, level⟩).items.map (·.1) =
        ["algorithm", "rule_rewrite_strategy", "timeout_seconds", "log_level"] := rfl
    exact ⟨hname, hkeys ▸ by decide, hkeys ▸ by decide⟩

end ReasonerSettings

namespace SolverSettings

theorem ofJson_toJson (dialect : Dialect) (solver : Solver) {s : SolverSettings}
    (h : ∀ n, s.timeoutSeconds = some n → n < UInt64.size) :
    ofJson dialect (s.toSection solver).toJson = .ok s := by
  obtain ⟨binary, args, timeout, separate⟩ := s
  have hargs : asList asString (.strings args) = .ok args :=
    asList_map fun s _ => asString_string s
  have hseparate : asBool (.bool separate) = .ok separate := rfl
  cases timeout with
  | none =>
    have hjson : (toSection solver ⟨binary, args, none, separate⟩).toJson = .object
        [("binary", .string binary), ("args", .strings args),
         ("separate_diagnostics", .bool separate)] := rfl
    have hrecord : asRecord dialect fields {}
        (toSection solver ⟨binary, args, none, separate⟩).toJson =
          .ok ⟨some binary, some args, none, some separate⟩ := by
      rw [hjson, asRecord, readMembers_slot rfl (asString_string binary) rfl,
        readMembers_slot rfl hargs rfl, readMembers_slot rfl hseparate rfl]
      rfl
    rw [ofJson, hrecord]
    rfl
  | some n =>
    have hjson : (toSection solver ⟨binary, args, some n, separate⟩).toJson = .object
        [("binary", .string binary), ("args", .strings args), ("timeout_seconds", .ofNat n),
         ("separate_diagnostics", .bool separate)] := rfl
    have hrecord : asRecord dialect fields {}
        (toSection solver ⟨binary, args, some n, separate⟩).toJson =
          .ok ⟨some binary, some args, some (some n), some separate⟩ := by
      rw [hjson, asRecord, readMembers_slot rfl (asString_string binary) rfl,
        readMembers_slot rfl hargs rfl,
        readMembers_slot rfl (asOption_asNat (h n rfl)) rfl, readMembers_slot rfl hseparate rfl]
      rfl
    rw [ofJson, hrecord]
    rfl

theorem plain_toSection (solver : Solver) (s : SolverSettings) : (s.toSection solver).Plain := by
  obtain ⟨binary, args, timeout, separate⟩ := s
  have hname : Toml.Bare solver.text := by cases solver <;> decide
  cases timeout with
  | none =>
    have hkeys : (toSection solver ⟨binary, args, none, separate⟩).items.map (·.1) =
        ["binary", "args", "separate_diagnostics"] := rfl
    exact ⟨hname, hkeys ▸ by decide, hkeys ▸ by decide⟩
  | some n =>
    have hkeys : (toSection solver ⟨binary, args, some n, separate⟩).items.map (·.1) =
        ["binary", "args", "timeout_seconds", "separate_diagnostics"] := rfl
    exact ⟨hname, hkeys ▸ by decide, hkeys ▸ by decide⟩

end SolverSettings

namespace Settings

-- All timeouts have a place in a file.
def Storable (s : Settings) : Prop :=
  ∀ seconds ∈ [s.reasoner.timeoutSeconds, s.clingo.timeoutSeconds, s.dlv.timeoutSeconds],
    ∀ n, seconds = some n → n < 0x8000000000000000

private theorem all_fits_timeoutItems {seconds : Option Nat} :
    (timeoutItems seconds).all (·.2.fits) = true ↔
      ∀ n, seconds = some n → n < 0x8000000000000000 := by
  cases seconds with
  | none => simp [timeoutItems]
  | some n => simp [timeoutItems, Toml.Item.fits]

-- There is nothing else that a file has no place for.
theorem all_fits_iff {s : Settings} :
    (s.toSections.all fun part => part.items.all (·.2.fits)) = true ↔ s.Storable := by
  have htext (key text : String) (items : List (String × Toml.Item)) :
      ((key, Toml.Item.text text) :: items).all (·.2.fits) = items.all (·.2.fits) := rfl
  have htexts (key : String) (l : List String) (items : List (String × Toml.Item)) :
      ((key, Toml.Item.texts l) :: items).all (·.2.fits) = items.all (·.2.fits) := rfl
  have hflag (key : String) (b : Bool) (items : List (String × Toml.Item)) :
      ((key, Toml.Item.flag b) :: items).all (·.2.fits) = items.all (·.2.fits) := rfl
  simp only [Storable, List.forall_mem_cons, ← all_fits_timeoutItems]
  simp only [toSections, ReasonerSettings.toSection, SolverSettings.toSection, List.all_cons,
    List.all_append, htext, htexts, hflag, List.all_nil, Bool.and_true, Bool.true_and,
    Bool.and_eq_true]
  simp

theorem plain_toSections (s : Settings) : ∀ part ∈ s.toSections, part.Plain := by
  have hclingo := s.clingo.plain_toSection .clingo
  have hdlv := s.dlv.plain_toSection .dlv
  simpa [toSections] using ⟨s.reasoner.plain_toSection, hclingo, hdlv⟩

theorem ofJson_toJson (dialect : Dialect) {s : Settings} (h : s.Storable) :
    ofJson dialect s.toJson = .ok s := by
  have hcount {n : Nat} (hn : n < 0x8000000000000000) : n < UInt64.size :=
    Nat.lt_trans hn (by decide)
  simp only [Storable, List.forall_mem_cons] at h
  have hreasoner := ReasonerSettings.ofJson_toJson dialect fun n hn => hcount (h.1 n hn)
  have hclingo := SolverSettings.ofJson_toJson dialect .clingo fun n hn => hcount (h.2.1 n hn)
  have hdlv := SolverSettings.ofJson_toJson dialect .dlv fun n hn => hcount (h.2.2.1 n hn)
  have hjson : s.toJson = .object
      [("reasoner", s.reasoner.toJson), ("clingo", (s.clingo.toSection .clingo).toJson),
       ("dlv", (s.dlv.toSection .dlv).toJson)] := rfl
  rw [ofJson, hjson, asRecord, readMembers_slot rfl hreasoner rfl,
    readMembers_slot rfl hclingo rfl, readMembers_slot rfl hdlv rfl]
  rfl

theorem ofToml_of_print? {s : Settings} {text : String}
    (h : Toml.print? s.toSections = some text) : ofToml text = .ok s := by
  have hnames : (s.toSections.map (·.name)).Nodup := by
    change ["reasoner", "clingo", "dlv"].Nodup
    decide
  have hfits : (s.toSections.all fun part => part.items.all (·.2.fits)) = true := by
    have hall := (Toml.print?_eq_some h).1
    simpa using hall
  have hread := Toml.read_print s.plain_toSections hnames h
  simp only [ofToml, hread]
  exact ofJson_toJson Toml.dialect (all_fits_iff.mp hfits)

-- Settings that can be written are loaded again as they were, whatever their texts hold. What is
-- not fit for use is written all the same, and refused with the same reason when it is loaded.
theorem loadFile_saveFile (s : Settings) :
    (s.Storable → ∀ path, ∃ text, saveFile (.free path) s = .ok text) ∧
    ∀ destination text, saveFile destination s = .ok text →
      ∀ path, loadFile path (some text) = s.validate.map fun _ => s := by
  constructor
  · intro h path
    have hprint : Toml.print? s.toSections = some _ := if_pos (all_fits_iff.mpr h)
    simp only [saveFile, hprint]
    exact ⟨_, rfl⟩
  · intro destination text hsave path
    have hprint : Toml.print? s.toSections = some text := by
      unfold saveFile at hsave
      split at hsave
      · cases hsave
      · rwa [← Except.ok.inj hsave]
      · cases hsave
    simp only [loadFile, ofToml_of_print? hprint]

-- Texts that take each of the ways of quoting, and the longest timeout.
def quoting : Settings where
  clingo.binary := "a\"b\\c"
  clingo.args := ["'''\n\"\"\"\"", "\\'\\n''\n", "\t\x01\x7f\r\n", "\"\"\n", ""]
  clingo.timeoutSeconds := some 0x7fffffffffffffff
  dlv.binary := "''"
  dlv.args := ["\"'"]

theorem loadFile_quoting :
    ∃ text, saveFile (.free (.ofText "c.toml")) quoting = .ok text ∧
      loadFile (.ofText "d.toml") (some text) = .ok quoting := by
  obtain ⟨hsave, hload⟩ := loadFile_saveFile quoting
  have hstorable : quoting.Storable := by
    simp [Storable, quoting]
  obtain ⟨text, htext⟩ := hsave hstorable (.ofText "c.toml")
  exact ⟨text, htext, hload _ _ htext (.ofText "d.toml")⟩

end Settings

end Rulebook
