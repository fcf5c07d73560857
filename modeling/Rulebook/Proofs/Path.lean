import Rulebook.Path
import Rulebook.Proofs.Utf8
import Mathlib.Data.List.DropRight

namespace Rulebook.Path

-- What the first stretches of a path say of its start.
def lead (ss : List (List UInt8)) : Option Component :=
  match ss with
  | [] :: _ :: _ => some .root
  | first :: _ => if first = [dot] then some .current else none
  | [] => none

-- The stretches that lead somewhere.
def steps (ss : List (List UInt8)) : List (List UInt8) :=
  ss.filter (!isIdle ·)

theorem components_eq (p : Path) :
    p.components = (lead (segments p.bytes)).toList ++
      (steps (segments p.bytes)).map componentOf :=
  rfl

section Segments

variable {cs s : List UInt8} {ss ts : List (List UInt8)}

theorem slash_not_mem (h : s ∈ segments cs) : slash ∉ s :=
  (of_mem_splitOn h).1

theorem join_segments (cs : List UInt8) : join (segments cs) = cs :=
  List.intercalate_splitOn slash

theorem segments_join (hne : ss ≠ []) (hss : ∀ s ∈ ss, slash ∉ s) : segments (join ss) = ss :=
  List.splitOn_intercalate slash hss hne

theorem segments_slash (cs ds : List UInt8) :
    segments (cs ++ slash :: ds) = segments cs ++ segments ds :=
  List.splitOn_append_cons_self _ _

theorem segments_ne_nil (cs : List UInt8) : segments cs ≠ [] :=
  List.splitOn_ne_nil _ _

theorem segments_eq_empty_iff : segments cs = [[]] ↔ cs = [] := by
  refine ⟨fun h => ?_, by rintro rfl; rfl⟩
  rw [← join_segments cs, h]
  rfl

theorem join_cons (s t : List UInt8) (ss : List (List UInt8)) :
    join (s :: t :: ss) = s ++ slash :: join (t :: ss) := by
  simp [join, List.intercalate_cons_cons]

theorem steps_append (ss ts : List (List UInt8)) : steps (ss ++ ts) = steps ss ++ steps ts :=
  List.filter_append _ _

-- No stretches and one empty stretch make the same text, and lead nowhere.
theorem steps_segments_join (hss : ∀ s ∈ ss, slash ∉ s) :
    steps (segments (join ss)) = steps ss := by
  by_cases hne : ss = []
  · subst hne
    rfl
  · rw [segments_join hne hss]

-- A path does not start differently when it goes on, unless it is empty so far.
theorem lead_append (hne : ss ≠ []) (hempty : ss ≠ [[]]) : lead (ss ++ ts) = lead ss := by
  match ss, hne, hempty with
  | [s], _, hempty =>
    have hs : s ≠ [] := by simpa using hempty
    obtain ⟨b, bs, rfl⟩ := List.exists_cons_of_ne_nil hs
    rfl
  | s :: t :: ss, _, _ => cases s <;> rfl

end Segments

section IdleEnd

variable {s : List UInt8} {ss front : List (List UInt8)}

-- What is left without an idle end ends in the last step.
theorem exists_dropIdleEnd_eq (h : steps ss = front ++ [s]) :
    ∃ before after, dropIdleEnd ss = before ++ [s] ∧ ss = before ++ s :: after ∧
      steps before = front := by
  induction ss using List.reverseRecOn with
  | nil => simp [steps] at h
  | append_singleton ss last ih =>
    rw [steps_append] at h
    cases hlast : isIdle last with
    | true =>
      obtain ⟨before, after, hdrop, hss, hfront⟩ := ih (by simpa [steps, hlast] using h)
      refine ⟨before, after ++ [last], ?_, by simp [hss], hfront⟩
      exact (List.rdropWhile_concat_pos isIdle ss last hlast).trans hdrop
    | false =>
      have hend : steps ss ++ [last] = front ++ [s] := by simpa [steps, hlast] using h
      obtain ⟨hfront, hs⟩ := List.append_inj' hend rfl
      obtain rfl := List.singleton_inj.mp hs
      exact ⟨ss, [], List.rdropWhile_concat_neg isIdle ss last (by simp [hlast]), rfl, hfront⟩

theorem dropIdleEnd_prefix (ss : List (List UInt8)) : dropIdleEnd ss <+: ss :=
  List.rdropWhile_prefix isIdle ss

theorem steps_dropIdleEnd (ss : List (List UInt8)) : steps (dropIdleEnd ss) = steps ss := by
  induction ss using List.reverseRecOn with
  | nil => rfl
  | append_singleton ss last ih =>
    cases hlast : isIdle last with
    | true =>
      have hdrop : dropIdleEnd (ss ++ [last]) = dropIdleEnd ss :=
        List.rdropWhile_concat_pos isIdle ss last hlast
      rw [hdrop, ih, steps_append]
      simp [steps, hlast]
    | false =>
      have hdrop : dropIdleEnd (ss ++ [last]) = ss ++ [last] :=
        List.rdropWhile_concat_neg isIdle ss last (by simp [hlast])
      rw [hdrop]

-- The stretches before the last step, without an idle end.
def above (ss : List (List UInt8)) : List (List UInt8) :=
  dropIdleEnd (dropIdleEnd ss).dropLast

theorem steps_above (h : steps ss = front ++ [s]) : steps (above ss) = front := by
  obtain ⟨before, -, hdrop, -, hfront⟩ := exists_dropIdleEnd_eq h
  rw [above, hdrop, List.dropLast_concat, steps_dropIdleEnd, hfront]

theorem exists_above_append (h : steps ss = front ++ [s]) :
    ∃ t ts, ss = above ss ++ t :: ts := by
  obtain ⟨before, after, hdrop, hss, -⟩ := exists_dropIdleEnd_eq h
  obtain ⟨between, hbetween⟩ := dropIdleEnd_prefix before
  have habove : above ss = dropIdleEnd before := by rw [above, hdrop, List.dropLast_concat]
  have hsplit : ss = above ss ++ (between ++ s :: after) := by
    rw [habove, ← List.append_assoc, hbetween]
    exact hss
  obtain ⟨t, ts, hrest⟩ := List.exists_cons_of_ne_nil (l := between ++ s :: after) (by simp)
  exact ⟨t, ts, hrest ▸ hsplit⟩

end IdleEnd

section Directory

variable {cs ds s : List UInt8} {front : List (List UInt8)}

-- The text of a directory: the start of the path, and the stretches between it and the last step.
def directoryText (cs : List UInt8) : List UInt8 :=
  let lead := if (start cs).isSome then 1 else 0
  cs.take lead ++ join (above (segments (cs.drop lead)))

-- The directory has the start and the steps of the path, but for the last step.
def Leaves (cs : List UInt8) (front : List (List UInt8)) : Prop :=
  lead (segments (directoryText cs)) = lead (segments cs) ∧
    steps (segments (directoryText cs)) = front

private theorem slash_not_mem_above {ts : List (List UInt8)} (h : steps ts = front ++ [s])
    (hts : ∀ t ∈ ts, slash ∉ t) : ∀ t ∈ above ts, slash ∉ t := by
  obtain ⟨u, us, hus⟩ := exists_above_append h
  intro t ht
  exact hts t (hus ▸ List.mem_append_left _ ht)

private theorem leaves_relative (h : steps (segments cs) = front ++ [s])
    (hlead : lead (segments cs) = none) : Leaves cs front := by
  have hslash := slash_not_mem_above h fun t => slash_not_mem
  have htext : directoryText cs = join (above (segments cs)) := by
    have hstart : start cs = none := hlead
    simp [directoryText, hstart]
  rw [Leaves, htext, steps_segments_join hslash]
  refine ⟨?_, steps_above h⟩
  obtain ⟨t, ts, hts⟩ := exists_above_append h
  by_cases hnil : above (segments cs) = []
  · rw [hnil, hlead]
    rfl
  · have hempty : above (segments cs) ≠ [[]] := by
      intro hempty
      rw [hts, hempty] at hlead
      cases hlead
    have hwhole : lead (above (segments cs) ++ t :: ts) = lead (above (segments cs)) :=
      lead_append hnil hempty
    rw [segments_join hnil hslash, ← hwhole, ← hts]

theorem lead_root (ds : List UInt8) : lead (segments (slash :: ds)) = some .root := by
  obtain ⟨t, ts, hts⟩ := List.exists_cons_of_ne_nil (segments_ne_nil ds)
  have hsegments : segments (slash :: ds) = [] :: t :: ts := by
    rw [← hts]
    exact segments_slash [] ds
  rw [hsegments]
  rfl

private theorem leaves_root (h : steps (segments (slash :: ds)) = front ++ [s]) :
    Leaves (slash :: ds) front := by
  have hsteps : steps (segments ds) = front ++ [s] := by
    rw [← h, ← List.nil_append (slash :: ds), segments_slash, steps_append]
    rfl
  have hslash := slash_not_mem_above hsteps fun t => slash_not_mem
  have htext : directoryText (slash :: ds) = slash :: join (above (segments ds)) := by
    have hstart : start (slash :: ds) = some .root := lead_root ds
    simp [directoryText, hstart]
  refine ⟨by rw [htext, lead_root, lead_root], ?_⟩
  rw [htext, ← List.nil_append (slash :: _), segments_slash, steps_append,
    steps_segments_join hslash, steps_above hsteps]
  rfl

private theorem leaves_current (h : steps (segments (dot :: slash :: ds)) = front ++ [s]) :
    Leaves (dot :: slash :: ds) front := by
  have hsegments (es : List UInt8) : segments (dot :: slash :: es) = [dot] :: segments es :=
    segments_slash [dot] es
  have hrest : segments (slash :: ds) = [] :: segments ds := segments_slash [] ds
  have hsteps : steps ([] :: segments ds) = front ++ [s] := by
    rw [← h, hsegments]
    rfl
  have hslash : ∀ t ∈ above ([] :: segments ds), slash ∉ t := by
    rw [← hrest] at hsteps ⊢
    exact slash_not_mem_above hsteps fun t => slash_not_mem
  have htext : directoryText (dot :: slash :: ds) = dot :: join (above ([] :: segments ds)) := by
    have hstart : start (dot :: slash :: ds) = some .current := congrArg lead (hsegments ds)
    simp [directoryText, hstart, hrest]
  obtain ⟨t, ts, hts⟩ := exists_above_append hsteps
  have habove := steps_above hsteps
  rw [Leaves, htext, hsegments]
  -- nothing but the dot is left of the start, or a slash follows it
  rcases ha : above ([] :: segments ds) with _ | ⟨u, us⟩
  · rw [ha] at habove
    exact ⟨rfl, habove⟩
  · rw [ha, List.cons_append, List.cons.injEq] at hts
    obtain ⟨rfl, -⟩ := hts
    cases us with
    | nil =>
      rw [ha] at habove
      exact ⟨rfl, habove⟩
    | cons v vs =>
      rw [ha] at habove hslash
      rw [join_cons, List.nil_append, hsegments, segments_join (List.cons_ne_nil v vs)]
      · exact ⟨rfl, habove⟩
      · exact (List.forall_mem_cons.mp hslash).2

theorem leaves (h : steps (segments cs) = front ++ [s]) : Leaves cs front := by
  have hjoin := join_segments cs
  cases hlead : lead (segments cs) with
  | none => exact leaves_relative h hlead
  | some c =>
    unfold lead at hlead
    split at hlead
    next t ts hcs =>
      rw [hcs, join_cons] at hjoin
      subst hjoin
      exact leaves_root h
    next first ts _ hcs =>
      split at hlead
      next hfirst =>
        subst hfirst
        cases ts with
        | nil => simp [hcs, steps, isIdle] at h
        | cons t ts =>
          rw [hcs, join_cons] at hjoin
          subst hjoin
          exact leaves_current h
      next => cases hlead
    next => cases hlead

end Directory

section FileName

variable {p : Path} {name : List UInt8}

-- A file name is the last step, and that does not lead up.
theorem exists_steps_of_fileName (h : p.fileName? = some name) :
    (∃ front, steps (segments p.bytes) = front ++ [name]) ∧ componentOf name = .name name := by
  unfold fileName? at h
  split at h
  next s hlast =>
    obtain rfl := Option.some.inj h
    rw [components_eq] at hlast
    rcases List.eq_nil_or_concat (steps (segments p.bytes)) with hnil | ⟨front, last, hsteps⟩
    · simp only [hnil, List.map_nil, List.append_nil] at hlast
      unfold lead at hlast
      split at hlast
      · simp at hlast
      · split at hlast <;> simp at hlast
      · simp at hlast
    · simp only [hsteps, List.concat_eq_append, List.map_append, List.map_cons, List.map_nil,
        ← List.append_assoc, List.getLast?_concat, Option.some.injEq] at hlast
      have hname : componentOf last = .name s := hlast
      unfold componentOf at hlast
      split at hlast
      · cases hlast
      · obtain rfl := Component.name.inj hlast
        exact ⟨⟨front, by simpa using hsteps⟩, hname⟩
  next => cases h

theorem mem_segments_of_fileName (h : p.fileName? = some name) :
    name ∈ segments p.bytes ∧ isIdle name = false := by
  obtain ⟨⟨front, hsteps⟩, -⟩ := exists_steps_of_fileName h
  have hmem : name ∈ steps (segments p.bytes) := by simp [hsteps]
  simpa [steps] using hmem

-- A path with a file name is its directory, and the name.
theorem components_directory (h : p.fileName? = some name) :
    p.components = p.directory.components ++ [.name name] := by
  obtain ⟨⟨front, hsteps⟩, hname⟩ := exists_steps_of_fileName h
  obtain ⟨hlead, hfront⟩ := leaves hsteps
  have hdirectory : p.directory.bytes = directoryText p.bytes := rfl
  rw [components_eq, components_eq, hdirectory, hlead, hfront, hsteps, List.map_append,
    List.map_cons, List.map_nil, hname, List.append_assoc]

-- A name that follows a directory is the last component.
theorem components_slash {d : List UInt8} (hd : d ≠ []) (hslash : slash ∉ name)
    (hidle : isIdle name = false) :
    (⟨d ++ slash :: name⟩ : Path).components =
      (⟨d⟩ : Path).components ++ [componentOf name] := by
  have hempty : segments d ≠ [[]] := segments_eq_empty_iff.not.mpr hd
  have hlast : segments name = [name] := List.splitOn_eq_singleton hslash
  rw [components_eq, components_eq, segments_slash, hlast,
    lead_append (segments_ne_nil _) hempty, steps_append]
  simp [steps, hidle]

end FileName

section Text

variable {p : Path} {name : String}

-- A path that is written in text.
def IsText (p : Path) : Prop :=
  p.text?.isSome

instance (p : Path) : Decidable p.IsText :=
  inferInstanceAs (Decidable (p.text?.isSome = true))

theorem isText_iff : p.IsText ↔ ∃ s, p = ofText s := by
  rw [IsText, Option.isSome_iff_exists]
  constructor
  · rintro ⟨s, hs⟩
    exact ⟨s, congrArg Path.mk (Bytes.text?_eq_some_iff.mp hs)⟩
  · rintro ⟨s, rfl⟩
    exact ⟨s, Bytes.text?_ofText s⟩

theorem isText_ofText (s : String) : (ofText s).IsText :=
  isText_iff.mpr ⟨s, rfl⟩

@[simp] theorem shown_ofText (s : String) : (ofText s).shown = s :=
  Bytes.shown_ofText s

theorem nameText?_eq_some_iff :
    p.nameText? = some name ↔ p.fileName? = some (Bytes.ofText name) := by
  rw [nameText?, Option.bind_eq_some_iff]
  constructor
  · rintro ⟨bytes, hbytes, htext⟩
    rw [hbytes, Bytes.text?_eq_some_iff.mp htext]
  · intro h
    exact ⟨_, h, Bytes.text?_ofText name⟩

theorem isText_join {ss : List (List UInt8)} (h : ∀ s ∈ ss, (⟨s⟩ : Path).IsText) :
    (⟨join ss⟩ : Path).IsText := by
  induction ss with
  | nil => exact isText_ofText ""
  | cons s ss ih =>
    obtain ⟨hs, hss⟩ := List.forall_mem_cons.mp h
    cases ss with
    | nil => simpa [join] using hs
    | cons t ss =>
      obtain ⟨a, ha⟩ := isText_iff.mp hs
      obtain ⟨b, hb⟩ := isText_iff.mp (ih hss)
      have ha : s = Bytes.ofText a := congrArg Path.bytes ha
      have hb : join (t :: ss) = Bytes.ofText b := congrArg Path.bytes hb
      have hbytes : join (s :: t :: ss) = Bytes.ofText (a ++ "/" ++ b) := by
        rw [join_cons, ha, hb, Bytes.ofText_append, Bytes.ofText_append, List.append_assoc]
        rfl
      rw [hbytes]
      exact isText_ofText _

theorem isText_of_mem_segments {s : List UInt8} (h : p.IsText) (hs : s ∈ segments p.bytes) :
    (⟨s⟩ : Path).IsText := by
  obtain ⟨t, rfl⟩ := isText_iff.mp h
  have hsegments : segments (ofText t).bytes =
      (t.toList.splitOn '/').map fun cs => Bytes.ofText (String.ofList cs) :=
    Bytes.splitOn_ofText (a := '/') (by decide) t
  rw [hsegments] at hs
  obtain ⟨cs, -, rfl⟩ := List.mem_map.mp hs
  exact isText_ofText _

-- A path is text if all its names are.
theorem isText_iff_components :
    p.IsText ↔ ∀ bytes, .name bytes ∈ p.components → (⟨bytes⟩ : Path).IsText := by
  constructor
  · intro h bytes hbytes
    rw [components_eq, List.mem_append, List.mem_map] at hbytes
    rcases hbytes with hlead | ⟨s, hs, hname⟩
    · unfold lead at hlead
      split at hlead
      · simp at hlead
      · split at hlead <;> simp at hlead
      · simp at hlead
    · unfold componentOf at hname
      split at hname
      · cases hname
      · obtain rfl := Component.name.inj hname
        exact isText_of_mem_segments h (List.mem_of_mem_filter hs)
  · intro h
    have htext : (⟨join (segments p.bytes)⟩ : Path).IsText := by
      apply isText_join
      intro s hs
      by_cases hidle : isIdle s
      · simp only [isIdle, Bool.or_eq_true, decide_eq_true_eq] at hidle
        rcases hidle with rfl | rfl
        · exact isText_ofText ""
        · exact isText_ofText "."
      · have hcomponent : componentOf s ∈ p.components := by
          rw [components_eq, List.mem_append]
          exact .inr (List.mem_map_of_mem (List.mem_filter.mpr ⟨hs, by simpa using hidle⟩))
        by_cases hup : s = [dot, dot]
        · subst hup
          exact isText_ofText ".."
        · rw [componentOf, if_neg hup] at hcomponent
          exact h s hcomponent
    rwa [join_segments] at htext

-- What a path is shown as is the same path just when it is text.
theorem components_shown_iff : (ofText p.shown).components = p.components ↔ p.IsText := by
  constructor
  · intro h
    rw [isText_iff_components, ← h, ← isText_iff_components]
    exact isText_ofText _
  · intro h
    obtain ⟨s, rfl⟩ := isText_iff.mp h
    rw [shown_ofText]

theorem components_folder :
    (ofText p.folder).components = (if p.directory.bytes = [] then [.current] else []) ++
      (ofText p.directory.shown).components := by
  by_cases hd : p.directory.bytes = []
  · have hshown : p.directory.shown = "" := Bytes.shown_eq_empty_iff.mpr hd
    have hdot : (ofText ".").components = [.current] := by decide +kernel
    have hnone : (ofText "").components = [] := by decide +kernel
    simp [folder, hd, hshown, hdot, hnone]
  · have hshown : p.directory.shown ≠ "" := Bytes.shown_eq_empty_iff.not.mpr hd
    simp [folder, hd, hshown]

-- Put together again, folder and name make the same path, but that a path without a directory gets
-- a leading dot. This is so just when the directory is text, for else it is not kept.
theorem components_rejoined_iff (h : p.nameText? = some name) :
    (ofText (p.folder ++ "/" ++ name)).components =
        (if p.directory.bytes = [] then [.current] else []) ++ p.components ↔
      p.directory.IsText := by
  have hname := nameText?_eq_some_iff.mp h
  obtain ⟨hmem, hidle⟩ := mem_segments_of_fileName hname
  obtain ⟨-, hcomponent⟩ := exists_steps_of_fileName hname
  have hfolder : Bytes.ofText p.folder ≠ [] := by
    rw [Ne, Bytes.ofText_eq_nil_iff]
    unfold folder
    split <;> simp_all
  have hbytes : ofText (p.folder ++ "/" ++ name) =
      ⟨Bytes.ofText p.folder ++ slash :: Bytes.ofText name⟩ := by
    rw [ofText, Bytes.ofText_append, Bytes.ofText_append, List.append_assoc]
    rfl
  rw [hbytes, components_slash hfolder (slash_not_mem hmem) hidle, hcomponent,
    components_directory hname, ← List.append_assoc, List.append_left_inj,
    ← components_shown_iff]
  have hlead : (⟨Bytes.ofText p.folder⟩ : Path).components = _ := components_folder
  rw [hlead, List.append_right_inj]

end Text

section Spelling

variable {p : Path}

-- A slash at the end does not count, unless it is all there is.
theorem components_trailing (h : p.bytes ≠ []) :
    (⟨p.bytes ++ [slash]⟩ : Path).components = p.components := by
  have hempty : segments p.bytes ≠ [[]] := segments_eq_empty_iff.not.mpr h
  have hlast : segments [] = [[]] := rfl
  rw [components_eq, components_eq, segments_slash, hlast,
    lead_append (segments_ne_nil _) hempty, steps_append]
  simp [steps, isIdle]

-- Only the empty path leads nowhere.
theorem bytes_eq_of_components_eq_nil (h : p.components = []) : p.bytes = [] := by
  rw [components_eq, List.append_eq_nil_iff, List.map_eq_nil_iff] at h
  obtain ⟨hlead, hsteps⟩ := h
  obtain ⟨s, ss, hss⟩ := List.exists_cons_of_ne_nil (segments_ne_nil p.bytes)
  rw [hss] at hlead hsteps
  have hidle : isIdle s = true := by
    simpa using (List.filter_eq_nil_iff.mp hsteps) s List.mem_cons_self
  simp only [isIdle, Bool.or_eq_true, decide_eq_true_eq] at hidle
  rcases hidle with rfl | rfl
  · cases ss with
    | nil => exact segments_eq_empty_iff.mp hss
    | cons t ts => cases hlead
  · cases hlead

end Spelling

end Rulebook.Path
