import Mathlib
import JavaConstants.Generate.Workspace
import JavaConstants.Proofs.Directories

/-!
# Refreshing an output directory

A check before a run compares canonical spellings; the run deletes what the path, as it is spelled,
leads to. The two meet in the directory the path denotes: that is all a refresh deletes, a link in
its place apart, so no directory the check has protected is lost (`refreshOutput_spares`).
-/

namespace JavaConstants

namespace Generating

variable {α β : Type}

theorem get_apply (w : Workspace) : (get : Generating Workspace) w = .ok w w := rfl

theorem bind_apply (m : Generating α) (k : α → Generating β)
    (w : Workspace) : (m >>= k) w = match m w with
      | .ok a w' => k a w'
      | .error e w' => .error e w' := by
  simp only [bind, EStateM.bind]
  cases m w <;> rfl

end Generating

namespace FileSystem

variable {fs : FileSystem} {output : Path}

/-! ## A refresh as a change of files -/

/-- One operation after another, if the first succeeds. -/
def Edited.andThen (x : Edited) (next : FileSystem → Edited) : Edited :=
  match x with
  | .ok () fs => next fs
  | .error e fs => .error e fs

@[simp] theorem Edited.andThen_ok (fs : FileSystem) (next : FileSystem → Edited) :
    Edited.andThen (.ok () fs) next = next fs := rfl

@[simp] theorem Edited.andThen_error (e : OsError) (fs : FileSystem) (next : FileSystem → Edited) :
    Edited.andThen (.error e fs) next = .error e fs := rfl

/-- Removes an output directory if it exists. -/
def clear (fs : FileSystem) (output : Path) : Edited :=
  if fs.pathExists output then fs.removeTree output else .ok () fs

/-- Removes an output directory if it exists, and creates it. -/
def refresh (fs : FileSystem) (output : Path) : Edited :=
  (fs.clear output).andThen (·.createDirectories output)

/-- Emptying an output directory changes the files as `refresh` does. -/
theorem refreshOutput_eq (output : Path) (w : Workspace) : ∃ events,
    refreshOutput output w =
      Generating.edit output (·.refresh output) { w with events := events } := by
  by_cases hexists : w.files.pathExists output = true
  · cases hremove : w.files.removeTree output with
    | ok u cleared =>
      refine ⟨w.events ++ [.outputDeleted output], ?_⟩
      simp only [refreshOutput, Generating.bind_apply, Generating.get_apply, hexists, if_true,
        Generating.edit, hremove, Generating.log, refresh, clear]
      rfl
    | error e cleared =>
      refine ⟨w.events, ?_⟩
      simp only [refreshOutput, Generating.bind_apply, Generating.get_apply, hexists, if_true,
        Generating.edit, hremove, refresh, clear, Edited.andThen]
  · refine ⟨w.events, ?_⟩
    simp only [refreshOutput, Generating.bind_apply, Generating.get_apply, hexists,
      Generating.edit, refresh, clear]
    rfl

theorem files_edit (p : Path) (change : FileSystem → Edited) (w : Workspace) :
    (leftBy (Generating.edit p change w)).files = leftBy (change w.files) := by
  unfold Generating.edit
  cases change w.files <;> rfl

theorem files_refreshOutput (output : Path) (w : Workspace) :
    (leftBy (refreshOutput output w)).files = leftBy (w.files.refresh output) := by
  obtain ⟨events, hrefresh⟩ := refreshOutput_eq output w
  rw [hrefresh, files_edit]

theorem refresh_of_not_usable (htext : output.text ≠ "") (husable : ¬ output.Usable) :
    fs.refresh output = .error .nulCharacter fs := by
  have hnul : output.text.toList.contains '\x00' = true := by
    by_contra hnul
    exact husable ⟨fun hmem ↦ hnul (List.contains_iff_mem.mpr hmem), htext⟩
  have hexists : fs.pathExists output ≠ true := fun h ↦ by
    obtain ⟨names, hnames⟩ := pathExists_iff.mp h
    exact husable (locate_eq_ok_iff.mp hnames).1
  have hdirectory : fs.isDirectory output ≠ true := fun h ↦ husable (isDirectory_iff_reaches.mp h).1
  have hparent : fs.parentPlace output = .error .nulCharacter := if_pos hnul
  have hcreate : fs.createDirectory output = .error .nulCharacter := by
    simp only [createDirectory, hparent]
    rfl
  rw [refresh, clear, if_neg hexists]
  simp only [Edited.andThen, createDirectories, Path.ancestors_eq]
  rw [createAncestors, if_neg (Path.components_ne_nil htext)]
  simp only [hcreate, if_neg hdirectory]

/-! ## What a refresh removes

Only clearing the output path removes anything: the entries of the directory that it denotes, and
the name that it ends in, which may be that of a link. The directory made afterwards is an
addition. -/

theorem entryAt_removed {D : List String} (hD : fs.root.entryAt D = some .emptyDirectory)
    (name : String) (q : List String) :
    ((fs.insert (D ++ [name]) .emptyDirectory).erase (D ++ [name])).root.entryAt q =
      if D ++ [name] <+: q then none else fs.root.entryAt q := by
  have hinsert (q : List String) := Node.entryAt_insert .emptyDirectory hD name q
  have hdirectory := (hinsert D).trans (if_neg (not_concat_isPrefix_self D name))
  refine (Node.entryAt_erase (hdirectory.trans hD) name q).trans ?_
  rw [hinsert]
  split_ifs <;> rfl

/-- Entries that a refresh may delete: those of the directory the output path denotes, itself
included, and a link that the path names. -/
def MayDelete (fs : FileSystem) (output : Path) (q : List String) (e : Node) : Prop :=
  (∃ o, fs.canonical output = .ok o ∧ fs.root.entryAt o = some .emptyDirectory ∧ o <+: q) ∨
    (fs.locate false output = .ok q ∧ ∃ target, e = .link target)

theorem parts_of_locate_link {T : List String} {target : String}
    (hlocate : fs.locate false output = .ok T) (hentry : fs.root.entryAt T = some (.link target)) :
    ∃ front name D, output.parts = front ++ [name] ∧ PathStep.ofPart name = .enter name ∧
      fs.Reaches output.isAbsolute front D ∧ T = D ++ [name] := by
  obtain ⟨_, hway⟩ := locate_eq_ok_iff.mp hlocate
  obtain ⟨front, name, hparts⟩ :=
    (List.eq_nil_or_concat' output.parts).resolve_left output.parts_ne_nil
  rw [Path.steps, hparts, List.map_append, List.map_singleton] at hway
  obtain ⟨D, links, hfront, hlast⟩ := hway.cut (List.cons_ne_nil _ _)
  have hdirectory := hlast.directory (List.cons_ne_nil _ _)
  refine ⟨front, name, D, hparts, ?_⟩
  -- Only a name can lead to a link: other steps end in directories.
  cases hstep : PathStep.ofPart name with
  | stay =>
    rw [hstep] at hlast
    cases hlast with
    | stay _ hdone =>
      rw [← hdone.eq_of_nil, hdirectory] at hentry
      cases hentry
  | up =>
    rw [hstep] at hlast
    cases hlast with
    | up _ hdone =>
      have habove := Node.entryAt_eq_emptyDirectory_of_isPrefix (List.dropLast_prefix D) hdirectory
      rw [← hdone.eq_of_nil, habove] at hentry
      cases hentry
  | enter name' =>
    obtain ⟨rfl, _⟩ := PathStep.ofPart_eq_enter_iff.mp hstep
    rw [hstep] at hlast
    refine ⟨rfl, ⟨hfront, hdirectory⟩, ?_⟩
    cases hlast with
    | lastLink => rfl
    | link _ _ _ hfollow => exact absurd (hfollow rfl) (by simp)
    | enter _ _ _ _ hdone => exact hdone.eq_of_nil.symm

/-- The files after the place an output path denotes was cleared: what stood there is gone or an
empty directory, and nothing else is different. -/
structure Cleared (fs : FileSystem) (output : Path) (T : List String) (cleared : FileSystem) :
    Prop where
  /-- The path denotes the directory in the place, or names a link. -/
  place : fs.canonical output = .ok T ∧ fs.root.entryAt T = some .emptyDirectory ∨
    fs.locate false output = .ok T ∧ ∃ target, fs.root.entryAt T = some (.link target)
  /-- A link is gone. -/
  link : ∀ target, fs.root.entryAt T = some (.link target) → cleared.root.entryAt T = none
  /-- A directory has no entries. -/
  inside : ∀ name, cleared.root.entryAt (T ++ [name]) = none
  /-- Nothing else is different. -/
  outside : ∀ q, ¬ T <+: q → cleared.root.entryAt q = fs.root.entryAt q
  /-- Nothing is new. -/
  sub : cleared.root.Sub fs.root
  /-- Nobody goes elsewhere. -/
  current : cleared.current = fs.current

theorem cleared_of_gone {T : List String} {cleared : FileSystem}
    (hplace : fs.canonical output = .ok T ∧ fs.root.entryAt T = some .emptyDirectory ∨
      fs.locate false output = .ok T ∧ ∃ target, fs.root.entryAt T = some (.link target))
    (hgone : ∀ q, cleared.root.entryAt q = if T <+: q then none else fs.root.entryAt q)
    (hcurrent : cleared.current = fs.current) : fs.Cleared output T cleared where
  place := hplace
  link _ _ := (hgone T).trans (if_pos List.prefix_rfl)
  inside name := (hgone (T ++ [name])).trans (if_pos (List.prefix_append _ _))
  outside q hq := (hgone q).trans (if_neg hq)
  sub q e hq := by
    rw [hgone] at hq
    split_ifs at hq with hbelow
    exact hq
  current := hcurrent

/-- Clearing an output directory that exists does nothing or clears its place. -/
theorem clear_outcome (hexists : fs.pathExists output = true) :
    (∃ e, fs.clear output = .error e fs) ∨ ∃ T, fs.Cleared output T (leftBy (fs.clear output)) := by
  rw [clear, if_pos hexists]
  have houtcome := removeTree_outcome fs output
  generalize fs.removeTree output = r at houtcome
  cases houtcome with
  | refused e => exact .inl ⟨e, rfl⟩
  | @link T target hlocate hentry =>
    obtain ⟨front, name, D, _, _, hreaches, rfl⟩ := parts_of_locate_link hlocate hentry
    have herase := Node.entryAt_erase hreaches.directory name
    exact .inr ⟨_, cleared_of_gone (.inr ⟨hlocate, target, hentry⟩) herase rfl⟩
  | @emptied T hcanonical hentry r hspelling hleft =>
    have hinsert (q : List String) := Node.entryAt_insert_of_isSome .emptyDirectory
      (show (fs.root.entryAt T).isSome by rw [hentry]; rfl) q
    rw [hleft]
    refine .inr ⟨T, .inl ⟨hcanonical, hentry⟩, fun target htarget ↦ ?_, fun k ↦ ?_, fun q hq ↦ ?_,
      .of_emptied hentry, rfl⟩
    · cases hentry.symm.trans htarget
    · refine (hinsert _).trans ?_
      rw [if_pos (List.prefix_append _ _), List.drop_left]
      rfl
    · exact (hinsert q).trans (if_neg hq)
  | @removed D name hcanonical hentry hends =>
    have hremoved := entryAt_removed hends.directory name
    exact .inr ⟨_, cleared_of_gone (.inl ⟨hcanonical, hentry⟩) hremoved rfl⟩

theorem entryAt_clear {q : List String} {e : Node} (hq : fs.root.entryAt q = some e) :
    (leftBy (fs.clear output)).root.entryAt q = some e ∨ fs.MayDelete output q e := by
  by_cases hexists : fs.pathExists output = true
  swap
  · left
    rw [clear, if_neg hexists]
    exact hq
  rcases clear_outcome hexists with ⟨e', h⟩ | ⟨T, hcleared⟩
  · rw [h]
    exact .inl hq
  by_cases hunder : T <+: q
  swap
  · exact .inl ((hcleared.outside q hunder).trans hq)
  right
  rcases hcleared.place with ⟨hcanonical, hentry⟩ | ⟨hlocate, target, hentry⟩
  · exact .inl ⟨T, hcanonical, hentry, hunder⟩
  · -- Nothing lies below a link.
    obtain ⟨below, rfl⟩ := hunder
    rcases eq_or_ne below [] with rfl | hbelow
    · rw [List.append_nil] at hq ⊢
      exact .inr ⟨hlocate, target, Option.some.inj (hq.symm.trans hentry)⟩
    · have hdirectory := Node.entryAt_eq_emptyDirectory_of_append hbelow (by rw [hq]; rfl)
      cases hentry.symm.trans hdirectory

theorem sub_refresh : (leftBy (fs.clear output)).root.Sub (leftBy (fs.refresh output)).root := by
  unfold refresh
  cases fs.clear output with
  | error e cleared => exact .refl _
  | ok u cleared => exact (sub_createAncestors cleared output.ancestors).1

/-! ## Guarded directories -/

theorem resolved_of_canonical {p : Path} {names : List String} (h : fs.canonical p = .ok names) :
    fs.resolved p = .ofNames names := by
  simp only [resolved, Path.ancestors, resolveAmong, h, List.append_nil]

/-- A directory that passed the check is not in the output directory. -/
theorem not_isPrefix_of_resolved {guarded : List Path} {d : Path} {o names : List String}
    (hcheck : checkOutput fs output guarded = .ok ()) (hd : d ∈ guarded)
    (houtput : fs.resolved output = .ofNames o) (hnames : fs.resolved d = .ofNames names) :
    ¬ o <+: names := by
  intro hunder
  induction guarded with
  | nil => cases hd
  | cons d' guarded ih =>
    rw [checkOutput] at hcheck
    split_ifs at hcheck with hstarts
    rcases List.mem_cons.mp hd with rfl | hmem
    · rw [houtput, hnames, Path.startsWith_ofNames hunder] at hstarts
      exact hstarts rfl
    · exact ih hcheck hmem

theorem not_isPrefix_of_checkOutput {guarded : List Path} {d : Path} {o names : List String}
    (hcheck : checkOutput fs output guarded = .ok ()) (hd : d ∈ guarded)
    (houtput : fs.canonical output = .ok o) (hnames : fs.canonical d = .ok names) :
    ¬ o <+: names :=
  not_isPrefix_of_resolved hcheck hd (resolved_of_canonical houtput) (resolved_of_canonical hnames)

end FileSystem

open FileSystem

/-- **Refreshes.** After a check has passed, a refresh leaves every guarded directory in its place,
and nothing else disappears but what lies in the directory that the output path denotes, and the
entry of that path if it is a link. It makes no difference whether the refresh succeeds. -/
theorem refreshOutput_spares {output : Path} {guarded : List Path} {w : Workspace}
    (hcheck : checkOutput w.files output guarded = .ok ()) :
    (∀ d ∈ guarded, ∀ names, w.files.canonical d = .ok names →
      w.files.root.entryAt names = some .emptyDirectory →
      (leftBy (refreshOutput output w)).files.root.entryAt names = some .emptyDirectory) ∧
    ∀ q e, w.files.root.entryAt q = some e →
      (leftBy (refreshOutput output w)).files.root.entryAt q = some e ∨
        w.files.MayDelete output q e := by
  rw [files_refreshOutput]
  have hkept {q : List String} {e : Node} (hq : w.files.root.entryAt q = some e) :
      (leftBy (w.files.refresh output)).root.entryAt q = some e ∨ w.files.MayDelete output q e :=
    (entryAt_clear hq).imp_left (sub_refresh q e)
  refine ⟨fun d hd names hnames hdirectory ↦ ?_, fun q e hq ↦ hkept hq⟩
  rcases hkept hdirectory with hin | ⟨o, ho, _, hunder⟩ | ⟨_, target, hlink⟩
  · exact hin
  · exact absurd hunder (not_isPrefix_of_checkOutput hcheck hd ho hnames)
  · cases hlink

/-- Files with a link `/o` to a directory beside the guarded directory `/r`. -/
def linkedOutput : Workspace where
  files := { root := .directory [("r", .directory [("a.txt", .file [])]),
    ("s", .directory [("b.txt", .file [])]), ("o", .link "/s")] }

theorem refreshOutput_spares_linkedOutput :
    checkOutput linkedOutput.files ⟨"/o"⟩ [⟨"/r"⟩] = .ok () ∧
      (∀ d ∈ [Path.mk "/r"], ∀ names, linkedOutput.files.canonical d = .ok names →
        linkedOutput.files.root.entryAt names = some .emptyDirectory →
        (leftBy (refreshOutput ⟨"/o"⟩ linkedOutput)).files.root.entryAt names =
          some .emptyDirectory) ∧
      ∀ q e, linkedOutput.files.root.entryAt q = some e →
        (leftBy (refreshOutput ⟨"/o"⟩ linkedOutput)).files.root.entryAt q = some e ∨
          linkedOutput.files.MayDelete ⟨"/o"⟩ q e := by
  have houtput : linkedOutput.files.resolved ⟨"/o"⟩ = ⟨"/s"⟩ := by cbv
  have hguarded : linkedOutput.files.resolved ⟨"/r"⟩ = ⟨"/r"⟩ := by cbv
  have hcheck : checkOutput linkedOutput.files ⟨"/o"⟩ [⟨"/r"⟩] = .ok () := by
    rw [checkOutput, houtput, hguarded]
    decide
  exact ⟨hcheck, refreshOutput_spares hcheck⟩

end JavaConstants
