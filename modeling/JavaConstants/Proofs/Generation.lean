import JavaConstants.Generate.BuildConstants
import JavaConstants.Proofs.ResourceClass
import JavaConstants.Proofs.SpelledPlaces

/-!
# All or nothing

Both generators build a file in memory first, change files only after that, and so stop in most
cases before anything is touched. What can still go wrong is the refresh; where no links are about
and the output path is plainly spelled, it either refuses at once or goes through
(`refresh_plain`), and then nothing is in the way of the file. So a run replaces the output
directory as a whole or leaves all files as they are (`generate_allOrNothing`).
-/

namespace JavaConstants

/-! ## Builds

A run builds a file and reads on the way, then replaces the output directory, then records what it
did. So what a run comes to is what its build comes to, and behind a build that succeeds what the
replacement comes to (`RunsFrom`). -/

/-- A step that makes a source file out of the files and touches none of them. -/
structure IsBuild (m : Generating (SourceFile × List Skipped)) : Prop where
  /-- The files stay, whether the step succeeds or not. -/
  files : ∀ w, (leftBy (m w)).files = w.files
  /-- What happened before makes no difference. -/
  events : ∀ fs events events' a w', m ⟨fs, events⟩ = .ok a w' → ∃ w'', m ⟨fs, events'⟩ = .ok a w''
  /-- The file has a place to go to. -/
  placeable : ∀ w file skipped w', m w = .ok (file, skipped) w' → file.Placeable

/-- How a run goes on from a build: it stops with all files as they were, or it replaces the output
directory by the file. -/
inductive RunsFrom {α : Type} (built : EStateM.Result Error Workspace (SourceFile × List Skipped))
    (fs : FileSystem) (output : Path) : EStateM.Result Error Workspace α → Prop where
  /-- Nothing was built. -/
  | stopped (e : Error) {e' : Error} {w₁ w' : Workspace} (hbuilt : built = .error e' w₁)
    (h : w'.files = fs) : RunsFrom built fs output (.error e w')
  /-- A file was built. -/
  | replaced {file : SourceFile} {skipped : List Skipped} {w₁ : Workspace}
    {r : EStateM.Result Error Workspace α} (hbuilt : built = .ok (file, skipped) w₁)
    (h : RunsAs r (fs.replace output file)) : RunsFrom built fs output r

/-- A run that builds a file, refreshes the output directory and writes the file goes on from the
build. -/
theorem IsBuild.run {α : Type} {m : Generating (SourceFile × List Skipped)} (hm : IsBuild m)
    (e : Event) (output : Path) {k : SourceFile → List Skipped → Path → Generating α}
    (hk : ∀ file skipped path fs events,
      ∃ a events', k file skipped path ⟨fs, events⟩ = .ok a ⟨fs, events'⟩) (w : Workspace)
    {r : EStateM.Result Error Workspace α}
    (hr : (do Generating.log e
              let (file, skipped) ← m
              refreshOutput output
              let path ← file.writeTo output
              k file skipped path : Generating α) w = r) :
    RunsFrom (m w) w.files output r := by
  obtain ⟨fs, events⟩ := w
  have hlog : Generating.log e ⟨fs, events⟩ = .ok () ⟨fs, events ++ [e]⟩ := rfl
  have hfiles := hm.files ⟨fs, events ++ [e]⟩
  rw [Generating.bind_apply, hlog] at hr
  dsimp only at hr
  rw [Generating.bind_apply] at hr
  -- The build runs after the first event, but it does not see it.
  cases hbuild : m ⟨fs, events ++ [e]⟩ with
  | error e' w' =>
    rw [hbuild] at hr hfiles
    subst hr
    cases hbefore : m ⟨fs, events⟩ with
    | error e'' w'' => exact .stopped e' rfl hfiles
    | ok built w'' =>
      obtain ⟨_, hafter⟩ := hm.events _ _ (events ++ [e]) _ _ hbefore
      cases hbuild.symm.trans hafter
  | ok built w' =>
    obtain ⟨file, skipped⟩ := built
    rw [hbuild] at hr hfiles
    obtain ⟨w'', hbefore⟩ := hm.events _ _ events _ _ hbuild
    have hsame : w'.files = fs := hfiles
    have hreplace := RunsAs.replace file output w' (hk file skipped)
    rw [hsame] at hreplace
    exact .replaced hbefore (hr ▸ hreplace)

theorem isPackageName_of_checkPackageName {name : String} (h : checkPackageName name = .ok ()) :
    isPackageName name = true := by
  unfold checkPackageName at h
  split_ifs at h with hblank hname
  exact hname

theorem ResourceSettings.isBuild (s : ResourceSettings) (guarded : List Path) (clock : Clock) :
    IsBuild (s.build guarded clock) := by
  refine ⟨fun w ↦ ?_, fun fs events events' a w' h ↦ ?_, fun w file skipped w' h ↦ ?_⟩
  · unfold build
    simp only [Generating.bind_apply, Generating.get_apply]
    cases s.check guarded w.files with
    | error e => rfl
    | ok u => cases s.harvest w.files <;> rfl
  · obtain ⟨hcheck, harvest, hharvest, hfile, hskipped, _⟩ := build_eq_ok_iff.mp h
    exact ⟨_, build_eq_ok_iff.mpr ⟨hcheck, harvest, hharvest, hfile, hskipped, rfl⟩⟩
  · obtain ⟨hcheck, harvest, hharvest, rfl, _⟩ := build_eq_ok_iff.mp h
    obtain ⟨_, _, hname, _⟩ := exists_log_of_build h
    refine ⟨isPackageName_of_checkPackageName (check_eq_ok_iff.mp hcheck).1, ?_⟩
    rw [hname]
    exact isName_rootName_of_check hcheck

namespace BuildSettings

theorem name_addCustom (className : String) (root : ClassNode) (skipped : List Skipped)
    (fields : List Field) : (addCustom className root skipped fields).1.name = root.name := by
  fun_induction addCustom className root skipped fields with
  | case1 => rfl
  | case2 root skipped f fields htaken ih => exact ih
  | case3 root skipped f fields hfree ih => rw [ih, ClassNode.name_addField]

theorem name_standardClass (s : BuildSettings) : s.standardClass.name = s.className := by
  have hfold (fields : List Field) (c : ClassNode) :
      (fields.foldl ClassNode.addField c).name = c.name := by
    induction fields generalizing c with
    | nil => rfl
    | cons f fields ih => rw [List.foldl_cons, ih, ClassNode.name_addField]
  exact hfold _ _

theorem build_eq_ok_iff {s : BuildSettings} {guarded : List Path} {clock : Clock}
    {w w' : Workspace} {file : SourceFile} {skipped : List Skipped} :
    s.build guarded clock w = .ok (file, skipped) w' ↔ s.check guarded w.files = .ok () ∧
      ∃ fields, s.fields.mapM CustomField.field = .ok fields ∧
        file = ⟨s.packageName, some clock.here.comment,
          (addCustom s.className s.standardClass [] fields).1⟩ ∧
        skipped = (addCustom s.className s.standardClass [] fields).2 ∧
        w' = { w with events := w.events ++ customEvents s.className s.standardClass fields } := by
  unfold build
  simp only [Generating.bind_apply, Generating.get_apply]
  cases s.check guarded w.files with
  | error e =>
    constructor
    · rintro ⟨⟩
    · rintro ⟨⟨⟩, _⟩
  | ok u =>
    cases s.fields.mapM CustomField.field with
    | error e =>
      constructor
      · rintro ⟨⟩
      · rintro ⟨_, _, ⟨⟩, _⟩
    | ok fields =>
      constructor
      · rintro ⟨⟩
        exact ⟨rfl, fields, rfl, rfl, rfl, rfl⟩
      · rintro ⟨_, _, ⟨⟩, rfl, rfl, rfl⟩
        rfl

theorem isBuild (s : BuildSettings) (guarded : List Path) (clock : Clock) :
    IsBuild (s.build guarded clock) := by
  refine ⟨fun w ↦ ?_, fun fs events events' a w' h ↦ ?_, fun w file skipped w' h ↦ ?_⟩
  · unfold build
    simp only [Generating.bind_apply, Generating.get_apply]
    cases s.check guarded w.files with
    | error e => rfl
    | ok u => cases s.fields.mapM CustomField.field <;> rfl
  · obtain ⟨hcheck, fields, hfields, hfile, hskipped, _⟩ := build_eq_ok_iff.mp h
    exact ⟨_, build_eq_ok_iff.mpr ⟨hcheck, fields, hfields, hfile, hskipped, rfl⟩⟩
  · obtain ⟨hcheck, fields, _, rfl, _⟩ := build_eq_ok_iff.mp h
    obtain ⟨_, hpackage, hcheck⟩ := bind_eq_ok hcheck
    obtain ⟨_, hclass, _⟩ := bind_eq_ok hcheck
    refine ⟨isPackageName_of_checkPackageName hpackage, ?_⟩
    rw [name_addCustom, name_standardClass]
    exact isName_of_checkClassName hclass

end BuildSettings

/-! ## Plain paths

A plain path is absolute and without `..`. Where there are no links it denotes what its own names
say, and nothing depends on the current directory. -/

/-- A tree without links. -/
def Node.LinkFree (n : Node) : Prop := ∀ names target, n.entryAt names ≠ some (.link target)

namespace Node

theorem linkFree_file (content : List UInt8) : (file content).LinkFree := by
  intro names target
  cases names with
  | nil => exact nofun
  | cons name names => exact nofun

theorem linkFree_directory {es : List (String × Node)} (h : ∀ e ∈ es, e.2.LinkFree) :
    (directory es).LinkFree := by
  intro names target hentry
  cases names with
  | nil => cases hentry
  | cons name names =>
    rw [entryAt_cons, child?, Option.bind_map, Option.bind_eq_some_iff] at hentry
    obtain ⟨e, he, hbelow⟩ := hentry
    exact h e (List.mem_of_find?_eq_some he) names target hbelow

end Node

theorem Resolves.eq_append {root : Node} {follow : Bool} {links : Nat}
    {here T parts : List String}
    (hlinks : ∀ q, q <+: Path.namesIn parts → ∀ target,
      root.entryAt (here ++ q) ≠ some (.link target))
    (hup : ".." ∉ parts)
    (h : Resolves root follow links here (parts.map .ofPart) (.found T)) :
    T = here ++ Path.namesIn parts := by
  have hlinkless : Linkless root here parts := by
    rintro front ⟨more, rfl⟩
    rw [spelled_eq_append fun hmem ↦ hup (List.mem_append_left _ hmem)]
    refine hlinks _ ?_
    rw [Path.namesIn_append]
    exact List.prefix_append _ _
  exact (h.eq_spelled hlinkless).trans (spelled_eq_append hup here)

namespace Path

/-- An absolute path with neither `.` nor `..` in it. -/
structure Plain (p : Path) : Prop where
  /-- It starts at the root. -/
  isAbsolute : p.isAbsolute = true
  /-- It has no `.`. -/
  here : "." ∉ p.parts
  /-- It has no `..`. -/
  up : ".." ∉ p.parts

/-- The names on a path. -/
def names (p : Path) : List String := namesIn p.parts

theorem exists_of_namesIn_eq_concat {parts D : List String} {name : String}
    (hhere : "." ∉ parts) (hup : ".." ∉ parts) (h : namesIn parts = D ++ [name]) :
    ∃ front blank, parts = front ++ name :: blank ∧ (∀ s ∈ blank, s = "") ∧ namesIn front = D ∧
      PathStep.ofPart name = .enter name := by
  obtain ⟨front, rest, rfl, hfront, hrest⟩ := List.filter_eq_append_iff.mp h
  obtain ⟨stays, blank, rfl, hstays, hname, hblank⟩ := List.filter_eq_cons_iff.mp hrest
  have hempty {s : String} (hs : s ∈ front ++ (stays ++ name :: blank))
      (hnot : PathStep.ofPart s ≠ .enter s) : s = "" := by
    by_contra hne
    refine hnot (PathStep.ofPart_eq_enter_iff.mpr ⟨rfl, hne, ?_, ?_⟩)
    · rintro rfl
      exact hhere hs
    · rintro rfl
      exact hup hs
  refine ⟨front ++ stays, blank, by rw [List.append_assoc], fun s hs ↦ ?_, ?_,
    of_decide_eq_true hname⟩
  · refine hempty (by simp [hs]) fun hs' ↦ ?_
    exact List.filter_eq_nil_iff.mp hblank s hs (decide_eq_true hs')
  · have hstays' : namesIn stays = [] := List.filter_eq_nil_iff.mpr hstays
    rw [namesIn_append, hstays', List.append_nil]
    exact hfront

end Path

/-- No name that a source file asks for is longer than names of entries may be. -/
def SourceFile.Fits (f : SourceFile) : Prop :=
  ∀ s ∈ f.segments ++ [f.fileName], s.utf8ByteSize ≤ FileSystem.maxNameBytes

namespace FileSystem

variable {fs : FileSystem} {p : Path}

theorem reaches_of_names {parts : List String} (hup : ".." ∉ parts)
    (hfits : ∀ s ∈ Path.namesIn parts, s.utf8ByteSize ≤ maxNameBytes)
    (hdirectory : fs.root.entryAt (Path.namesIn parts) = some .emptyDirectory) :
    fs.Reaches true parts (Path.namesIn parts) := by
  refine ⟨resolves_down hup hfits fun q _ hq ↦ ?_, hdirectory⟩
  exact Node.entryAt_eq_emptyDirectory_of_isPrefix hq hdirectory

theorem Reaches.eq_names {parts D : List String} (hfs : fs.root.LinkFree) (hup : ".." ∉ parts)
    (h : fs.Reaches true parts D) : D = Path.namesIn parts :=
  h.1.eq_append (fun _ _ ↦ hfs _) hup

/-- Without links, an absolute path without `..` denotes what the names on it say, if anything. -/
theorem eq_names_of_canonical {T : List String} (hfs : fs.root.LinkFree)
    (habsolute : p.isAbsolute = true) (hup : ".." ∉ p.parts) (h : fs.canonical p = .ok T) :
    T = p.names := by
  obtain ⟨_, hway⟩ := locate_eq_ok_iff.mp h
  rw [start, if_pos habsolute] at hway
  exact hway.eq_append (fun _ _ ↦ hfs _) hup

/-! ## A plain refresh

A plain path still ends in the last of its names once the directory there is emptied, so that
directory is removed as well, and its name is free. What comes then is the creation of directories
under a missing name, as if there had been nothing before. -/

theorem Missing.names_eq {parts front post D : List String} {name : String}
    (h : fs.Missing true parts front name post D) (hfs : fs.root.LinkFree) (hup : ".." ∉ parts) :
    Path.namesIn parts = D ++ name :: Path.namesIn post := by
  have hfront : ".." ∉ front := fun hmem ↦ hup (by rw [h.parts_eq]; simp [hmem])
  rw [h.parts_eq, Path.namesIn_append, Path.namesIn_cons_of_enter h.step,
    h.reaches.eq_names hfs hfront]

/-- Outside a place nothing is different, but that directories missing on the way to it are there
now. -/
def SameOutside (before after : FileSystem) (output : List String) : Prop :=
  ∀ q, ¬ output <+: q → after.root.entryAt q = before.root.entryAt q ∨
    q <+: output ∧ before.root.entryAt q = none ∧ after.root.entryAt q = some .emptyDirectory

/-- The files after an output directory was emptied. -/
structure Fresh (fs fresh : FileSystem) (output : Path) : Prop where
  /-- The path is accepted. -/
  usable : output.Usable
  /-- It leads to the output directory. -/
  reaches : fresh.Reaches output.isAbsolute output.parts output.names
  /-- That has no entries. -/
  empty : ∀ name, fresh.root.entryAt (output.names ++ [name]) = none
  /-- Outside, only the way to it may be new. -/
  outside : fs.SameOutside fresh output.names
  /-- Nobody goes elsewhere. -/
  current : fresh.current = fs.current

theorem exists_fresh_of_missing {cleared : FileSystem} (hfs : cleared.root.LinkFree)
    (hplain : p.Plain) (husable : p.Usable)
    (hfits : ∀ s ∈ p.names, s.utf8ByteSize ≤ maxNameBytes)
    (hcurrent : cleared.current = fs.current)
    (houtside : ∀ q, ¬ p.names <+: q → cleared.root.entryAt q = fs.root.entryAt q)
    {front post D : List String} {name : String}
    (h : cleared.Missing p.isAbsolute p.parts front name post D) :
    ∃ fresh, cleared.createDirectories p = .ok () fresh ∧ fs.Fresh fresh p := by
  have hnames : p.names = D ++ name :: Path.namesIn post :=
    (hplain.isAbsolute ▸ h).names_eq hfs hplain.up
  have hpost {s : String} (hs : s ∉ p.parts) : s ∉ post := fun hmem ↦ hs (by
    rw [h.parts_eq]
    simp [hmem])
  rw [hnames] at hfits
  have hnew : ∀ s ∈ name :: Path.namesIn post, s.utf8ByteSize ≤ maxNameBytes := fun s hs ↦
    hfits s (List.mem_append_right _ hs)
  have hcreate := createDirectories_of_missing husable h (hpost hplain.up) (hpost hplain.here) hnew
  have hreaches := h.reaches_nest (hpost hplain.up) hnew
  rw [← hnames] at hreaches
  refine ⟨_, hcreate, husable, hreaches, fun s ↦ ?_, fun q hq ↦ ?_, ?_⟩
  · rw [hnames]
    exact h.free_nest _ s
  · have hsame := houtside q hq
    rw [h.entryAt_nest, ← hnames]
    split_ifs with hbetween
    · by_cases hbelow : D ++ [name] <+: q
      · refine .inr ⟨hbetween.2, ?_, rfl⟩
        rw [← hsame, Node.entryAt_eq_none_of_isPrefix h.free hbelow]
      · left
        rw [← hsame, eq_of_between hbetween.1 (hnames ▸ hbetween.2) hbelow, h.reaches.directory]
    · exact .inl hsame
  · rw [current_nest, hcurrent]

theorem ends_of_plain {D : List String} {name : String} (hplain : p.Plain) (husable : p.Usable)
    (hfits : ∀ s ∈ p.names, s.utf8ByteSize ≤ maxNameBytes) (hnames : p.names = D ++ [name])
    (hD : fs.root.entryAt D = some .emptyDirectory) : fs.Ends p D name := by
  obtain ⟨front, blank, hparts, hblank, rfl, hstep⟩ :=
    Path.exists_of_namesIn_eq_concat hplain.here hplain.up hnames
  refine ⟨husable, ⟨front, blank, hparts, hblank, ?_⟩, hstep⟩
  rw [hplain.isAbsolute]
  refine reaches_of_names (fun hmem ↦ hplain.up ?_) (fun s hs ↦ hfits s ?_) hD
  · rw [hparts]
    exact List.mem_append_left _ hmem
  · rw [hnames]
    exact List.mem_append_left _ hs

/-- Where a plain path denotes an entry, nothing is cleared or the entry is gone. -/
theorem clear_plain (hfs : fs.root.LinkFree) (hplain : p.Plain) (hnames : p.names ≠ [])
    (hfits : ∀ s ∈ p.names, s.utf8ByteSize ≤ maxNameBytes) (hexists : fs.pathExists p = true) :
    (∃ e, fs.clear p = .error e fs) ∨ ∃ D name cleared, fs.clear p = .ok () cleared ∧
      cleared.Ends p D name ∧ p.names = D ++ [name] ∧ cleared.current = fs.current ∧
      ∀ q, cleared.root.entryAt q = if p.names <+: q then none else fs.root.entryAt q := by
  obtain ⟨T, hT⟩ := pathExists_iff.mp hexists
  have husable := (locate_eq_ok_iff.mp hT).1
  have hplace {T : List String} (h : fs.canonical p = .ok T) : T = p.names :=
    eq_names_of_canonical hfs hplain.isAbsolute hplain.up h
  obtain ⟨D, name, hconcat⟩ := (List.eq_nil_or_concat' p.names).resolve_left hnames
  have hself := not_concat_isPrefix_self D name
  rw [clear, if_pos hexists]
  have houtcome := removeTree_outcome fs p
  generalize fs.removeTree p = r at houtcome
  cases houtcome with
  | refused e => exact .inl ⟨e, rfl⟩
  | link _ hentry => exact absurd hentry (hfs _ _)
  | @emptied T hcanonical hentry _ hspelling _ =>
    -- A plain path still ends in its last name when the directory there is emptied.
    obtain rfl : T = D ++ [name] := (hplace hcanonical).trans hconcat
    have hbefore : fs.root.entryAt D = some .emptyDirectory :=
      Node.entryAt_eq_emptyDirectory_of_isPrefix (List.prefix_append D [name]) hentry
    have hD := Node.entryAt_insert .emptyDirectory hbefore name D
    rw [if_neg hself, hbefore] at hD
    exact absurd (ends_of_plain hplain husable hfits hconcat hD) (hspelling D name rfl)
  | @removed D' name' hcanonical hentry hends =>
    obtain ⟨rfl, hlast⟩ := List.append_inj' ((hplace hcanonical).trans hconcat) rfl
    cases hlast
    have hremoved (q : List String) := entryAt_removed hends.directory name q
    have hD := (hremoved D').trans ((if_neg hself).trans hends.directory)
    refine .inr ⟨D', name, _, rfl, ends_of_plain hplain husable hfits hconcat hD, hconcat, rfl, ?_⟩
    rw [hconcat]
    exact hremoved

theorem refresh_of_cleared (hfs : fs.root.LinkFree) (hplain : p.Plain) (husable : p.Usable)
    (hfits : ∀ s ∈ p.names, s.utf8ByteSize ≤ maxNameBytes) {D : List String} {name : String}
    {cleared : FileSystem} (hclear : fs.clear p = .ok () cleared) (hends : cleared.Ends p D name)
    (hconcat : p.names = D ++ [name]) (hcurrent : cleared.current = fs.current)
    (hentry : ∀ q, cleared.root.entryAt q = if p.names <+: q then none else fs.root.entryAt q) :
    ∃ fresh, fs.refresh p = .ok () fresh ∧ fs.Fresh fresh p := by
  have hcleared : cleared.root.LinkFree := by
    intro q target
    rw [hentry]
    split_ifs
    · exact nofun
    · exact hfs q target
  obtain ⟨front, blank, hparts, _, hreaches⟩ := hends.parts
  have hfree : cleared.root.entryAt (D ++ [name]) = none := by
    rw [hentry, hconcat, if_pos List.prefix_rfl]
  obtain ⟨fresh, hcreate, hfresh⟩ : ∃ fresh, _ ∧ fs.Fresh fresh p :=
    exists_fresh_of_missing hcleared hplain husable hfits hcurrent
      (fun q hq ↦ (hentry q).trans (if_neg hq)) ⟨hparts, hreaches, hends.step, hfree⟩
  exact ⟨fresh, by rw [refresh, hclear, Edited.andThen_ok, hcreate], hfresh⟩

/-- **Plain refreshes.** Without links a refresh at a plain path, not the root, changes nothing or
goes through. -/
theorem refresh_plain (hfs : fs.root.LinkFree) (hplain : p.Plain) (hnames : p.names ≠ [])
    (hfits : ∀ s ∈ p.names, s.utf8ByteSize ≤ maxNameBytes) :
    (∃ e, fs.refresh p = .error e fs) ∨
      ∃ fresh, fs.refresh p = .ok () fresh ∧ fs.Fresh fresh p := by
  have htext : p.text ≠ "" := by
    obtain ⟨s, rest, hs⟩ := List.exists_cons_of_ne_nil hnames
    obtain ⟨hmem, hstep⟩ := List.mem_filter.mp (hs ▸ List.mem_cons_self : s ∈ p.names)
    obtain ⟨_, hempty, _⟩ := PathStep.ofPart_eq_enter_iff.mp (of_decide_eq_true hstep)
    exact Path.text_ne_empty_of_mem hempty hmem
  by_cases husable : p.Usable
  swap
  · exact .inl ⟨_, refresh_of_not_usable htext husable⟩
  rw [refresh]
  by_cases hexists : fs.pathExists p = true
  · rcases clear_plain hfs hplain hnames hfits hexists with
      ⟨e, he⟩ | ⟨D, name, cleared, hclear, hends, hconcat, hcurrent, hentry⟩
    · exact .inl ⟨e, by rw [he, Edited.andThen_error]⟩
    exact .inr (refresh_of_cleared hfs hplain husable hfits hclear hends hconcat hcurrent hentry)
  · have hclear : fs.clear p = .ok () fs := by rw [clear, if_neg hexists]
    have hstraight : fs.Straight p.isAbsolute p.parts := straight_of_notMem hplain.up
    have houtcome := createDirectories_outcome htext hstraight
    rw [hclear, Edited.andThen_ok]
    generalize hr : fs.createDirectories p = r at houtcome
    cases houtcome with
    | refused e => exact .inl ⟨e, rfl⟩
    | kept h =>
      obtain ⟨T, hway, _⟩ := h (.inl hplain.isAbsolute)
      exact absurd (pathExists_iff.mpr ⟨T, locate_eq_ok_iff.mpr ⟨husable, hway⟩⟩) hexists
    | nested hmissing =>
      obtain ⟨fresh, hcreate, hfresh⟩ :=
        exists_fresh_of_missing hfs hplain husable hfits rfl (fun _ _ ↦ rfl) hmissing
      exact .inr ⟨fresh, hr.symm.trans hcreate, hfresh⟩

theorem clear_of_directory {D : List String} {name : String} (hplain : p.Plain)
    (husable : p.Usable) (hfits : ∀ s ∈ p.names, s.utf8ByteSize ≤ maxNameBytes)
    (hnames : p.names = D ++ [name])
    (hentry : fs.root.entryAt (D ++ [name]) = some .emptyDirectory) :
    fs.clear p = .ok () ((fs.insert (D ++ [name]) .emptyDirectory).erase (D ++ [name])) := by
  have hname : name.utf8ByteSize ≤ maxNameBytes := hfits name (by simp [hnames])
  have hD := Node.entryAt_eq_emptyDirectory_of_isPrefix (List.prefix_append D [name]) hentry
  have hends := ends_of_plain hplain husable hfits hnames hD
  -- The directory is emptied first; the path still ends in its name then.
  have hkept : (fs.insert (D ++ [name]) .emptyDirectory).root.entryAt D = some .emptyDirectory :=
    (Node.entryAt_insert .emptyDirectory hD name D).trans
      ((if_neg (not_concat_isPrefix_self D name)).trans hD)
  have hends' : (fs.insert (D ++ [name]) .emptyDirectory).Ends p D name :=
    ends_of_plain hplain husable hfits hnames hkept
  have hremove := removeDirectory_of_emptied hD hends'
  obtain ⟨es, hes⟩ := Node.entryAt_eq_emptyDirectory_iff.mp hentry
  have hexists : fs.pathExists p = true :=
    pathExists_iff.mpr ⟨_, hends.locate hname hentry true⟩
  rw [clear, if_pos hexists, removeTree, hends.locate hname hentry false]
  simp only [node?, hes, hremove]

theorem refresh_of_directory (hfs : fs.root.LinkFree) (hplain : p.Plain) (husable : p.Usable)
    (hnames : p.names ≠ []) (hfits : ∀ s ∈ p.names, s.utf8ByteSize ≤ maxNameBytes)
    (hentry : fs.root.entryAt p.names = some .emptyDirectory) :
    ∃ fresh, fs.refresh p = .ok () fresh ∧ fs.Fresh fresh p := by
  obtain ⟨D, name, hconcat⟩ := (List.eq_nil_or_concat' p.names).resolve_left hnames
  rw [hconcat] at hentry
  have hD := Node.entryAt_eq_emptyDirectory_of_isPrefix (List.prefix_append D [name]) hentry
  have hself := not_concat_isPrefix_self D name
  have hremoved (q : List String) := entryAt_removed hD name q
  have hends := ends_of_plain hplain husable hfits hconcat
    ((hremoved D).trans ((if_neg hself).trans hD))
  refine refresh_of_cleared hfs hplain husable hfits
    (clear_of_directory hplain husable hfits hconcat hentry) hends hconcat rfl fun q ↦ ?_
  rw [hconcat]
  exact hremoved q

/-- The files after an output directory was replaced by one source file. -/
structure Replaced (before after : FileSystem) (output : List String) (f : SourceFile) : Prop where
  /-- The output directory holds the directories of the package, the file and nothing else. -/
  inside : ∀ below, after.root.entryAt (output ++ below) = f.entryIn below
  /-- Outside, nothing changes but that directories missing on the way to it are created. -/
  outside : before.SameOutside after output
  /-- Nobody goes elsewhere. -/
  current : after.current = before.current

/-- In a fresh output directory nothing is in the way of a source file. -/
theorem Fresh.deposit {fresh : FileSystem} (h : fs.Fresh fresh p) {f : SourceFile}
    (hf : f.Placeable) (hfits : f.Fits) :
    ∃ after, fresh.deposit (p.join f.relativePath) (utf8Bytes f.render) = .ok () after ∧
      fs.Replaced after p.names f := by
  have hdeposit := deposit_eq_ok hf h.usable h.reaches h.empty (utf8Bytes f.render) hfits
  have hentry := entryAt_deposited h.reaches.directory h.empty f
  refine ⟨_, hdeposit, fun below ↦ ?_, fun q hq ↦ ?_, ?_⟩
  · rw [hentry, if_pos (List.prefix_append _ _), List.drop_left]
  · rw [hentry, if_neg hq]
    exact h.outside q hq
  · rw [current_insert, current_nest, h.current]

theorem replace_plain (hfs : fs.root.LinkFree) (hplain : p.Plain) (hnames : p.names ≠ [])
    (hfits : ∀ s ∈ p.names, s.utf8ByteSize ≤ maxNameBytes) {f : SourceFile} (hf : f.Placeable)
    (hfileFits : f.Fits) : (∃ e, fs.replace p f = .error e fs) ∨
      ∃ after, fs.replace p f = .ok () after ∧ fs.Replaced after p.names f := by
  rcases refresh_plain hfs hplain hnames hfits with ⟨e, he⟩ | ⟨fresh, hfresh, hoff⟩
  · exact .inl ⟨e, by rw [replace, he, Edited.andThen_error]⟩
  · obtain ⟨after, hafter, hreplaced⟩ := hoff.deposit hf hfileFits
    exact .inr ⟨after, by rw [replace, hfresh, Edited.andThen_ok, hafter], hreplaced⟩

theorem replace_of_directory (hfs : fs.root.LinkFree) (hplain : p.Plain) (husable : p.Usable)
    (hnames : p.names ≠ []) (hfits : ∀ s ∈ p.names, s.utf8ByteSize ≤ maxNameBytes)
    (hentry : fs.root.entryAt p.names = some .emptyDirectory) {f : SourceFile} (hf : f.Placeable)
    (hfileFits : f.Fits) :
    ∃ after, fs.replace p f = .ok () after ∧ fs.Replaced after p.names f := by
  obtain ⟨fresh, hfresh, hoff⟩ := refresh_of_directory hfs hplain husable hnames hfits hentry
  obtain ⟨after, hafter, hreplaced⟩ := hoff.deposit hf hfileFits
  exact ⟨after, by rw [replace, hfresh, Edited.andThen_ok, hafter], hreplaced⟩

end FileSystem

/-! ## Runs -/

/-- A run that builds a file either stops with all files as they were, or replaces the output
directory by the file. -/
inductive AllOrNothing {α : Type} (build : Generating (SourceFile × List Skipped))
    (output : List String) (w : Workspace) : EStateM.Result Error Workspace α → Prop where
  /-- The run stops. -/
  | nothing (e : Error) {w' : Workspace} (h : w'.files = w.files) :
    AllOrNothing build output w (.error e w')
  /-- The run succeeds. -/
  | all (a : α) {w' : Workspace} {file : SourceFile} {skipped : List Skipped} {w₁ : Workspace}
    (hbuild : build w = .ok (file, skipped) w₁) (h : w.files.Replaced w'.files output file) :
    AllOrNothing build output w (.ok a w')

/-- No name that a run asks for is longer than names of entries may be. -/
structure NamesFit (output : Path) (build : Generating (SourceFile × List Skipped))
    (w : Workspace) : Prop where
  /-- The names on the output path. -/
  output : ∀ s ∈ output.names, s.utf8ByteSize ≤ FileSystem.maxNameBytes
  /-- The names of the package and of the file, if one is built. -/
  file : ∀ file skipped w', build w = .ok (file, skipped) w' → file.Fits

theorem allOrNothing_of_run {α : Type} {m : Generating (SourceFile × List Skipped)}
    (hm : IsBuild m) {output : Path} {w : Workspace} (hfs : w.files.root.LinkFree)
    (hplain : output.Plain) (hnames : output.names ≠ []) (hfits : NamesFit output m w)
    {r : EStateM.Result Error Workspace α} (hrun : RunsFrom (m w) w.files output r) :
    AllOrNothing m output.names w r := by
  cases hrun with
  | stopped e _ h => exact .nothing e h
  | @replaced file skipped w₁ _ hbuild hruns =>
    have hplaceable := hm.placeable w file skipped w₁ hbuild
    have hfile := hfits.file file skipped w₁ hbuild
    rcases FileSystem.replace_plain hfs hplain hnames hfits.output hplaceable hfile with
      ⟨e, he⟩ | ⟨after, hafter, hreplaced⟩
    · rw [he] at hruns
      cases hruns
      exact .nothing _ rfl
    · rw [hafter] at hruns
      cases hruns
      exact .all _ hbuild hreplaced

theorem ResourceSettings.run_generate (s : ResourceSettings) (guarded : List Path) (clock : Clock)
    (w : Workspace) : RunsFrom (s.build guarded clock w) w.files s.outputDir
      (s.generate guarded clock w) := by
  have hlog (file : SourceFile) (skipped : List Skipped) (path : Path) (fs : FileSystem)
      (events : List Event) : ∃ report events',
      (do let report := file.report path skipped clock.elapsed
          Generating.log (.resourcesGenerated path report.fieldCount report.classCount
            report.skipped.length)
          pure report : Generating GenerationReport) ⟨fs, events⟩ = .ok report ⟨fs, events'⟩ :=
    ⟨_, _, rfl⟩
  exact (s.isBuild guarded clock).run _ s.outputDir hlog w rfl

theorem BuildSettings.run_generate (s : BuildSettings) (guarded : List Path) (clock : Clock)
    (w : Workspace) : RunsFrom (s.build guarded clock w) w.files s.outputDir
      (s.generate guarded clock w) := by
  have hlog (file : SourceFile) (skipped : List Skipped) (path : Path) (fs : FileSystem)
      (events : List Event) : ∃ report events',
      (do Generating.log (.buildConfigGenerated path)
          pure (file.report path skipped clock.elapsed) : Generating GenerationReport)
        ⟨fs, events⟩ = .ok report ⟨fs, events'⟩ := ⟨_, _, rfl⟩
  exact (s.isBuild guarded clock).run _ s.outputDir hlog w rfl

/-- **All or nothing.** Where there are no links, a run of either generator with a plain output path
other than the root replaces the output directory as a whole by the file that is built, or stops
with all files as they were. -/
theorem generate_allOrNothing {w : Workspace} (hfs : w.files.root.LinkFree) (guarded : List Path)
    (clock : Clock) :
    (∀ s : ResourceSettings, s.outputDir.Plain → s.outputDir.names ≠ [] →
      NamesFit s.outputDir (s.build guarded clock) w →
      AllOrNothing (s.build guarded clock) s.outputDir.names w (s.generate guarded clock w)) ∧
    ∀ s : BuildSettings, s.outputDir.Plain → s.outputDir.names ≠ [] →
      NamesFit s.outputDir (s.build guarded clock) w →
      AllOrNothing (s.build guarded clock) s.outputDir.names w (s.generate guarded clock w) := by
  constructor
  · intro s hplain hnames hfits
    exact allOrNothing_of_run (s.isBuild guarded clock) hfs hplain hnames hfits
      (s.run_generate guarded clock w)
  · intro s hplain hnames hfits
    exact allOrNothing_of_run (s.isBuild guarded clock) hfs hplain hnames hfits
      (s.run_generate guarded clock w)

/-- Files with a directory `/r` and an output directory `/o` that holds an old file. -/
def outdated : Workspace where
  files := { root := .directory [("r", .directory [("a.txt", .file [])]),
    ("o", .directory [("old.txt", .file [])])] }

/-- Settings with the output directory `/o`. -/
def BuildSettings.toO : BuildSettings where
  packageName := "p"
  outputDir := ⟨"/o"⟩

theorem generate_allOrNothing_outdated :
    AllOrNothing (ResourceSettings.ofR.build [] ResourceSettings.newYear) ["o"] outdated
        (ResourceSettings.ofR.generate [] ResourceSettings.newYear outdated) ∧
      AllOrNothing (BuildSettings.toO.build [] ResourceSettings.newYear) ["o"] outdated
        (BuildSettings.toO.generate [] ResourceSettings.newYear outdated) := by
  have hfs : outdated.files.root.LinkFree := by
    refine Node.linkFree_directory ?_
    simp only [List.forall_mem_cons]
    exact ⟨Node.linkFree_directory (by simp [Node.linkFree_file]),
      Node.linkFree_directory (by simp [Node.linkFree_file]), nofun⟩
  have hplain : (Path.mk "/o").Plain := ⟨by decide, by decide, by decide⟩
  have hne : (Path.mk "/o").names ≠ [] := by decide
  have houtput : ∀ s ∈ (Path.mk "/o").names, s.utf8ByteSize ≤ FileSystem.maxNameBytes := by decide
  have hfile {f : SourceFile} (hpackage : f.package = "p")
      (hname : f.root.name = "R" ∨ f.root.name = "BuildConfig") : f.Fits := by
    have hsegments : f.segments = ["p"] := by
      rw [SourceFile.segments, hpackage]
      decide
    rw [SourceFile.Fits, hsegments, SourceFile.fileName]
    rcases hname with hname | hname <;> rw [hname] <;> decide
  obtain ⟨hresources, hconstants⟩ := generate_allOrNothing hfs [] ResourceSettings.newYear
  refine ⟨hresources .ofR hplain hne ⟨houtput, fun file skipped w' h ↦ ?_⟩,
    hconstants .toO hplain hne ⟨houtput, fun file skipped w' h ↦ ?_⟩⟩
  · obtain ⟨_, _, hname, _⟩ := ResourceSettings.exists_log_of_build h
    obtain ⟨_, _, _, rfl, _⟩ := ResourceSettings.build_eq_ok_iff.mp h
    exact hfile rfl (.inl hname)
  · obtain ⟨_, _, _, rfl, _⟩ := BuildSettings.build_eq_ok_iff.mp h
    refine hfile rfl (.inr ?_)
    rw [BuildSettings.name_addCustom, BuildSettings.name_standardClass]
    rfl

end JavaConstants
