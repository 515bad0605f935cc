import JavaConstants.Project
import JavaConstants.Proofs.ResourceGuard

/-!
# Commands and resources

Two commands replace a directory: `r` its output directory, and `build-config` that of the build
constants. The first compares the directory with the resources before it deletes anything, the
second only with the project. So where there are no links, no file below the resources directory is
lost, unless the output directory of the build constants holds it (`execute_spares_resources`); and
then it is lost (`exposed_file_lost`).
-/

namespace JavaConstants

open FileSystem

/-! ## Absolute paths -/

namespace Path

variable {base p : Path}

theorem isAbsolute_join (h : base.isAbsolute = true) : (base.join p).isAbsolute = true := by
  rw [isAbsolute, beq_iff_eq] at h
  obtain ⟨rest, hrest⟩ := List.head?_eq_some_iff.mp h
  rw [join]
  split_ifs with habsolute
  · exact habsolute
  · simp [isAbsolute, String.toList_append, hrest]
  · simp [isAbsolute, String.toList_append, hrest]

theorem isAbsolute_resolveAgainst (h : base.isAbsolute = true) :
    (base.resolveAgainst p).isAbsolute = true := by
  rw [resolveAgainst]
  split_ifs with habsolute
  · exact habsolute
  · exact isAbsolute_join h

theorem isAbsolute_getD {flag : Option Path} (hbase : base.isAbsolute = true)
    (hp : p.isAbsolute = true) :
    ((flag.map base.resolveAgainst).getD p).isAbsolute = true := by
  rcases flag with _ | q
  · exact hp
  · exact isAbsolute_resolveAgainst hbase

end Path

namespace Project

variable {p : Project} {command : Command}

/-- A project all of whose directories start at the root. -/
structure Rooted (p : Project) : Prop where
  /-- The project directory does. -/
  directory : p.directory.isAbsolute = true
  /-- The resources directory of the settings does. -/
  resources : p.settings.r.resourcesDir.isAbsolute = true
  /-- So does the output directory of the resource class. -/
  output : p.settings.r.outputDir.isAbsolute = true
  /-- And that of the build constants. -/
  constants : p.settings.buildConfig.outputDir.isAbsolute = true

theorem rooted_of_load {fs : FileSystem} {env : Environment} {directory : Path}
    {settingsFile : Option Path} (h : load fs env directory settingsFile = .ok p) : p.Rooted := by
  unfold load at h
  split at h
  · cases h
  next names hnames =>
    dsimp only at h
    split at h
    · cases h
    next settings hsettings =>
      have hnames := Path.isAbsolute_ofNames names
      obtain rfl := Except.ok.inj h
      exact ⟨hnames, Path.isAbsolute_resolveAgainst hnames, Path.isAbsolute_resolveAgainst hnames,
        Path.isAbsolute_resolveAgainst hnames⟩

/-- The resources directory in effect for a command. -/
def resourcesDir (p : Project) : Command → Path
  | .resources a => (a.applyTo p.directory p.settings.r).resourcesDir
  | _ => p.settings.r.resourcesDir

/-- The directory that a command replaces, if it replaces one. -/
def outputDir? (p : Project) : Command → Option Path
  | .resources a => some (a.applyTo p.directory p.settings.r).outputDir
  | .buildConfig a =>
    some ((a.outputDir.map p.directory.resolveAgainst).getD p.settings.buildConfig.outputDir)
  | _ => none

theorem Rooted.resourcesDir (h : p.Rooted) (command : Command) :
    (p.resourcesDir command).isAbsolute = true := by
  rcases command with a | a | ⟨names, format⟩ | format
  · exact Path.isAbsolute_getD h.directory h.resources
  · exact h.resources
  · exact h.resources
  · exact h.resources

theorem Rooted.outputDir (h : p.Rooted) {output : Path}
    (houtput : p.outputDir? command = some output) : output.isAbsolute = true := by
  rcases command with a | a | ⟨names, format⟩ | format
  · obtain rfl := Option.some.inj houtput
    exact Path.isAbsolute_getD h.directory h.output
  · obtain rfl := Option.some.inj houtput
    exact Path.isAbsolute_getD h.directory h.constants
  · cases houtput
  · cases houtput

theorem outputDir_of_applyTo {a : BuildArguments} {s : BuildSettings}
    (h : a.applyTo p.directory p.settings.buildConfig = .ok s) :
    p.outputDir? (.buildConfig a) = some s.outputDir := by
  obtain ⟨fields, _, h⟩ := bind_eq_ok h
  obtain rfl := Except.ok.inj h
  rfl

end Project

/-! ## Replacements without links -/

namespace FileSystem

variable {fs : FileSystem} {output : Path} {q : List String} {e : Node}

/-- Without links, a replacement at an absolute path without `..` keeps every entry that is not in
the directory on the path. -/
theorem entryAt_replace_of_linkFree (hfs : fs.root.LinkFree) (habsolute : output.isAbsolute = true)
    (hup : ".." ∉ output.parts) {f : SourceFile} (hf : f.Placeable)
    (hq : fs.root.entryAt q = some e) (hout : ¬ output.names <+: q) :
    (leftBy (fs.replace output f)).root.entryAt q = some e := by
  have htext := Path.text_ne_empty_of_isAbsolute habsolute
  rcases refresh_place htext (straight_of_notMem hup) with ⟨err, herr⟩ | ⟨T, hcleared, hconfined⟩ |
    ⟨front, name, post, D, _, _, hmissing, hconfined⟩
  · rw [replace, herr, Edited.andThen_error]
    exact hq
  · have hT : T = output.names := by
      rcases hcleared.place with ⟨hcanonical, _⟩ | ⟨_, target, hlink⟩
      · exact eq_names_of_canonical hfs habsolute hup hcanonical
      · exact absurd hlink (hfs T target)
    exact (hconfined.entryAt_replace hf (hT ▸ hout)).trans hq
  · -- Under a missing name there is no entry yet.
    have hnot : ¬ D ++ [name] <+: q := by
      intro hunder
      cases hq.symm.trans (Node.entryAt_eq_none_of_isPrefix hmissing.free hunder)
    exact (hconfined.entryAt_replace hf hnot).trans hq

end FileSystem

/-- A run that goes on from a build keeps every entry that is not in its output directory. -/
theorem entryAt_of_run {α : Type} {m : Generating (SourceFile × List Skipped)} (hm : IsBuild m)
    {output : Path} {w : Workspace} {r : EStateM.Result Error Workspace α}
    (hrun : RunsFrom (m w) w.files output r) (hfs : w.files.root.LinkFree)
    (habsolute : output.isAbsolute = true) (hup : ".." ∉ output.parts) {q : List String} {e : Node}
    (hq : w.files.root.entryAt q = some e)
    (hout : ∀ built w₁, m w = .ok built w₁ → ¬ output.names <+: q) :
    (leftBy r).files.root.entryAt q = some e := by
  rcases hrun with ⟨e', _, hfiles⟩ | ⟨hbuild, hruns⟩
  · rw [leftBy, hfiles]
    exact hq
  · rw [hruns.files_leftBy]
    exact entryAt_replace_of_linkFree hfs habsolute hup (hm.placeable _ _ _ _ hbuild) hq
      (hout _ _ hbuild)

theorem files_bind_pure {α β : Type} (m : Generating α) (f : α → β) (w : Workspace) :
    (leftBy ((do let a ← m
                 pure (f a) : Generating β) w)).files = (leftBy (m w)).files := by
  rw [Generating.bind_apply]
  rcases m w with ⟨a, w'⟩ | ⟨e, w'⟩ <;> rfl

/-- Without links, the output directory of the resource class is apart from the resources. -/
theorem ResourceSettings.apart_of_check {s : ResourceSettings} {guarded : List Path}
    {fs : FileSystem} (h : s.check guarded fs = .ok ()) (hfs : fs.root.LinkFree)
    (hresources : s.resourcesDir.isAbsolute = true) (hresourcesUp : ".." ∉ s.resourcesDir.parts)
    (houtput : s.outputDir.isAbsolute = true) (houtputUp : ".." ∉ s.outputDir.parts) :
    ¬ s.outputDir.names <+: s.resourcesDir.names ∧
      ¬ s.resourcesDir.names <+: s.outputDir.names := by
  obtain ⟨hdirectory, hwithin, hcheck⟩ := directories_of_check h
  obtain ⟨T, _, hentry⟩ := isDirectory_iff.mp hdirectory
  have hroot := Node.entryAt_eq_emptyDirectory_of_isPrefix List.nil_prefix hentry
  have hres := resolved_of_linkFree hfs hroot hresources hresourcesUp
  have hout := resolved_of_linkFree hfs hroot houtput houtputUp
  exact ⟨not_isPrefix_of_resolved hcheck List.mem_cons_self hout hres,
    not_isPrefix_of_isWithin hres hwithin hout⟩

/-! ## Commands

A command takes its paths from the flags first and from the settings of the project otherwise. In
both cases they start at the canonical directory of the project, so they are absolute whatever
they are spelled like. -/

namespace Project

variable {p : Project} {w : Workspace} {clock : Clock} {command : Command} {q : List String}

/-- An entry that a command takes for output: it lies in the output directory of the build
constants, which no check compares with the resources. -/
def Exposes (p : Project) (command : Command) (q : List String) : Prop :=
  ∃ a output, command = .buildConfig a ∧ p.outputDir? command = some output ∧ output.names <+: q

/-- **Resources are spared.** Where there are no links and no `..`, every file below the resources
directory in effect is still there after a command with the bytes it had, whatever the command came
to, unless the output directory of the build constants holds it. -/
theorem execute_spares_resources {fs : FileSystem} {env : Environment} {directory : Path}
    {settingsFile : Option Path} (hload : load fs env directory settingsFile = .ok p)
    (hfs : w.files.root.LinkFree) (hresources : ".." ∉ (p.resourcesDir command).parts)
    (houtput : ∀ output ∈ p.outputDir? command, ".." ∉ output.parts)
    (hq : (p.resourcesDir command).names <+: q) {content : List UInt8}
    (hfile : w.files.root.entryAt q = some (.file content)) (hsafe : ¬ p.Exposes command q) :
    (leftBy (p.execute clock command w)).files.root.entryAt q = some (.file content) := by
  have hrooted := rooted_of_load hload
  rcases command with a | a | ⟨names, format⟩ | format
  · have hrun := (a.applyTo p.directory p.settings.r).run_generate [p.directory] clock w
    have hdir : p.outputDir? (.resources a) =
        some (a.applyTo p.directory p.settings.r).outputDir := rfl
    have habsolute := hrooted.outputDir hdir
    have hup := houtput _ hdir
    rw [execute, files_bind_pure]
    refine entryAt_of_run (ResourceSettings.isBuild _ _ _) hrun hfs habsolute hup hfile ?_
    intro built w₁ hbuild
    obtain ⟨hcheck, _⟩ := ResourceSettings.build_eq_ok_iff.mp hbuild
    obtain ⟨houtside, hinside⟩ := ResourceSettings.apart_of_check hcheck hfs
      (hrooted.resourcesDir (.resources a)) hresources habsolute hup
    exact not_isPrefix_of_apart houtside hinside hq
  · rw [execute]
    rcases hsettings : a.applyTo p.directory p.settings.buildConfig with e | s
    · exact hfile
    · have hrun := s.run_generate [p.directory] clock w
      have hdir := outputDir_of_applyTo hsettings
      refine (congrArg (·.root.entryAt q) (files_bind_pure _ _ w)).trans ?_
      refine entryAt_of_run (s.isBuild _ _) hrun hfs (hrooted.outputDir hdir) (houtput _ hdir) hfile
        fun _ _ _ hunder ↦ hsafe ⟨a, s.outputDir, rfl, hdir, hunder⟩
  · exact hfile
  · rw [execute]
    rcases p.settingsText format with e | text <;> exact hfile

/-! ### A project of one resource -/

/-- The files of a project at `/p` with one resource. -/
def oneResource (content : List UInt8) : FileSystem where
  root := .directory [("p", .directory [("src", .directory [("main", .directory
    [("resources", .directory [("a.txt", .file content)])])])])]

/-- The project at `/p` without a settings file. -/
def atP : Project := ⟨⟨"/p"⟩, Settings.resolvePaths {} ⟨"/p"⟩⟩

/-- The command `build-config --package p` with an output directory. -/
def constantsTo (output : Path) : Command := .buildConfig
  { packageName := some "p", className := none, outputDir := some output, appName := none,
    groupId := none, appVersion := none, debug := false, artifactId := none, desc := none,
    email := none, url := none, fields := [], format := "text" }

theorem ofSetting_defaults : Settings.ofSetting Setting.defaults = .ok {} := by cbv

theorem load_of_noFile {fs : FileSystem} {project : Path}
    (h : fs.settingsFile? (project.join ⟨settingsFileName⟩) = none) :
    Settings.load fs [] project = .ok {} := by
  unfold Settings.load Settings.loadLayers
  rw [h]
  exact ofSetting_defaults

section OneResource

variable (content : List UInt8)

theorem isFile_of_missing {fs : FileSystem} {p : Path} {front post D : List String} {name : String}
    (h : fs.Missing p.isAbsolute p.parts front name post D) : fs.isFile p = false := by
  obtain ⟨e, he⟩ := canonical_of_missing h
  rw [canonical] at he
  rw [isFile, stat, he]
  rfl

theorem settingsFile?_oneResource :
    (oneResource content).settingsFile? ((Path.mk "/p").join ⟨settingsFileName⟩) = none := by
  have hpath : (Path.ofNames []).join ((Path.mk "/p").join ⟨settingsFileName⟩) =
      ⟨"/p/rgen.toml"⟩ := by decide
  have hcurrent : (oneResource content).currentPath = .ofNames [] := rfl
  have hmissing {p : Path} (name : String) (hp : p.isAbsolute = true)
      (hparts : p.parts = ["p", name]) (hname : PathStep.ofPart name = .enter name)
      (hne : "src" ≠ name) :
      (oneResource content).isFile p = false := by
    have hfree : (oneResource content).root.entryAt ["p", name] = none := by
      simp [oneResource, Node.entryAt_cons, Node.child?, Node.entries, hne]
    have hfront : (oneResource content).Reaches p.isAbsolute ["p"] ["p"] := by
      rw [hp]
      exact reaches_of_names (by decide) (by decide) rfl
    exact isFile_of_missing ⟨hparts, hfront, hname, hfree⟩
  have hshort : (oneResource content).isFile ⟨"/p/rgen.toml"⟩ = false :=
    hmissing "rgen.toml" (by decide) (by decide) rfl (by decide)
  have hlong : (oneResource content).isFile ⟨"/p/rgen.toml.toml"⟩ = false :=
    hmissing "rgen.toml.toml" (by decide) (by decide) rfl (by decide)
  have hlonger : "/p/rgen.toml" ++ ".toml" = "/p/rgen.toml.toml" := by decide
  simp only [settingsFile?, hcurrent, hpath, hlonger, hshort, hlong]
  rfl

theorem load_atP : load (oneResource content) [] ⟨"/p"⟩ none = .ok atP := by
  have hcanonical : (oneResource content).canonical ⟨"/p"⟩ = .ok ["p"] := by cbv
  have hnames : Path.ofNames ["p"] = ⟨"/p"⟩ := by decide
  have hlayers := load_of_noFile (settingsFile?_oneResource content)
  simp only [load, hcanonical, hnames, hlayers]
  rfl

theorem linkFree_oneResource : (oneResource content).root.LinkFree := by
  have hone {name : String} {n : Node} (hn : n.LinkFree) : (Node.directory [(name, n)]).LinkFree :=
    Node.linkFree_directory (by simpa using hn)
  exact hone (hone (hone (hone (hone (Node.linkFree_file _)))))

end OneResource

/-- The entry of the resource. -/
def resourceNames : List String := ["p", "src", "main", "resources", "a.txt"]

theorem execute_spares_resources_oneResource :
    load (oneResource [120]) [] ⟨"/p"⟩ none = .ok atP ∧ (oneResource [120]).root.LinkFree ∧
      ".." ∉ (atP.resourcesDir (constantsTo ⟨"gen"⟩)).parts ∧
      (∀ output ∈ atP.outputDir? (constantsTo ⟨"gen"⟩), ".." ∉ output.parts) ∧
      (atP.resourcesDir (constantsTo ⟨"gen"⟩)).names <+: resourceNames ∧
      (oneResource [120]).root.entryAt resourceNames = some (.file [120]) ∧
      ¬ atP.Exposes (constantsTo ⟨"gen"⟩) resourceNames ∧
      (leftBy (atP.execute ResourceSettings.newYear (constantsTo ⟨"gen"⟩)
        ⟨oneResource [120], []⟩)).files.root.entryAt resourceNames = some (.file [120]) := by
  have hresources : ".." ∉ (atP.resourcesDir (constantsTo ⟨"gen"⟩)).parts := by decide
  have houtput : ∀ output ∈ atP.outputDir? (constantsTo ⟨"gen"⟩), ".." ∉ output.parts := by decide
  have hbelow : (atP.resourcesDir (constantsTo ⟨"gen"⟩)).names <+: resourceNames := by decide
  have hsafe : ¬ atP.Exposes (constantsTo ⟨"gen"⟩) resourceNames := by
    rintro ⟨a, output, _, hdir, hunder⟩
    cases hdir
    revert hunder
    decide
  have hload := load_atP [120]
  have hfs := linkFree_oneResource [120]
  exact ⟨hload, hfs, hresources, houtput, hbelow, rfl, hsafe,
    execute_spares_resources hload hfs hresources houtput hbelow rfl hsafe⟩

/-- The settings of the build constants with the output directory `/p/src`. -/
def constantsInSrc : BuildSettings where
  packageName := "p"
  outputDir := ⟨"/p/src"⟩

/-- The check lets the output directory hold the resources. -/
theorem check_constantsInSrc (content : List UInt8) :
    constantsInSrc.check [atP.directory] (oneResource content) = .ok () := by
  have hpackage : checkPackageName constantsInSrc.packageName = .ok () := by decide
  have hclass : checkClassName constantsInSrc.className = .ok () := by decide
  have hproject := resolved_of_linkFree (p := atP.directory) (linkFree_oneResource content) rfl
    (by decide) (by decide)
  have houtput := resolved_of_linkFree (p := constantsInSrc.outputDir)
    (linkFree_oneResource content) rfl (by decide) (by decide)
  have hstarts : (Path.ofNames atP.directory.names).startsWith
      (.ofNames constantsInSrc.outputDir.names) = false := by decide
  simp only [BuildSettings.check, hpackage, hclass, checkOutput, hproject, houtput, hstarts]
  rfl

theorem outputDir_exposes : atP.Exposes (constantsTo ⟨"src"⟩) resourceNames :=
  ⟨_, ⟨"/p/src"⟩, rfl, by decide, by decide⟩

theorem entryAt_generate_constantsInSrc (content : List UInt8) (clock : Clock) :
    (leftBy (constantsInSrc.generate [atP.directory] clock
      ⟨oneResource content, []⟩)).files.root.entryAt resourceNames = none := by
  obtain ⟨built, w₁, hbuild⟩ : ∃ built w₁,
      constantsInSrc.build [atP.directory] clock ⟨oneResource content, []⟩ = .ok built w₁ :=
    ⟨_, _, BuildSettings.build_eq_ok_iff.mpr
      ⟨check_constantsInSrc content, [], rfl, rfl, rfl, rfl⟩⟩
  have hrun := constantsInSrc.run_generate [atP.directory] clock ⟨oneResource content, []⟩
  generalize constantsInSrc.generate [atP.directory] clock ⟨oneResource content, []⟩ = r at hrun
  rcases hrun with ⟨e, hstopped, _⟩ | @⟨file, skipped, _, _, hbuilt, hruns⟩
  · cases hbuild.symm.trans hstopped
  have hplaceable := (constantsInSrc.isBuild _ clock).placeable _ _ _ _ hbuilt
  have hsegments : file.segments = ["p"] := by
    obtain ⟨_, fields, _, rfl, _⟩ := BuildSettings.build_eq_ok_iff.mp hbuilt
    exact (by decide : ("p".toList.splitOn '.').map String.ofList = ["p"])
  have hname : file.fileName = "BuildConfig.java" := by
    obtain ⟨_, fields, _, rfl, _⟩ := BuildSettings.build_eq_ok_iff.mp hbuilt
    rw [SourceFile.fileName, BuildSettings.name_addCustom, BuildSettings.name_standardClass]
    decide
  have hfits : file.Fits := by
    rw [SourceFile.Fits, hsegments, hname]
    decide
  obtain ⟨after, hafter, hreplaced⟩ := replace_of_directory (p := constantsInSrc.outputDir)
    (linkFree_oneResource content) ⟨by decide, by decide, by decide⟩ ⟨by decide, by decide⟩
    (by decide) (by decide) rfl hplaceable hfits
  rw [hruns.files_leftBy, hafter]
  refine (hreplaced.inside ["main", "resources", "a.txt"]).trans ?_
  rw [SourceFile.entryIn, hsegments, hname, if_neg (by decide), if_neg (by decide)]

/-- **An exposed file.** With the output directory `src` the command `build-config` deletes the
resources of a project. -/
theorem exposed_file_lost :
    load (oneResource [120]) [] ⟨"/p"⟩ none = .ok atP ∧ (oneResource [120]).root.LinkFree ∧
      ".." ∉ (atP.resourcesDir (constantsTo ⟨"src"⟩)).parts ∧
      (∀ output ∈ atP.outputDir? (constantsTo ⟨"src"⟩), ".." ∉ output.parts) ∧
      (atP.resourcesDir (constantsTo ⟨"src"⟩)).names <+: resourceNames ∧
      (oneResource [120]).root.entryAt resourceNames = some (.file [120]) ∧
      (leftBy (atP.execute ResourceSettings.newYear (constantsTo ⟨"src"⟩)
        ⟨oneResource [120], []⟩)).files.root.entryAt resourceNames = none := by
  refine ⟨load_atP [120], linkFree_oneResource [120], by decide, by decide, by decide, rfl, ?_⟩
  have hexecute : (leftBy (atP.execute ResourceSettings.newYear (constantsTo ⟨"src"⟩)
      ⟨oneResource [120], []⟩)).files = (leftBy (constantsInSrc.generate [atP.directory]
        ResourceSettings.newYear ⟨oneResource [120], []⟩)).files :=
    files_bind_pure _ _ _
  rw [hexecute]
  exact entryAt_generate_constantsInSrc [120] ResourceSettings.newYear

end Project

end JavaConstants
