import JavaConstants.Proofs.Commands
import JavaConstants.Proofs.Subtrees

/-!
# Repeated runs

A run changes the files that the next run reads. What it changes lies in the output directory and on
the way to it, and a check keeps these apart from the resources; so the second run passes the same
check, walks the same tree (`find?_replace_of_apart`) and finds an output directory that it can
replace. It reports the same and writes the same file but for the line with the time
(`generate_again`).
-/

namespace JavaConstants

open FileSystem

/-! ## Places apart from an output directory -/

/-- Places of which neither is at or below the other. -/
def Apart (p q : List String) : Prop := ¬ p <+: q ∧ ¬ q <+: p

theorem Apart.append {p q : List String} (h : Apart p q) (below : List String) :
    Apart (p ++ below) q := by
  refine ⟨fun hunder ↦ h.1 ((List.prefix_append p below).trans hunder), fun hover ↦ ?_⟩
  rcases List.prefix_or_prefix_of_prefix hover (List.prefix_append p below) with hqp | hpq
  · exact h.2 hqp
  · exact h.1 hpq

theorem Node.find?_of_entryAt_file {n : Node} {names : List String} {content : List UInt8}
    (h : n.entryAt names = some (.file content)) : n.find? names = some (.file content) := by
  obtain ⟨m, hm, hbare⟩ := Option.map_eq_some_iff.mp h
  rcases m with content' | es | target | _ <;> cases hbare
  exact hm

namespace FileSystem

variable {fs : FileSystem} {p : Path} {q : List String}

theorem find?_nest_of_apart {D names : List String} {name : String} (hq : Apart (D ++ [name]) q) :
    (fs.nest D (name :: names)).root.find? q = fs.root.find? q := by
  induction names generalizing fs D name with
  | nil => exact Node.find?_insert_of_apart _ hq.1 hq.2
  | cons next names ih =>
    rw [nest, ih (hq.append [next])]
    exact Node.find?_insert_of_apart _ hq.1 hq.2

theorem linkFree_clear (hfs : fs.root.LinkFree) (p : Path) :
    (leftBy (fs.clear p)).root.LinkFree := by
  by_cases hexists : fs.pathExists p = true
  · rcases clear_outcome hexists with ⟨e, he⟩ | ⟨T, hcleared⟩
    · rwa [he]
    · exact fun names target hentry ↦ hfs names target (hcleared.sub _ _ hentry)
  · rwa [clear, if_neg hexists]

section Refresh

variable (hfs : fs.root.LinkFree) (hplain : p.Plain)
include hfs hplain

theorem find?_clear_of_apart (hq : Apart p.names q) :
    (leftBy (fs.clear p)).root.find? q = fs.root.find? q := by
  rw [clear]
  split_ifs
  swap
  · rfl
  have hplace {T : List String} (h : fs.canonical p = .ok T) : Apart T q := by
    rwa [eq_names_of_canonical hfs hplain.isAbsolute hplain.up h]
  have houtcome := removeTree_outcome fs p
  generalize fs.removeTree p = r at houtcome
  rcases houtcome with e | ⟨_, hentry⟩ | ⟨hcanonical, _, _, hleft⟩ | ⟨hcanonical, _, _⟩
  · rfl
  · exact absurd hentry (hfs _ _)
  · rw [hleft]
    exact Node.find?_insert_of_apart _ (hplace hcanonical).1 (hplace hcanonical).2
  · have hapart := hplace hcanonical
    exact (Node.find?_erase_of_apart hapart.1 hapart.2).trans
      (Node.find?_insert_of_apart _ hapart.1 hapart.2)

theorem find?_refresh_of_apart (hq : Apart p.names q) (hsome : (fs.root.find? q).isSome) :
    (leftBy (fs.refresh p)).root.find? q = fs.root.find? q := by
  have hcleared := find?_clear_of_apart hfs hplain hq
  have hlinks := linkFree_clear hfs p
  rw [refresh]
  generalize fs.clear p = r at hcleared hlinks
  rcases r with ⟨_, cleared⟩ | ⟨e, cleared⟩
  swap
  · exact hcleared
  rw [leftBy] at hcleared hlinks
  rw [Edited.andThen_ok, ← hcleared]
  have hstraight : cleared.Straight p.isAbsolute p.parts := straight_of_notMem hplain.up
  have houtcome := createDirectories_outcome
    (Path.text_ne_empty_of_isAbsolute hplain.isAbsolute) hstraight
  generalize cleared.createDirectories p = r at houtcome
  rcases houtcome with e | _ | @⟨front, name, post, D, made, _, hmissing, _, _, _, _, hleft⟩
  · rfl
  · rfl
  -- The first directory created was missing, so what stands at `q` is not in it.
  have hnames : p.names = D ++ name :: Path.namesIn post :=
    (hplain.isAbsolute ▸ hmissing).names_eq hlinks hplain.up
  rw [hleft]
  refine find?_nest_of_apart ⟨fun hunder ↦ ?_, fun hover ↦ hq.2 ?_⟩
  · have hnone := Node.entryAt_eq_none_of_isPrefix hmissing.free hunder
    rw [Node.entryAt, Option.map_eq_none_iff, hcleared] at hnone
    rw [hnone] at hsome
    cases hsome
  · rw [hnames]
    exact hover.trans (concat_prefix_append_cons D name _)

end Refresh

/-! ## What a successful replacement tells of its names -/

theorem exists_place_of_write {content : List UInt8} {after : FileSystem}
    (h : fs.write p content = .ok after) : ∃ x, fs.place true p = .ok x := by
  rw [write, modifyFile] at h
  split_ifs at h
  · obtain ⟨_, _, h⟩ := bind_eq_ok h
    cases h
  · rcases hplace : fs.place true p with e | x
    · rw [hplace] at h
      cases h
    · exact ⟨x, rfl⟩

theorem Edited.exists_of_andThen {x : Edited} {next : FileSystem → Edited} {after : FileSystem}
    (h : x.andThen next = .ok () after) :
    ∃ between, x = .ok () between ∧ next between = .ok () after := by
  rcases x with ⟨_, between⟩ | ⟨e, between⟩
  · exact ⟨between, rfl, h⟩
  · cases h

theorem names_of_replace {f : SourceFile} (hf : f.Placeable) (habsolute : p.isAbsolute = true)
    {after : FileSystem} (h : fs.replace p f = .ok () after) :
    p.Usable ∧ (∀ s ∈ p.names, s.utf8ByteSize ≤ maxNameBytes) ∧ f.Fits := by
  obtain ⟨fresh, _, hdeposit⟩ := Edited.exists_of_andThen h
  obtain ⟨made, _, hwrite⟩ := Edited.exists_of_andThen hdeposit
  obtain ⟨parent, _, _, _, _, hparts⟩ := hf.exists_parent p
  generalize p.join f.relativePath = path at hparts hwrite
  obtain ⟨x, hplace⟩ : ∃ x, made.place true path = .ok x := by
    rcases hwritten : made.write path (utf8Bytes f.render) with e | written
    · rw [hwritten] at hwrite
      cases hwrite
    · exact exists_place_of_write hwritten
  -- The way to the file goes through all these names.
  obtain ⟨husable, hway⟩ := place_eq_ok_iff.mp hplace
  have hfits {s : String} (hs : s ∈ path.parts) (hstep : PathStep.ofPart s = .enter s) :
      s.utf8ByteSize ≤ maxNameBytes := hway.fits (List.mem_map.mpr ⟨s, hs, hstep⟩)
  have hbase {s : String} (hs : s ∈ p.baseParts) : s ∈ path.parts := by
    rw [hparts]
    simp [hs]
  have hnames {s : String} (hs : s ∈ p.parts) : s = "" ∨ s ∈ p.baseParts := by
    rcases p.parts_eq_baseParts with hsame | hslash
    · exact .inr (hsame ▸ hs)
    · rw [hslash, List.mem_append, List.mem_singleton] at hs
      exact hs.symm
  refine ⟨Path.usable_iff.mpr ⟨fun s hs ↦ ?_, .inl habsolute⟩, fun s hs ↦ ?_, fun s hs ↦ ?_⟩
  · rcases hnames hs with rfl | hs
    · decide
    · exact (Path.usable_iff.mp husable).1 s (hbase hs)
  · obtain ⟨hs, hstep⟩ := List.mem_filter.mp hs
    have hstep := of_decide_eq_true hstep
    rcases hnames hs with rfl | hs
    · decide
    · exact hfits (hbase hs) hstep
  · refine hfits ?_ (hf.isEntryName hs).step
    rw [hparts, List.append_assoc]
    exact List.mem_append_right _ hs

/-! ## Replacements -/

section Replace

variable {f : SourceFile} {after : FileSystem} (hfs : fs.root.LinkFree) (hplain : p.Plain)
  (hnames : p.names ≠ []) (hf : f.Placeable) (h : fs.replace p f = .ok () after)
include hfs hplain hnames hf h

/-- Without links, a replacement at a plain path is one as a whole. -/
theorem replaced_of_replace : fs.Replaced after p.names f := by
  obtain ⟨_, hfits, hfileFits⟩ := names_of_replace hf hplain.isAbsolute h
  rcases replace_plain hfs hplain hnames hfits hf hfileFits with ⟨e, he⟩ |
    ⟨after', hafter, hreplaced⟩
  · cases h.symm.trans he
  · cases h.symm.trans hafter
    exact hreplaced

/-- A replacement leaves the subtrees apart from the output directory. -/
theorem find?_replace_of_apart (hq : Apart p.names q) (hsome : (fs.root.find? q).isSome) :
    after.root.find? q = fs.root.find? q := by
  obtain ⟨_, hfits, hfileFits⟩ := names_of_replace hf hplain.isAbsolute h
  rcases refresh_plain hfs hplain hnames hfits with ⟨e, he⟩ | ⟨fresh, hfresh, hoff⟩
  · rw [replace, he] at h
    cases h
  have hbefore := find?_refresh_of_apart hfs hplain hq hsome
  rw [hfresh] at hbefore
  have hdeposit := deposit_eq_ok hf hoff.usable hoff.reaches hoff.empty (utf8Bytes f.render)
    hfileFits
  rw [replace, hfresh, Edited.andThen_ok, hdeposit] at h
  cases h
  obtain ⟨first, rest, hsegments⟩ := List.exists_cons_of_ne_nil f.segments_ne_nil
  have hfile : Apart (p.names ++ f.segments ++ [f.fileName]) q := (hq.append _).append _
  refine (Node.find?_insert_of_apart _ hfile.1 hfile.2).trans ?_
  rw [hsegments]
  exact (find?_nest_of_apart (hq.append [first])).trans hbefore

end Replace

namespace Replaced

variable {before after : FileSystem} {output : List String} {f : SourceFile}

theorem linkFree (h : before.Replaced after output f) (hfs : before.root.LinkFree) :
    after.root.LinkFree := by
  intro q target hentry
  by_cases hinside : output <+: q
  · obtain ⟨below, rfl⟩ := hinside
    rw [h.inside, SourceFile.entryIn] at hentry
    split_ifs at hentry <;> cases hentry
  · rcases h.outside q hinside with hsame | ⟨_, _, hnew⟩
    · exact hfs q target (hsame ▸ hentry)
    · cases hentry.symm.trans hnew

theorem directory (h : before.Replaced after output f) :
    after.root.entryAt output = some .emptyDirectory := by
  have hself := h.inside []
  rwa [List.append_nil, SourceFile.entryIn, if_pos List.nil_prefix] at hself

end Replaced

theorem read_of_replaced {f : SourceFile} {before after : FileSystem}
    (h : before.Replaced after p.names f) (hf : f.Placeable) (hplain : p.Plain)
    (husable : p.Usable) (hfits : ∀ s ∈ p.names, s.utf8ByteSize ≤ maxNameBytes)
    (hfileFits : f.Fits) : after.read (p.join f.relativePath) = .ok (utf8Bytes f.render) := by
  obtain ⟨parent, _, _, _, habsolute, hparts⟩ := hf.exists_parent p
  have hentryNames : ∀ s ∈ f.segments ++ [f.fileName], IsEntryName s := fun s hs ↦ hf.isEntryName hs
  have hnames : (p.join f.relativePath).names = p.names ++ (f.segments ++ [f.fileName]) := by
    have hbase : Path.namesIn p.baseParts = p.names := by
      rw [Path.names]
      rcases p.parts_eq_baseParts with hsame | hslash
      · rw [hsame]
      · rw [hslash, Path.namesIn_append]
        simp [Path.namesIn, PathStep.ofPart]
    rw [Path.names, hparts, List.append_assoc, Path.namesIn_append, hbase,
      namesIn_of_isEntryName hentryNames]
  generalize p.join f.relativePath = path at habsolute hparts hnames
  have hup : ".." ∉ path.parts := by
    rw [hparts, List.append_assoc, List.mem_append, not_or]
    exact ⟨fun hmem ↦ hplain.up (p.baseParts_isPrefix.subset hmem),
      (notMem_of_isEntryName hentryNames).2⟩
  have hwhole : ∀ s ∈ path.names, s.utf8ByteSize ≤ maxNameBytes := by
    rw [hnames]
    intro s hs
    rcases List.mem_append.mp hs with hs | hs
    · exact hfits s hs
    · exact hfileFits s hs
  have hentry : after.root.entryAt path.names = some (.file (utf8Bytes f.render)) := by
    rw [hnames, h.inside, SourceFile.entryIn, if_neg (not_concat_isPrefix_self _ _), if_pos rfl]
  have hcanonical : after.canonical path = .ok path.names := by
    refine canonical_of_entry ?_ (habsolute.trans hplain.isAbsolute) hup hwhole hparts
      hf.fileName.step hentry (by simp)
    exact usable_of_isEntryName husable (hparts.trans (List.append_assoc _ _ _)) hentryNames
      (by simp)
  rw [read, stat_eq_ok_iff.mpr ⟨_, hcanonical, Node.find?_of_entryAt_file hentry⟩]

end FileSystem

/-! ## What the second run reads

The first run may create directories above its output directory. But the second run asks only for
what paths are resolved to and for the tree of the resources. -/

section Same

variable {fs fs' : FileSystem}

theorem checkOutput_congr {output : Path} {guarded : List Path}
    (houtput : fs.resolved output = fs'.resolved output)
    (hguarded : ∀ d ∈ guarded, fs.resolved d = fs'.resolved d) :
    checkOutput fs output guarded = checkOutput fs' output guarded := by
  induction guarded with
  | nil => rfl
  | cons d guarded ih =>
    rw [List.forall_mem_cons] at hguarded
    rw [checkOutput, checkOutput, houtput, hguarded.1, ih hguarded.2]

/-- The check asks whether the resources are a directory and what paths are resolved to. -/
theorem ResourceSettings.check_congr {s : ResourceSettings} {guarded : List Path}
    (hdirectory : fs.isDirectory s.resourcesDir = fs'.isDirectory s.resourcesDir)
    (houtput : fs.resolved s.outputDir = fs'.resolved s.outputDir)
    (hguarded : ∀ d ∈ s.resourcesDir :: guarded, fs.resolved d = fs'.resolved d) :
    s.check guarded fs = s.check guarded fs' := by
  have hwithin : fs.isWithin s.outputDir s.resourcesDir =
      fs'.isWithin s.outputDir s.resourcesDir := by
    rw [FileSystem.isWithin, FileSystem.isWithin, houtput, hguarded _ List.mem_cons_self]
  rw [check, check, hdirectory, hwithin, checkOutput_congr houtput hguarded]

theorem Path.Usable.isEntryName {p : Path} (h : p.Usable) : ∀ s ∈ p.names, IsEntryName s := by
  intro s hs
  obtain ⟨hs, hstep⟩ := List.mem_filter.mp hs
  exact ⟨of_decide_eq_true hstep, p.spellable_parts.1 s hs, (usable_iff.mp h).1 s hs⟩

theorem components_canonicalOrSame (hfs : fs.root.LinkFree) {p : Path} (hplain : p.Plain) :
    (fs.canonicalOrSame p).components = .root :: p.names.map .name := by
  rw [FileSystem.canonicalOrSame]
  rcases hcanonical : fs.canonical p with e | T
  · exact Path.components_eq_names hplain.isAbsolute hplain.up
  · obtain rfl := FileSystem.eq_names_of_canonical hfs hplain.isAbsolute hplain.up hcanonical
    exact Path.components_ofNames_of_isEntryName
      (FileSystem.locate_eq_ok_iff.mp hcanonical).1.isEntryName

theorem ofPaths_congr (hfs : fs.root.LinkFree) (hfs' : fs'.root.LinkFree) {paths : List Path}
    (hplain : ∀ p ∈ paths, p.Plain) :
    Exclusions.ofPaths fs paths = Exclusions.ofPaths fs' paths := by
  rw [Exclusions.ofPaths, Exclusions.ofPaths, List.map_congr_left fun p hp ↦ ?_]
  rw [components_canonicalOrSame hfs (hplain p hp), components_canonicalOrSame hfs' (hplain p hp)]

/-- A walk reads the tree at its root and nothing else. -/
theorem walkResources_congr {resources : Path} {root : List String} {n : Node}
    (hroot : fs.canonical resources = .ok root) (hpath : fs.canonical (.ofNames root) = .ok root)
    (hroot' : fs'.canonical resources = .ok root)
    (hpath' : fs'.canonical (.ofNames root) = .ok root) (hn : fs.root.find? root = some n)
    (hn' : fs'.root.find? root = some n) (hwell : n.WellFormed) (hlinks : n.LinkFree)
    (o : ExtractOptions) (exclusions : Exclusions) :
    walkResources fs o exclusions resources = walkResources fs' o exclusions resources := by
  have hentries : fs.seeEntries (.ofNames root) n.entries =
      fs'.seeEntries (.ofNames root) n.entries := by
    rcases n with content | es | target | _
    · rfl
    · rw [FileSystem.seeEntries_eq_map, FileSystem.seeEntries_eq_map]
      refine List.map_congr_left fun e he ↦ ?_
      rw [FileSystem.seeEntry_congr (hwell.of_mem he) (hlinks.of_find? (hwell.find?_of_mem he))]
    · rfl
    · rfl
  have hlist : fs.listResources (.ofNames root) = fs'.listResources (.ofNames root) := by
    simp only [FileSystem.listResources, FileSystem.stat_eq_ok_iff.mpr ⟨root, hpath, hn⟩,
      FileSystem.stat_eq_ok_iff.mpr ⟨root, hpath', hn'⟩, hentries]
  simp only [walkResources, hroot, hroot', hlist]

end Same

/-! ## Runs that succeed -/

theorem Generating.exists_of_bind {α β : Type} {m : Generating α} {k : α → Generating β}
    {w w' : Workspace} {b : β} (h : (m >>= k) w = .ok b w') :
    ∃ a w₁, m w = .ok a w₁ ∧ k a w₁ = .ok b w' := by
  rw [Generating.bind_apply] at h
  rcases hm : m w with ⟨a, w₁⟩ | ⟨e, w₁⟩
  · rw [hm] at h
    exact ⟨a, w₁, rfl, h⟩
  · rw [hm] at h
    cases h

theorem SourceFile.eq_of_writeTo {f : SourceFile} {directory path : Path} {w w' : Workspace}
    (h : f.writeTo directory w = .ok path w') : path = directory.join f.relativePath := by
  unfold writeTo at h
  generalize directory.join f.relativePath = target at h ⊢
  have hwrite {w w' : Workspace} (h : (do
      Generating.edit target fun fs ↦ fs.asEdited (fs.write target (utf8Bytes f.render))
      pure target : Generating Path) w = .ok path w') : path = target := by
    obtain ⟨_, _, _, hpure⟩ := Generating.exists_of_bind h
    cases hpure
    rfl
  rcases hparent : target.parent? with _ | parent
  · simp only [hparent] at h
    exact hwrite h
  · simp only [hparent] at h
    obtain ⟨_, _, _, h⟩ := Generating.exists_of_bind h
    exact hwrite h

namespace ResourceSettings

variable {s : ResourceSettings} {guarded : List Path} {clock : Clock} {w w' : Workspace}
  {report : GenerationReport}

/-- The source file of a class. -/
def sourceFile (s : ResourceSettings) (clock : Clock) (root : ClassNode) : SourceFile :=
  ⟨s.packageName, some clock.here.comment, root⟩

/-- What a run reports. -/
def reportOn (s : ResourceSettings) (clock : Clock) (h : Harvest) : GenerationReport :=
  (s.sourceFile clock h.root).report (s.outputDir.join (s.sourceFile clock h.root).relativePath)
    h.skipped clock.elapsed

theorem exists_of_generate (h : s.generate guarded clock w = .ok report w') :
    s.check guarded w.files = .ok () ∧ ∃ harvest, s.harvest w.files = .ok () harvest ∧
      w.files.replace s.outputDir (s.sourceFile clock harvest.root) = .ok () w'.files ∧
      report = s.reportOn clock harvest := by
  -- The run of the files comes from what is known of all runs, the report from its steps.
  have hrun := s.run_generate guarded clock w
  rw [h] at hrun
  rcases hrun with _ | ⟨hbuild, hruns⟩
  obtain ⟨hcheck, harvest, hharvest, rfl, _, _⟩ := build_eq_ok_iff.mp hbuild
  obtain ⟨_, _, hlog, h⟩ := Generating.exists_of_bind h
  cases hlog
  obtain ⟨⟨file, skipped⟩, _, hbuild', h⟩ := Generating.exists_of_bind h
  obtain ⟨_, harvest', hharvest', rfl, rfl, _⟩ := build_eq_ok_iff.mp hbuild'
  cases hharvest.symm.trans hharvest'
  obtain ⟨_, _, _, h⟩ := Generating.exists_of_bind h
  obtain ⟨path, _, hwrite, h⟩ := Generating.exists_of_bind h
  cases SourceFile.eq_of_writeTo hwrite
  obtain ⟨_, _, _, h⟩ := Generating.exists_of_bind h
  cases h
  generalize hreplace : w.files.replace s.outputDir _ = x at hruns
  rcases hruns with ⟨_, after, events⟩
  exact ⟨hcheck, harvest, hharvest, hreplace, rfl⟩

theorem exists_generate (hcheck : s.check guarded w.files = .ok ()) {harvest : Harvest}
    (hharvest : s.harvest w.files = .ok () harvest) {after : FileSystem}
    (hreplace : w.files.replace s.outputDir (s.sourceFile clock harvest.root) = .ok () after) :
    ∃ w', s.generate guarded clock w = .ok (s.reportOn clock harvest) w' ∧ w'.files = after := by
  obtain ⟨_, hbuild⟩ : ∃ w₁, s.build guarded clock w =
      .ok (s.sourceFile clock harvest.root, harvest.skipped) w₁ :=
    ⟨_, build_eq_ok_iff.mpr ⟨hcheck, harvest, hharvest, rfl, rfl, rfl⟩⟩
  have hrun := s.run_generate guarded clock w
  generalize hr : s.generate guarded clock w = r at hrun
  rcases hrun with ⟨_, hstopped, _⟩ | ⟨hbuilt, hruns⟩
  · cases hbuild.symm.trans hstopped
  cases hbuild.symm.trans hbuilt
  rw [hreplace] at hruns
  rcases hruns with ⟨report, _, events⟩
  obtain ⟨_, harvest', hharvest', _, rfl⟩ := exists_of_generate hr
  cases hharvest.symm.trans hharvest'
  exact ⟨_, rfl, rfl⟩

end ResourceSettings

/-! ## The line with the time

The time is written with letters, digits and a few signs, so it is one line whatever it is, and
the rest of a file begins behind it. -/

/-- The first line of a generated file. -/
def IsHeader (line : String) : Prop :=
  "// Generated at ".toList <+: line.toList ∧ '\n' ∉ line.toList

/-- The characters that the time is written with. -/
def isTimeChar (c : Char) : Bool := c.isAlphanum || ['-', '+', '.', ' '].contains c

namespace DateTime

theorem all_isTimeChar_digitChars (n : Nat) : (digitChars n).all isTimeChar = true := by
  rw [List.all_eq_true]
  intro c hc
  rw [isTimeChar, Char.isAlphanum, Nat.isDigit_of_mem_toDigits (by decide) (by decide) hc,
    Bool.or_true, Bool.true_or]

theorem all_isTimeChar_padded (width n : Nat) : (padded width n).toList.all isTimeChar = true := by
  rw [padded, String.toList_ofList, List.all_append, all_isTimeChar_digitChars, Bool.and_true,
    List.all_replicate]
  simp [isTimeChar]

theorem all_isTimeChar_yearText (year : Int) : (yearText year).toList.all isTimeChar = true := by
  rw [yearText, String.toList_append, List.all_append, all_isTimeChar_padded, Bool.and_true]
  split_ifs <;> decide

theorem all_isTimeChar_comment (t : DateTime) : t.comment.toList.all isTimeChar = true := by
  have hfront : "Generated at ".toList.all isTimeChar = true := by decide
  have hminus : "-".toList.all isTimeChar = true := by decide
  have hat : " at ".toList.all isTimeChar = true := by decide
  have hpoint : ".".toList.all isTimeChar = true := by decide
  have hhalf : (if t.hour < 12 then " AM" else " PM").toList.all isTimeChar = true := by
    split_ifs <;> decide
  unfold comment
  generalize (if t.hour < 12 then " AM" else " PM") = half at hhalf ⊢
  simp only [String.toList_append, String.toList_ofList, List.all_append, hfront, hminus, hat,
    hpoint, hhalf, all_isTimeChar_padded, all_isTimeChar_yearText, all_isTimeChar_digitChars,
    Bool.and_self]

theorem notMem_comment {c : Char} (hc : isTimeChar c = false) (t : DateTime) :
    c ∉ t.comment.toList := by
  intro hmem
  exact Bool.false_ne_true (hc.symm.trans (List.all_eq_true.mp t.all_isTimeChar_comment c hmem))

theorem isPrefix_comment (t : DateTime) : "Generated at ".toList <+: t.comment.toList := by
  unfold comment
  simp only [String.toList_append, List.append_assoc]
  exact List.prefix_append _ _

theorem isHeader_comment (t : DateTime) : IsHeader ("// " ++ t.comment) := by
  have hsplit : "// Generated at ".toList = "// ".toList ++ "Generated at ".toList := by decide
  rw [IsHeader, hsplit, String.toList_append]
  refine ⟨(List.prefix_append_right_inj _).mpr t.isPrefix_comment, ?_⟩
  rw [List.mem_append, not_or]
  exact ⟨by decide, notMem_comment rfl t⟩

end DateTime

theorem linesAfter_of_notMem {line cs : List Char} (h : '\n' ∉ cs) :
    linesAfter line cs = if line = [] ∧ cs = [] then [] else [line.reverse ++ cs] := by
  induction cs generalizing line with
  | nil =>
    rw [linesAfter]
    rcases line with _ | ⟨c, line⟩ <;> simp
  | cons c cs ih =>
    rw [List.mem_cons, not_or] at h
    unfold linesAfter
    rw [if_neg (Ne.symm h.1), ih h.2]
    simp

theorem textLines_of_notMem {text : String} (hne : text ≠ "") (h : '\n' ∉ text.toList) :
    textLines text = [text] := by
  have hchars : text.toList ≠ [] := by simpa using hne
  rw [textLines, linesAfter_of_notMem h, if_neg (by simp [hchars])]
  simp

/-- A generated file is its header and what does not depend on the time. -/
theorem ResourceSettings.render_sourceFile (s : ResourceSettings) (clock : Clock)
    (root : ClassNode) : (s.sourceFile clock root).render =
      "// " ++ clock.here.comment ++ "\n" ++
        (SourceFile.renderPackage s.packageName ++ root.render 0) := by
  have hne : clock.here.comment ≠ "" := by
    intro hempty
    have hprefix := clock.here.isPrefix_comment
    rw [hempty] at hprefix
    revert hprefix
    decide
  rw [SourceFile.render, sourceFile, SourceFile.renderComment]
  simp only [textLines_of_notMem hne (DateTime.notMem_comment rfl clock.here), List.map_singleton]
  simp [String.join, String.append_assoc]

/-! ## Repeated runs -/

namespace ResourceSettings

variable {s : ResourceSettings} {guarded : List Path} {clock clock' : Clock}
  {w w₁ w' : Workspace} {report : GenerationReport}

theorem relativePath_sourceFile (s : ResourceSettings) (clock clock' : Clock) (root : ClassNode) :
    (s.sourceFile clock' root).relativePath = (s.sourceFile clock root).relativePath := by
  have hany (comment comment' : Option String) :
      (SourceFile.mk s.packageName comment' root).relativePath =
        (SourceFile.mk s.packageName comment root).relativePath := rfl
  exact hany _ _

theorem fits_sourceFile {root : ClassNode} (h : (s.sourceFile clock root).Fits) (clock' : Clock) :
    (s.sourceFile clock' root).Fits := by
  have hany {comment : Option String} (h : (SourceFile.mk s.packageName comment root).Fits)
      (comment' : Option String) : (SourceFile.mk s.packageName comment' root).Fits := h
  exact hany h _

theorem reportOn_eq (s : ResourceSettings) (clock clock' : Clock) (h : Harvest) :
    s.reportOn clock' h = { s.reportOn clock h with duration := clock'.elapsed } := by
  rw [reportOn, reportOn, s.relativePath_sourceFile clock clock']
  rfl

theorem canonical_resources {fs : FileSystem} (hfs : fs.root.LinkFree)
    (hresources : s.resourcesDir.Plain) (hdirectory : fs.isDirectory s.resourcesDir = true) :
    fs.canonical s.resourcesDir = .ok s.resourcesDir.names ∧
      fs.root.entryAt s.resourcesDir.names = some .emptyDirectory := by
  obtain ⟨T, hT, hentry⟩ := isDirectory_iff.mp hdirectory
  obtain rfl := eq_names_of_canonical hfs hresources.isAbsolute hresources.up hT
  exact ⟨hT, hentry⟩

section Second

variable {fs fs' : FileSystem} (hfs : fs.root.LinkFree) (hfs' : fs'.root.LinkFree)
  (hresources : s.resourcesDir.Plain) (hcheck : s.check guarded fs = .ok ())
  (htree : fs'.root.find? s.resourcesDir.names = fs.root.find? s.resourcesDir.names)
include hfs hfs' hresources hcheck htree

/-- Where the tree of the resources stands, the check passes again. -/
theorem check_again (houtput : s.outputDir.Plain) (hguarded : ∀ p ∈ guarded, p.Plain) :
    fs'.canonical s.resourcesDir = .ok s.resourcesDir.names ∧ s.check guarded fs' = .ok () := by
  obtain ⟨hdirectory, _, _⟩ := directories_of_check hcheck
  obtain ⟨hcanonical, hentry⟩ := canonical_resources hfs hresources hdirectory
  obtain ⟨husable, hway⟩ := locate_eq_ok_iff.mp hcanonical
  have hfits : ∀ name ∈ s.resourcesDir.names, name.utf8ByteSize ≤ maxNameBytes := by
    intro name hname
    obtain ⟨hmem, hstep⟩ := List.mem_filter.mp hname
    exact hway.fits (List.mem_map.mpr ⟨name, hmem, of_decide_eq_true hstep⟩)
  have hentry' : fs'.root.entryAt s.resourcesDir.names = some .emptyDirectory := by
    rw [Node.entryAt, htree]
    exact hentry
  have hcanonical' :=
    canonical_of_directory husable hresources.isAbsolute hresources.up hfits hentry'
  refine ⟨hcanonical', (check_congr ?_ ?_ ?_).symm.trans hcheck⟩
  · rw [hdirectory, isDirectory_iff.mpr ⟨_, hcanonical', hentry'⟩]
  all_goals
    have hroot := Node.entryAt_eq_emptyDirectory_of_isPrefix List.nil_prefix hentry
    have hroot' := Node.entryAt_eq_emptyDirectory_of_isPrefix List.nil_prefix hentry'
    have hresolved {p : Path} (hp : p.Plain) : fs.resolved p = fs'.resolved p :=
      (resolved_of_linkFree hfs hroot hp.isAbsolute hp.up).trans
        (resolved_of_linkFree hfs' hroot' hp.isAbsolute hp.up).symm
  · exact hresolved houtput
  · exact List.forall_mem_cons.mpr ⟨hresolved hresources, fun p hp ↦ hresolved (hguarded p hp)⟩

/-- The walk finds the same. -/
theorem harvest_again (hwell : fs.root.WellFormed) (hexclusions : ∀ p ∈ s.exclusions, p.Plain)
    (hcanonical' : fs'.canonical s.resourcesDir = .ok s.resourcesDir.names) :
    s.harvest fs' = s.harvest fs := by
  obtain ⟨hdirectory, _, _⟩ := directories_of_check hcheck
  obtain ⟨hcanonical, hentry⟩ := canonical_resources hfs hresources hdirectory
  obtain ⟨es, hes⟩ := Node.entryAt_eq_emptyDirectory_iff.mp hentry
  have hentry' : fs'.root.entryAt s.resourcesDir.names = some .emptyDirectory := by
    rw [Node.entryAt, htree]
    exact hentry
  have hlisted := hwell.of_entryAt (by rw [hentry]; rfl)
  have hpath {fs : FileSystem} (h : fs.root.entryAt s.resourcesDir.names = some .emptyDirectory) :=
    canonical_ofNames (fun t ht ↦ (hlisted t ht).1) (fun t ht ↦ (hlisted t ht).2) h
  rw [harvest, harvest, ofPaths_congr hfs' hfs hexclusions]
  exact congrFun (walkResources_congr hcanonical' (hpath hentry') hcanonical (hpath hentry)
    (htree.trans hes) hes (hwell.of_find? hes) (hfs.of_find? hes) _ _) _

end Second

/-- **Repeated runs agree.** Where there are no links and all paths are plain, a run on the files
that a successful run left succeeds, at any time, reports the same but for its duration and writes
the same file but for the first line. -/
theorem generate_again (hwell : w.files.root.WellFormed) (hfs : w.files.root.LinkFree)
    (hresources : s.resourcesDir.Plain) (houtput : s.outputDir.Plain)
    (hexclusions : ∀ p ∈ s.exclusions, p.Plain) (hguarded : ∀ p ∈ guarded, p.Plain)
    (hrun : s.generate guarded clock w = .ok report w₁) (hsame : w'.files = w₁.files) :
    ∃ w₂ header header' body,
      s.generate guarded clock' w' = .ok { report with duration := clock'.elapsed } w₂ ∧
        IsHeader header ∧ IsHeader header' ∧
        w₁.files.read report.outputFile = .ok (utf8Bytes (header ++ "\n" ++ body)) ∧
        w₂.files.read report.outputFile = .ok (utf8Bytes (header' ++ "\n" ++ body)) := by
  obtain ⟨hcheck, harvest, hharvest, hreplace, rfl⟩ := exists_of_generate hrun
  have hplaceable (clock : Clock) : (s.sourceFile clock harvest.root).Placeable :=
    (s.isBuild guarded clock).placeable w _ _ _
      (build_eq_ok_iff.mpr ⟨hcheck, harvest, hharvest, rfl, rfl, rfl⟩)
  obtain ⟨hdirectory, _, _⟩ := directories_of_check hcheck
  obtain ⟨hroot, hentry⟩ := canonical_resources hfs hresources hdirectory
  have hapart : Apart s.outputDir.names s.resourcesDir.names :=
    apart_of_check hcheck hfs hresources.isAbsolute hresources.up houtput.isAbsolute houtput.up
  have hnames : s.outputDir.names ≠ [] := fun hnil ↦ hapart.1 (hnil ▸ List.nil_prefix)
  -- What the first run left: the file, and the tree of the resources as it was.
  obtain ⟨husable, hfits, hfileFits⟩ :=
    names_of_replace (hplaceable clock) houtput.isAbsolute hreplace
  have hreplaced := replaced_of_replace hfs houtput hnames (hplaceable clock) hreplace
  have htree := find?_replace_of_apart hfs houtput hnames (hplaceable clock) hreplace hapart
    (by simpa [Node.entryAt] using (by rw [hentry]; rfl :
      (w.files.root.entryAt s.resourcesDir.names).isSome))
  have hfs₁ : w₁.files.root.LinkFree := hreplaced.linkFree hfs
  have hread := read_of_replaced hreplaced (hplaceable clock) houtput husable hfits hfileFits
  -- So the second run comes to its replacement, and that finds a directory.
  obtain ⟨hcanonical₁, hcheck₁⟩ := check_again hfs hfs₁ hresources hcheck htree houtput hguarded
  have hharvest₁ := harvest_again hfs hfs₁ hresources hcheck htree hwell hexclusions hcanonical₁
  obtain ⟨after, hafter, hreplaced₂⟩ := replace_of_directory hfs₁ houtput husable hnames hfits
    hreplaced.directory (hplaceable clock') (fits_sourceFile hfileFits clock')
  rw [← hsame] at hcheck₁ hharvest₁ hafter
  obtain ⟨w₂, hrun₂, rfl⟩ := exists_generate hcheck₁ (hharvest₁.trans hharvest) hafter
  have hread₂ := read_of_replaced hreplaced₂ (hplaceable clock') houtput husable hfits
    (fits_sourceFile hfileFits clock')
  rw [reportOn_eq s clock clock'] at hrun₂
  rw [render_sourceFile] at hread hread₂
  rw [s.relativePath_sourceFile clock clock'] at hread₂
  exact ⟨w₂, _, _, _, hrun₂, clock.here.isHeader_comment, clock'.here.isHeader_comment, hread,
    hread₂⟩

/-! ### Two runs on one directory of resources -/

/-- Settings for `/r` without the entry `/r/x`. -/
def withoutX : ResourceSettings := { ofR with exclusions := [⟨"/r/x"⟩] }

/-- Files with two resources and an output directory that holds an old file. -/
def stale : Workspace where
  files := { root := .directory [("r", .directory [("a", .file []), ("x", .file [])]),
    ("o", .directory [("b", .file [])])] }

/-- The last moment of a year. -/
def newYearsEve : Clock where
  now := ⟨2026, 12, 31, 23, 59, 59, 0⟩
  elapsed := 7

theorem linkFree_stale : stale.files.root.LinkFree := by
  have hr : (Node.directory [("a", .file []), ("x", .file [])]).LinkFree :=
    Node.linkFree_directory (by simp [Node.linkFree_file])
  have ho : (Node.directory [("b", .file [])]).LinkFree :=
    Node.linkFree_directory (by simp [Node.linkFree_file])
  exact Node.linkFree_directory (by simp [hr, ho])

theorem wellFormed_stale : stale.files.root.WellFormed := by
  have hr : (Node.directory [("a", .file []), ("x", .file [])]).WellFormed :=
    Node.wellFormed_directory (by decide) (by simp [Node.wellFormed_file])
  have ho : (Node.directory [("b", .file [])]).WellFormed :=
    Node.wellFormed_directory (by decide) (by simp [Node.wellFormed_file])
  exact Node.wellFormed_directory (by decide) (by simp [hr, ho])

/-- The class made of the resources. -/
def staleClass : ClassNode := .mk "R" [("a", .ofText "a" "/a")] []

theorem harvest_stale : withoutX.harvest stale.files =
    .ok () ⟨staleClass, [], [.excludedEntry ⟨"/r/x"⟩]⟩ := by
  have hroot : stale.files.canonical ⟨"/r"⟩ = .ok ["r"] := by cbv
  have hlist : stale.files.listResources (.ofNames ["r"]) =
      .ok [("a", .inr (.file "a" (.ok []))), ("x", .inr (.file "x" (.ok [])))] := by cbv
  have hexclusions : Exclusions.ofPaths stale.files [⟨"/r/x"⟩] =
      ⟨[[.root, .name "r", .name "x"]]⟩ := by cbv
  have hexcludes :
      (Exclusions.mk [[.root, .name "r", .name "x"]]).excludes (.ofNames ["r", "a"]) = false ∧
        (Exclusions.mk [[.root, .name "r", .name "x"]]).excludes (.ofNames ["r", "x"]) = true := by
    decide
  have hhidden : isHidden "a" = false ∧ isHidden "x" = false := by decide
  have hextract (path : Path) (h : Harvest) :
      extractFile ofR.extractOptions [] ⟨path, "a", .ok []⟩ h = .ok false h := by cbv
  have hadd : (Harvest.start "R").add false [] (pathName false "a") (pathValue ["a"]) =
      ⟨staleClass, [], []⟩ := by cbv
  have hwalk : walkNodes ⟨ofR.extractOptions, ⟨[[.root, .name "r", .name "x"]]⟩, ["r"]⟩ [] []
      [.file "a" (.ok []), .file "x" (.ok [])] (.start "R") =
        .ok () ⟨staleClass, [], [.excludedEntry ⟨"/r/x"⟩]⟩ := by
    simp only [walkNodes, walkNode, hhidden, WalkContext.path, List.nil_append,
      List.singleton_append, hexcludes, Bool.false_eq_true, if_false, if_true, bind, EStateM.bind,
      hextract]
    exact congrArg (fun h : Harvest ↦ EStateM.Result.ok () (h.log (.excludedEntry ⟨"/r/x"⟩))) hadd
  rw [harvest]
  simp only [withoutX, ofR, hexclusions, walkResources, hroot, hlist]
  exact hwalk

theorem exists_generate_stale : ∃ report w₁,
    withoutX.generate [] newYear stale = .ok report w₁ := by
  have hcheck : withoutX.check [] stale.files = .ok () := check_ofR (by cbv) (by cbv) (by cbv)
  have hplaceable := (withoutX.isBuild [] newYear).placeable stale _ _ _
    (build_eq_ok_iff.mpr ⟨hcheck, _, harvest_stale, rfl, rfl, rfl⟩)
  have hfits (comment : Option String) : (SourceFile.mk "p" comment staleClass).Fits := by
    have hsegments : (SourceFile.mk "p" comment staleClass).segments = ["p"] :=
      (by decide : ("p".toList.splitOn '.').map String.ofList = ["p"])
    have hname : (SourceFile.mk "p" comment staleClass).fileName = "R.java" := rfl
    rw [SourceFile.Fits, hsegments, hname]
    decide
  obtain ⟨after, hafter, _⟩ := replace_of_directory (p := withoutX.outputDir) linkFree_stale
    ⟨by decide, by decide, by decide⟩ ⟨by decide, by decide⟩ (by decide) (by decide) rfl hplaceable
    (hfits _)
  obtain ⟨w₁, hrun, _⟩ := exists_generate hcheck harvest_stale hafter
  exact ⟨_, w₁, hrun⟩

theorem generate_again_stale :
    stale.files.root.WellFormed ∧ stale.files.root.LinkFree ∧ withoutX.resourcesDir.Plain ∧
      withoutX.outputDir.Plain ∧ (∀ p ∈ withoutX.exclusions, p.Plain) ∧
      ∃ report w₁ w₂ header header' body,
        withoutX.generate [] newYear stale = .ok report w₁ ∧
        withoutX.generate [] newYearsEve w₁ =
          .ok { report with duration := newYearsEve.elapsed } w₂ ∧
        IsHeader header ∧ IsHeader header' ∧
        w₁.files.read report.outputFile = .ok (utf8Bytes (header ++ "\n" ++ body)) ∧
        w₂.files.read report.outputFile = .ok (utf8Bytes (header' ++ "\n" ++ body)) := by
  have hresources : withoutX.resourcesDir.Plain := ⟨by decide, by decide, by decide⟩
  have houtput : withoutX.outputDir.Plain := ⟨by decide, by decide, by decide⟩
  have hexclusions : ∀ p ∈ withoutX.exclusions, p.Plain := by
    intro p hp
    cases List.mem_singleton.mp hp
    exact ⟨by decide, by decide, by decide⟩
  obtain ⟨report, w₁, hrun⟩ := exists_generate_stale
  obtain ⟨w₂, header, header', body, hagain⟩ := @generate_again _ _ _ newYearsEve _ _ _ _
    wellFormed_stale linkFree_stale hresources houtput hexclusions (List.forall_mem_nil _) hrun rfl
  exact ⟨wellFormed_stale, linkFree_stale, hresources, houtput, hexclusions, report, w₁, w₂, header,
    header', body, hrun, hagain⟩

end ResourceSettings

end JavaConstants
