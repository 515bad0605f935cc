import JavaConstants.Proofs.Nesting
import JavaConstants.Proofs.Refresh
import JavaConstants.Proofs.Rendering

/-!
# Replacing an output directory

The part of a run that changes files, as a function of the files alone: the refresh and, in the
fresh directory, the deposit of one source file (`replace`). A deposit works below the directory
that the output path leads to; what it leaves there is told by `entryIn`, and if it fails half way
nothing else has changed (`entryAt_deposit_outside`).
-/

namespace JavaConstants

open JavaConstants.Path

/-! ## Where a source file goes -/

/-- A text that can stand as a part of a path for an entry of that name. -/
structure IsEntryName (s : String) : Prop where
  /-- The part is entered. -/
  step : PathStep.ofPart s = .enter s
  /-- It is one part. -/
  slash : '/' ∉ s.toList
  /-- It is accepted. -/
  nul : '\x00' ∉ s.toList

theorem isEntryName_of_isName {s : String} (h : isName s = true) : IsEntryName s := by
  have hpart {c : Char} (hc : isIdentifierPart c = false) : c ∉ s.toList := notMem_of_isName h hc
  refine ⟨PathStep.ofPart_eq_enter_iff.mpr ⟨rfl, ?_, ?_, ?_⟩, hpart (by decide), hpart (by decide)⟩
  · rintro rfl
    cases h
  · rintro rfl
    exact hpart (c := '.') (by decide) (by decide)
  · rintro rfl
    exact hpart (c := '.') (by decide) (by decide)

theorem IsEntryName.ne_empty {s : String} (h : IsEntryName s) : s ≠ "" :=
  (PathStep.ofPart_eq_enter_iff.mp h.step).2.1

theorem spellable_of_isEntryName {absolute : Bool} {names : List String}
    (h : ∀ s ∈ names, IsEntryName s) : Spellable absolute names :=
  ⟨fun s hs ↦ (h s hs).slash, fun _ hhead ↦ absurd rfl (h _ (List.mem_of_head? hhead)).ne_empty⟩

theorem join_isEntryName {absolute : Bool} {names : List String} {s : String}
    (hnames : ∀ t ∈ names, IsEntryName t) (hs : IsEntryName s) :
    (ofParts absolute names).join ⟨s⟩ = ofParts absolute (names ++ [s]) := by
  have hsingle : (⟨s⟩ : Path) = ofParts false [s] := by
    rw [ofParts]
    simp [String.intercalate_singleton]
  have hbase : (ofParts absolute names).baseParts = names := by
    rcases eq_or_ne names [] with rfl | hne
    · cases absolute <;> decide
    · have hlast : names.getLast? ≠ some "" := fun h ↦
        absurd rfl (hnames _ (List.mem_of_getLast? h)).ne_empty
      rw [baseParts, parts_ofParts (spellable_of_isEntryName hnames) hne, if_neg hlast]
  have hspell : Spellable false [s] :=
    spellable_of_isEntryName fun t ht ↦ List.mem_singleton.mp ht ▸ hs
  rw [hsingle, join_ofParts _ hspell (List.cons_ne_nil _ _), hbase,
    isAbsolute_ofParts (spellable_of_isEntryName hnames)]

namespace SourceFile

/-- The names of the directories of a package. -/
def segments (f : SourceFile) : List String := (f.package.toList.splitOn '.').map String.ofList

/-- The name of a source file. -/
def fileName (f : SourceFile) : String := f.root.name ++ ".java"

/-- A source file in a named package, with a named class. -/
structure Placeable (f : SourceFile) : Prop where
  /-- The package has a name. -/
  package : isPackageName f.package = true
  /-- The class has a name. -/
  root : isName f.root.name = true

variable {f : SourceFile}

theorem segments_ne_nil (f : SourceFile) : f.segments ≠ [] := by
  rw [segments, ne_eq, List.map_eq_nil_iff]
  exact List.splitOn_ne_nil _ _

theorem Placeable.segment (h : f.Placeable) {s : String} (hs : s ∈ f.segments) :
    IsEntryName s := by
  have hpackage := h.package
  simp only [isPackageName, Bool.and_eq_true, List.all_eq_true] at hpackage
  obtain ⟨part, hpart, rfl⟩ := List.mem_map.mp hs
  exact isEntryName_of_isName (hpackage.2 part hpart)

theorem Placeable.fileName (h : f.Placeable) : IsEntryName f.fileName := by
  have htext : f.fileName.toList = f.root.name.toList ++ ['.', 'j', 'a', 'v', 'a'] := by
    rw [SourceFile.fileName, String.toList_append]
    rfl
  have hlength : 5 ≤ f.fileName.toList.length := by
    rw [htext, List.length_append]
    exact Nat.le_add_left 5 _
  have hshort {s : String} (hs : s.toList.length < 5) : f.fileName ≠ s := by
    rintro rfl
    omega
  have hchars {c : Char} (hc : isIdentifierPart c = false) (hjava : c ∉ ['.', 'j', 'a', 'v', 'a']) :
      c ∉ f.fileName.toList := by
    rw [htext, List.mem_append, not_or]
    exact ⟨notMem_of_isName h.root hc, hjava⟩
  exact ⟨PathStep.ofPart_eq_enter_iff.mpr ⟨rfl, hshort (by decide), hshort (by decide),
    hshort (by decide)⟩, hchars (by decide) (by decide), hchars (by decide) (by decide)⟩

theorem Placeable.isEntryName (h : f.Placeable) {s : String}
    (hs : s ∈ f.segments ++ [f.fileName]) : IsEntryName s := by
  rcases List.mem_append.mp hs with hs | hs
  · exact h.segment hs
  · rw [List.mem_singleton.mp hs]
    exact h.fileName

theorem Placeable.relativePath_eq (h : f.Placeable) :
    f.relativePath = .ofParts false (f.segments ++ [f.fileName]) := by
  have hfilter : f.segments.filter (· ≠ "") = f.segments := List.filter_eq_self.mpr fun s hs ↦ by
    simpa using (h.segment hs).ne_empty
  have hfold {names : List String} (hnames : ∀ s ∈ names, IsEntryName s) :
      names.foldl (fun (p : Path) part ↦ p.join ⟨part⟩) ⟨""⟩ = .ofParts false names := by
    induction names using List.reverseRecOn with
    | nil => rfl
    | append_singleton names s ih =>
      have hfront : ∀ t ∈ names, IsEntryName t := fun t ht ↦ hnames t (List.mem_append_left _ ht)
      rw [List.foldl_append, ih hfront, List.foldl_cons, List.foldl_nil]
      exact join_isEntryName hfront (hnames s (by simp))
  have hjoin : f.relativePath =
      ((f.segments.filter (· ≠ "")).foldl (fun (p : Path) part ↦ p.join ⟨part⟩) ⟨""⟩).join
        ⟨f.fileName⟩ := rfl
  rw [hjoin, hfilter, hfold fun s hs ↦ h.segment hs]
  exact join_isEntryName (fun s hs ↦ h.segment hs) h.fileName

theorem Placeable.exists_parent (h : f.Placeable) (directory : Path) :
    ∃ parent, (directory.join f.relativePath).parent? = some parent ∧
      parent.isAbsolute = directory.isAbsolute ∧
      parent.parts = directory.baseParts ++ f.segments ∧
      (directory.join f.relativePath).isAbsolute = directory.isAbsolute ∧
      (directory.join f.relativePath).parts =
        directory.baseParts ++ f.segments ++ [f.fileName] := by
  have hnames : ∀ s ∈ f.segments ++ [f.fileName], IsEntryName s := fun s hs ↦ h.isEntryName hs
  have hrelative : Spellable false _ := spellable_of_isEntryName hnames
  have hhead : (f.segments ++ [f.fileName]).head? ≠ some "" := fun hhead ↦
    absurd rfl (hnames _ (List.mem_of_head? hhead)).ne_empty
  have hspell := spellable_baseParts_append directory hrelative hhead
  obtain ⟨front, last, hsegments⟩ :=
    (List.eq_nil_or_concat' f.segments).resolve_left f.segments_ne_nil
  have hparent : Spellable directory.isAbsolute (directory.baseParts ++ f.segments) := by
    refine hspell.of_isPrefix ?_
    rw [← List.append_assoc]
    exact List.prefix_append _ _
  rw [h.relativePath_eq, join_ofParts _ hrelative (by simp)]
  refine ⟨ofParts directory.isAbsolute (directory.baseParts ++ f.segments), ?_,
    isAbsolute_ofParts hparent, parts_ofParts hparent (by simp [hsegments]),
    isAbsolute_ofParts hspell, ?_⟩
  · rw [parent?, ancestors_eq, isAbsolute_ofParts hspell, parts_ofParts hspell (by simp),
      ← List.append_assoc, ladder_concat, if_pos (mark_of_enter h.fileName.step), hsegments,
      ← List.append_assoc, ladder_concat,
      if_pos (mark_of_enter (h.segment (by simp [hsegments])).step)]
    rfl
  · rw [parts_ofParts hspell (by simp), List.append_assoc]

end SourceFile

/-! ## Writing a new file

A source file goes to a place where nothing stands, as the output directory is fresh. So writing
either adds one entry or changes nothing. -/

namespace FileSystem

variable {fs : FileSystem}

section Write

variable {p : Path} {front : List String} {name : String} {D : List String}

theorem eq_free_of_missing {x : Place} (h : fs.Missing p.isAbsolute p.parts front name [] D)
    (hplace : fs.place true p = .ok x) : x = .free D name := by
  obtain ⟨_, hway⟩ := place_eq_ok_iff.mp hplace
  rw [Path.steps, h.parts_eq, List.map_append, List.map_singleton, h.step] at hway
  obtain ⟨D', links, hfront, hlast⟩ := hway.cut (List.cons_ne_nil _ _)
  obtain rfl : D = D' := Place.found.inj (h.reaches.1.unique hfront)
  have hfree := h.free
  cases hlast with
  | free => rfl
  | lastLink _ _ hname => cases hfree.symm.trans hname
  | link _ _ hname => cases hfree.symm.trans hname
  | enter _ _ hname => cases hfree.symm.trans hname

theorem write_eq_of_place (h : fs.Missing p.isAbsolute p.parts front name [] D)
    (hplace : fs.place true p = .ok (.free D name)) (content : List UInt8) :
    fs.write p content = .ok (fs.insert (D ++ [name]) (.file content)) := by
  have hne : name ≠ "" := (PathStep.ofPart_eq_enter_iff.mp h.step).2.1
  have hslash : p.text.toList.getLast? ≠ some '/' := fun hlast ↦
    hne ((getLast?_text h.parts_eq).mp (.inr hlast))
  rw [write, modifyFile, if_neg hslash]
  simp only [hplace]

/-- Writing under a missing name makes a new file or fails. -/
theorem write_cases (h : fs.Missing p.isAbsolute p.parts front name [] D)
    (content : List UInt8) :
    (∃ e, fs.write p content = .error e) ∨
      fs.write p content = .ok (fs.insert (D ++ [name]) (.file content)) := by
  cases hplace : fs.place true p with
  | error e =>
    left
    by_cases hslash : p.text.toList.getLast? = some '/'
    · have hne : name ≠ "" := (PathStep.ofPart_eq_enter_iff.mp h.step).2.1
      exact absurd ((getLast?_text h.parts_eq).mp (.inr hslash)) hne
    · rw [write, modifyFile, if_neg hslash]
      simp only [hplace]
      exact ⟨e, rfl⟩
  | ok x =>
    cases eq_free_of_missing h hplace
    exact .inr (write_eq_of_place h hplace content)

theorem entryAt_write_outside (h : fs.Missing p.isAbsolute p.parts front name [] D)
    (content : List UInt8) {q : List String} (hq : ¬ D <+: q) :
    (leftBy (fs.asEdited (fs.write p content))).root.entryAt q = fs.root.entryAt q := by
  rcases write_cases h content with ⟨e, hwrite⟩ | hwrite
  · rw [hwrite]
    rfl
  · rw [hwrite]
    have hapart : ¬ D ++ [name] <+: q := fun hbelow ↦
      hq ((List.prefix_append D [name]).trans hbelow)
    exact (Node.entryAt_insert (.file content) h.reaches.directory name q).trans (if_neg hapart)

theorem write_of_missing (husable : p.Usable)
    (h : fs.Missing p.isAbsolute p.parts front name [] D)
    (hfits : name.utf8ByteSize ≤ maxNameBytes) (content : List UInt8) :
    fs.write p content = .ok (fs.insert (D ++ [name]) (.file content)) := by
  refine write_eq_of_place h (place_eq_ok_iff.mpr ⟨husable, ?_⟩) content
  obtain ⟨links, hrest⟩ := h.reaches.1.exists_resolveSteps_append
  rw [Path.steps, h.parts_eq, List.map_append, List.map_singleton, h.step, start,
    ← resolveSteps_eq_ok_iff, hrest true _ (List.cons_ne_nil _ _),
    resolveSteps_missing h.reaches.directory hfits h.free]
  rfl

end Write

/-! ## Deposits

A deposit makes the directories of the package before it writes. If it fails there, some of them
are left; this is all below the output directory. -/

/-- Creates the directories above a path. -/
def createParent (fs : FileSystem) (p : Path) : Edited :=
  match p.parent? with
  | some parent => fs.createDirectories parent
  | none => .ok () fs

/-- Writes a file after the directories above it. -/
def deposit (fs : FileSystem) (p : Path) (content : List UInt8) : Edited :=
  (fs.createParent p).andThen fun made ↦ made.asEdited (made.write p content)

section Deposit

variable {directory : Path} {f : SourceFile} {L : List String}

theorem Reaches.baseParts (h : fs.Reaches directory.isAbsolute directory.parts L) :
    fs.Reaches directory.isAbsolute directory.baseParts L := by
  rcases directory.parts_eq_baseParts with hbase | hbase
  · rwa [← hbase]
  · rw [hbase] at h
    exact h.of_stays fun s hs ↦ by rw [List.mem_singleton.mp hs]; rfl

theorem missing_segments (hf : f.Placeable)
    (hL : fs.Reaches directory.isAbsolute directory.parts L)
    (hempty : ∀ name, fs.root.entryAt (L ++ [name]) = none) : ∃ first rest,
      f.segments = first :: rest ∧ fs.Missing directory.isAbsolute
        (directory.baseParts ++ f.segments) directory.baseParts first rest L := by
  obtain ⟨first, rest, hsegments⟩ := List.exists_cons_of_ne_nil f.segments_ne_nil
  have hfirst : IsEntryName first := hf.segment (by rw [hsegments]; exact List.mem_cons_self)
  exact ⟨first, rest, hsegments, by rw [hsegments], hL.baseParts, hfirst.step, hempty first⟩

theorem namesIn_of_isEntryName {names : List String} (h : ∀ s ∈ names, IsEntryName s) :
    namesIn names = names :=
  List.filter_eq_self.mpr fun s hs ↦ decide_eq_true (h s hs).step

theorem notMem_of_isEntryName {names : List String} (h : ∀ s ∈ names, IsEntryName s) :
    "." ∉ names ∧ ".." ∉ names :=
  ⟨fun hmem ↦ (PathStep.ofPart_eq_enter_iff.mp (h _ hmem).step).2.2.1 rfl,
    fun hmem ↦ (PathStep.ofPart_eq_enter_iff.mp (h _ hmem).step).2.2.2 rfl⟩

theorem usable_of_isEntryName {p : Path} {names : List String} (husable : directory.Usable)
    (hparts : p.parts = directory.baseParts ++ names) (hnames : ∀ s ∈ names, IsEntryName s)
    (hne : names ≠ []) : p.Usable := by
  rw [usable_iff, hparts]
  refine ⟨fun s hs ↦ ?_, .inr fun hempty ↦ ?_⟩
  · rcases List.mem_append.mp hs with hs | hs
    · exact (usable_iff.mp husable).1 s (directory.baseParts_isPrefix.subset hs)
    · exact (hnames s hs).nul
  · obtain ⟨s, rest, rfl⟩ := List.exists_cons_of_ne_nil hne
    have hs : s ∈ [""] := hempty ▸ List.mem_append_right _ List.mem_cons_self
    exact (hnames s List.mem_cons_self).ne_empty (List.mem_singleton.mp hs)

/-- A deposit in an empty directory changes nothing outside, whether it succeeds or not. -/
theorem entryAt_deposit_outside (hf : f.Placeable)
    (hL : fs.Reaches directory.isAbsolute directory.parts L)
    (hempty : ∀ name, fs.root.entryAt (L ++ [name]) = none) (content : List UInt8)
    {q : List String} (hq : ¬ L <+: q) :
    (leftBy (fs.deposit (directory.join f.relativePath) content)).root.entryAt q =
      fs.root.entryAt q := by
  obtain ⟨parent, hparent, habsolute, hparts, hpathAbsolute, hpathParts⟩ :=
    hf.exists_parent directory
  obtain ⟨first, rest, hsegments, hmissing⟩ := missing_segments hf hL hempty
  have hrest : ∀ s ∈ rest, IsEntryName s := fun s hs ↦
    hf.segment (by rw [hsegments]; exact List.mem_cons_of_mem _ hs)
  rw [← habsolute, ← hparts] at hmissing
  have hstraight : fs.Straight parent.isAbsolute parent.parts := by
    intro front name post D h
    obtain ⟨_, _, rfl, _⟩ := hmissing.unique h
    exact (notMem_of_isEntryName hrest).2
  have hfirst : first ∈ parent.parts := by
    rw [hmissing.parts_eq]
    simp
  have htext : parent.text ≠ "" :=
    text_ne_empty_of_mem (PathStep.ofPart_eq_enter_iff.mp hmissing.step).2.1 hfirst
  have houtcome := createDirectories_outcome htext hstraight
  have hcreate : fs.createParent (directory.join f.relativePath) = fs.createDirectories parent := by
    rw [createParent, hparent]
  generalize directory.join f.relativePath = path at hcreate hpathAbsolute hpathParts
  rw [deposit, hcreate]
  generalize fs.createDirectories parent = r at houtcome
  cases houtcome with
  | refused e => rfl
  | kept h =>
    obtain ⟨D, hD⟩ := h (.inr parent.parts_ne_nil)
    exact absurd hD (hmissing.not_reaches D)
  | @nested front name post D made _ hmissing' _ hfits _ hwhole hleft =>
    obtain ⟨rfl, rfl, rfl, rfl⟩ := hmissing.unique hmissing'
    have hnest : (leftBy r).root.entryAt q = fs.root.entryAt q := by
      rw [hleft, hmissing.entryAt_nest, if_neg fun h ↦ hq h.1]
    cases r with
    | error e fs₁ => exact hnest
    | ok u fs₁ =>
      -- All directories of the package exist now, and the file is the next thing missing.
      cases hwhole _ rfl
      have hreaches := hmissing.reaches_nest (notMem_of_isEntryName hrest).2 hfits
      have hfs₁ : fs₁ = fs.nest L (first :: namesIn rest) := hleft
      have hfree := hmissing.free_nest (namesIn rest) f.fileName
      rw [← hfs₁] at hreaches hfree
      have hfile : fs₁.Missing path.isAbsolute path.parts parent.parts f.fileName []
          (L ++ first :: namesIn rest) :=
        ⟨by rw [hpathParts, hparts], by rwa [hpathAbsolute, ← habsolute], hf.fileName.step, hfree⟩
      have hapart : ¬ L ++ first :: namesIn rest <+: q := fun h ↦
        hq ((List.prefix_append _ _).trans h)
      exact (entryAt_write_outside hfile content hapart).trans hnest

/-- A deposit in an empty directory succeeds if all its names may be created. -/
theorem deposit_eq_ok (hf : f.Placeable) (husable : directory.Usable)
    (hL : fs.Reaches directory.isAbsolute directory.parts L)
    (hempty : ∀ name, fs.root.entryAt (L ++ [name]) = none) (content : List UInt8)
    (hfits : ∀ s ∈ f.segments ++ [f.fileName], s.utf8ByteSize ≤ maxNameBytes) :
    fs.deposit (directory.join f.relativePath) content =
      .ok () ((fs.nest L f.segments).insert (L ++ f.segments ++ [f.fileName]) (.file content)) := by
  obtain ⟨parent, hparent, habsolute, hparts, hpathAbsolute, hpathParts⟩ :=
    hf.exists_parent directory
  obtain ⟨first, rest, hsegments, hmissing⟩ := missing_segments hf hL hempty
  have hnames : ∀ s ∈ f.segments ++ [f.fileName], IsEntryName s := fun s hs ↦ hf.isEntryName hs
  have hrest : ∀ s ∈ rest, IsEntryName s := fun s hs ↦ hnames s (by simp [hsegments, hs])
  rw [List.append_assoc] at hpathParts
  have hparentUsable : parent.Usable := usable_of_isEntryName husable hparts
    (fun s hs ↦ hnames s (List.mem_append_left _ hs)) f.segments_ne_nil
  have hpathUsable := usable_of_isEntryName husable hpathParts hnames (by simp)
  rw [← habsolute, ← hparts] at hmissing
  have hnested : ∀ s ∈ first :: namesIn rest, s.utf8ByteSize ≤ maxNameBytes := by
    rw [namesIn_of_isEntryName hrest, ← hsegments]
    exact fun s hs ↦ hfits s (List.mem_append_left _ hs)
  have hcreate := createDirectories_of_missing hparentUsable hmissing
    (notMem_of_isEntryName hrest).2 (notMem_of_isEntryName hrest).1 hnested
  have hreaches := hmissing.reaches_nest (notMem_of_isEntryName hrest).2 hnested
  have hfree := hmissing.free_nest (namesIn rest) f.fileName
  rw [namesIn_of_isEntryName hrest, ← hsegments] at hcreate hreaches hfree
  have hfile : (fs.nest L f.segments).Missing (directory.join f.relativePath).isAbsolute
      (directory.join f.relativePath).parts parent.parts f.fileName [] (L ++ f.segments) :=
    ⟨by rw [hpathParts, hparts, List.append_assoc], by rwa [hpathAbsolute, ← habsolute],
      hf.fileName.step, hfree⟩
  have hwrite := write_of_missing hpathUsable hfile (hfits _ (by simp)) content
  have hcreateParent : fs.createParent (directory.join f.relativePath) =
      .ok () (fs.nest L f.segments) := by
    rw [createParent, hparent]
    exact hcreate
  rw [deposit, hcreateParent]
  simp only [Edited.andThen, hwrite]
  rfl

end Deposit

end FileSystem

/-! ## What a source file leaves -/

/-- What stands below a directory after a source file was put into it: the directories of its
package, the file, and nothing else. -/
def SourceFile.entryIn (f : SourceFile) (below : List String) : Option Node :=
  if below <+: f.segments then some .emptyDirectory
  else if below = f.segments ++ [f.fileName] then some (.file (utf8Bytes f.render))
  else none

namespace FileSystem

variable {fs : FileSystem} {L : List String}

theorem entryAt_deposited (hL : fs.root.entryAt L = some .emptyDirectory)
    (hempty : ∀ name, fs.root.entryAt (L ++ [name]) = none) (f : SourceFile) (q : List String) :
    ((fs.nest L f.segments).insert (L ++ f.segments ++ [f.fileName])
      (.file (utf8Bytes f.render))).root.entryAt q =
      if L <+: q then f.entryIn (q.drop L.length) else fs.root.entryAt q := by
  have hnest (q : List String) : (fs.nest L f.segments).root.entryAt q =
      if L <+: q ∧ q <+: L ++ f.segments then some .emptyDirectory else fs.root.entryAt q :=
    entryAt_nest hL (fun name _ ↦ hempty name) q
  have hdirectory : (fs.nest L f.segments).root.entryAt (L ++ f.segments) =
      some .emptyDirectory := by
    rw [hnest, if_pos ⟨List.prefix_append _ _, List.prefix_rfl⟩]
  have hbelow {r : List String} (hr : r ≠ []) : fs.root.entryAt (L ++ r) = none := by
    obtain ⟨name, names, rfl⟩ := List.exists_cons_of_ne_nil hr
    exact Node.entryAt_eq_none_of_isPrefix (hempty name) (concat_prefix_append_cons L name names)
  have hfree : (fs.nest L f.segments).root.entryAt (L ++ f.segments ++ [f.fileName]) = none := by
    rw [hnest, if_neg fun h ↦ not_concat_isPrefix_self _ _ h.2, List.append_assoc]
    exact hbelow (by simp)
  refine (Node.entryAt_insert_of_free rfl hdirectory hfree q).trans ?_
  rw [hnest]
  by_cases hinside : L <+: q
  · obtain ⟨r, rfl⟩ := hinside
    rw [if_pos (List.prefix_append L r), List.drop_left, SourceFile.entryIn]
    simp only [List.append_assoc, List.append_cancel_left_eq, List.prefix_append_right_inj,
      List.prefix_append, true_and]
    by_cases hr : r <+: f.segments
    · have hne : r ≠ f.segments ++ [f.fileName] := by
        rintro rfl
        exact not_concat_isPrefix_self _ _ hr
      rw [if_neg hne, if_pos hr, if_pos hr]
    · rw [if_neg hr, if_neg hr]
      split_ifs with hfile
      · rfl
      · exact hbelow fun hnil ↦ hr (hnil ▸ List.nil_prefix)
  · have hne : q ≠ L ++ f.segments ++ [f.fileName] := by
      rintro rfl
      exact hinside ((List.prefix_append _ _).trans (List.prefix_append _ _))
    rw [if_neg hne, if_neg hinside, if_neg fun h ↦ hinside h.1]

/-! ## Runs as changes of files -/

/-- Replaces an output directory by a source file. -/
def replace (fs : FileSystem) (output : Path) (f : SourceFile) : Edited :=
  (fs.refresh output).andThen (·.deposit (output.join f.relativePath) (utf8Bytes f.render))

end FileSystem

/-- A run that leaves the files as an operation on files does, and succeeds if it does. -/
inductive RunsAs {α : Type} : EStateM.Result Error Workspace α → FileSystem.Edited → Prop where
  /-- Both succeed. -/
  | ok (a : α) (fs : FileSystem) (events : List Event) : RunsAs (.ok a ⟨fs, events⟩) (.ok () fs)
  /-- Both stop. -/
  | error (e : Error) (cause : OsError) (fs : FileSystem) (events : List Event) :
    RunsAs (.error e ⟨fs, events⟩) (.error cause fs)

namespace RunsAs

variable {α : Type}

theorem files_leftBy {r : EStateM.Result Error Workspace α} {x : FileSystem.Edited}
    (h : RunsAs r x) : (leftBy r).files = leftBy x := by
  cases h <;> rfl

theorem refreshOutput (output : Path) (w : Workspace) :
    RunsAs (JavaConstants.refreshOutput output w) (w.files.refresh output) := by
  obtain ⟨events, hrefresh⟩ := FileSystem.refreshOutput_eq output w
  rw [hrefresh, Generating.edit]
  cases w.files.refresh output with
  | ok u fs => exact .ok () fs events
  | error e fs => exact .error _ e fs events

theorem writeTo (f : SourceFile) (directory : Path) (w : Workspace) :
    RunsAs (f.writeTo directory w)
      (w.files.deposit (directory.join f.relativePath) (utf8Bytes f.render)) := by
  unfold SourceFile.writeTo
  generalize directory.join f.relativePath = path
  generalize utf8Bytes f.render = content
  have hwrite (w : Workspace) : RunsAs
      ((do Generating.edit path fun fs ↦ fs.asEdited (fs.write path content)
           pure path : Generating Path) w)
      (w.files.asEdited (w.files.write path content)) := by
    simp only [bind, EStateM.bind, Generating.edit]
    cases w.files.write path content with
    | ok fs => exact .ok path fs w.events
    | error e => exact .error _ e w.files w.events
  rw [FileSystem.deposit, FileSystem.createParent]
  cases path.parent? with
  | none => exact hwrite w
  | some parent =>
    dsimp only
    cases hcreate : w.files.createDirectories parent with
    | ok u fs =>
      have hedit : Generating.edit parent (·.createDirectories parent) w =
          .ok () { w with files := fs } := by
        simp only [Generating.edit, hcreate]
      simp only [bind, EStateM.bind, hedit]
      exact hwrite _
    | error e fs =>
      have hedit : Generating.edit parent (·.createDirectories parent) w =
          .error (.file parent e) { w with files := fs } := by
        simp only [Generating.edit, hcreate]
      simp only [bind, EStateM.bind, hedit]
      exact .error _ e fs w.events

theorem andThen {β : Type} {m : Generating α} {k : α → Generating β} {w : Workspace}
    {x : FileSystem.Edited} {y : FileSystem → FileSystem.Edited} (h : RunsAs (m w) x)
    (hk : ∀ a fs events, RunsAs (k a ⟨fs, events⟩) (y fs)) :
    RunsAs ((m >>= k) w) (x.andThen y) := by
  rw [Generating.bind_apply]
  generalize m w = r at h
  cases h with
  | ok a fs events => exact hk a fs events
  | error e cause fs events => exact .error e cause fs events

theorem andLog {β : Type} {m : Generating α} {k : α → Generating β} {w : Workspace}
    {x : FileSystem.Edited} (h : RunsAs (m w) x)
    (hk : ∀ a fs events, ∃ b events', k a ⟨fs, events⟩ = .ok b ⟨fs, events'⟩) :
    RunsAs ((m >>= k) w) x := by
  have hok (a : α) (fs : FileSystem) (events : List Event) :
      RunsAs (k a ⟨fs, events⟩) (.ok () fs) := by
    obtain ⟨b, events', hb⟩ := hk a fs events
    rw [hb]
    exact .ok b fs events'
  have hthen := h.andThen hok
  cases x <;> exact hthen

/-- The steps of a run that change files come to a replacement. -/
theorem replace {β : Type} (f : SourceFile) (output : Path) (w : Workspace)
    {k : Path → Generating β}
    (hk : ∀ a fs events, ∃ b events', k a ⟨fs, events⟩ = .ok b ⟨fs, events'⟩) :
    RunsAs ((do JavaConstants.refreshOutput output
                let path ← f.writeTo output
                k path : Generating β) w) (w.files.replace output f) :=
  (refreshOutput output w).andThen fun _ fs events ↦ (writeTo f output ⟨fs, events⟩).andLog hk

end RunsAs

end JavaConstants
