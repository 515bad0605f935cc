import JavaConstants.Generate.Resources
import JavaConstants.Proofs.Exclusion

/-!
# The order of listings

A system lists a directory in any order. Trees that have the same entry at every place
(`Node.SameEntries`) have directories of the same names (`Node.SameEntries.perm`), so well-formed
ones differ in these orders at most. Neither what a path denotes nor what a walk sees of a directory
depends on them: entries are sorted by name, and their names differ.

Adapters of different formats may stand in any order as well, since a file has one extension. So
both orders are without effect on a walk as a whole (`walkResources_orders`).
-/

namespace JavaConstants

open FileSystem

namespace Node

/-! ## Trees of the same entries -/

/-- Trees that have the same entry at every place. -/
def SameEntries (n n' : Node) : Prop := ∀ names, n.entryAt names = n'.entryAt names

namespace SameEntries

variable {n n' : Node} {es es' : List (String × Node)}

theorem refl (n : Node) : n.SameEntries n := fun _ ↦ rfl

theorem symm (h : n.SameEntries n') : n'.SameEntries n := fun names ↦ (h names).symm

theorem find? (h : n.SameEntries n') (names : List String) :
    Option.Rel SameEntries (n.find? names) (n'.find? names) := by
  have hentry := h names
  rw [entryAt, entryAt] at hentry
  cases hm : n.find? names with
  | none =>
    rw [hm, Option.map_none] at hentry
    rw [Option.map_eq_none_iff.mp hentry.symm]
    exact .none
  | some m =>
    rw [hm, Option.map_some] at hentry
    obtain ⟨m', hm', -⟩ := Option.map_eq_some_iff.mp hentry.symm
    rw [hm']
    refine .some fun below ↦ ?_
    have hbelow := h (names ++ below)
    rwa [entryAt_append, entryAt_append, hm, hm'] at hbelow

theorem exists_mem (h : (directory es).SameEntries (directory es')) (hnodup : (es.map (·.1)).Nodup)
    {e : String × Node} (he : e ∈ es) : ∃ e' ∈ es', e'.1 = e.1 ∧ e.2.SameEntries e'.2 := by
  have hrel := h.find? [e.1]
  rw [find?_cons, child?_of_mem hnodup he, Option.bind_some] at hrel
  cases hchild : (directory es').child? e.1 with
  | none =>
    rw [find?_cons, hchild] at hrel
    cases hrel
  | some c' =>
    rw [find?_cons, hchild, Option.bind_some] at hrel
    obtain ⟨e', hfind, rfl⟩ := Option.map_eq_some_iff.mp hchild
    have hname : e'.1 = e.1 := by simpa using List.find?_some hfind
    cases hrel with
    | some hsame => exact ⟨e', List.mem_of_find?_eq_some hfind, hname, hsame⟩

theorem perm (h : (directory es).SameEntries (directory es')) (hnodup : (es.map (·.1)).Nodup)
    (hnodup' : (es'.map (·.1)).Nodup) : (es.map (·.1)).Perm (es'.map (·.1)) := by
  rw [List.perm_ext_iff_of_nodup hnodup hnodup']
  intro name
  rw [List.mem_map, List.mem_map]
  constructor
  · rintro ⟨e, he, rfl⟩
    obtain ⟨e', he', hname, -⟩ := h.exists_mem hnodup he
    exact ⟨e', he', hname⟩
  · rintro ⟨e', he', rfl⟩
    obtain ⟨e, he, hname, -⟩ := h.symm.exists_mem hnodup' he'
    exact ⟨e, he, hname⟩

end SameEntries

/-- Directories have the same entries if they list the same names, in whatever order, and if what
stands under a name has the same entries in both. -/
theorem sameEntries_directory_iff {es es' : List (String × Node)} (hnodup : (es.map (·.1)).Nodup)
    (hnodup' : (es'.map (·.1)).Nodup) : (directory es).SameEntries (directory es') ↔
      (es.map (·.1)).Perm (es'.map (·.1)) ∧
        ∀ e ∈ es, ∀ e' ∈ es', e'.1 = e.1 → e.2.SameEntries e'.2 := by
  constructor
  · intro h
    refine ⟨h.perm hnodup hnodup', fun e he e' he' hname ↦ ?_⟩
    obtain ⟨d, hd, hdname, hsame⟩ := h.exists_mem hnodup he
    rwa [List.inj_on_of_nodup_map hnodup' he' hd (hname.trans hdname.symm)]
  · rintro ⟨hperm, hbelow⟩ names
    cases names with
    | nil => rfl
    | cons name names =>
      rw [entryAt_cons, entryAt_cons]
      cases hchild : (directory es).child? name with
      | none =>
        have hnone : (directory es').child? name = none := by
          rw [child?, Option.map_eq_none_iff, List.find?_eq_none] at hchild ⊢
          intro e' he' hname
          obtain ⟨e, he, hsame⟩ := List.mem_map.mp (hperm.mem_iff.mpr (List.mem_map_of_mem he'))
          exact hchild e he (by rwa [hsame])
        rw [hnone]
      | some c =>
        obtain ⟨e, hfind, rfl⟩ := Option.map_eq_some_iff.mp hchild
        have he := List.mem_of_find?_eq_some hfind
        obtain ⟨e', he', hsame⟩ := List.mem_map.mp (hperm.mem_iff.mp (List.mem_map_of_mem he))
        have hname : e.1 = name := by simpa using List.find?_some hfind
        have hchild' := child?_of_mem hnodup' he'
        rw [hsame, hname] at hchild'
        rw [hchild', Option.bind_some, Option.bind_some]
        exact hbelow e he e' he' hsame names

theorem sameEntries_of_perm {es es' : List (String × Node)} (hnodup : (es.map (·.1)).Nodup)
    (hperm : es.Perm es') : (directory es).SameEntries (directory es') := by
  rw [sameEntries_directory_iff hnodup ((hperm.map _).nodup_iff.mp hnodup)]
  refine ⟨hperm.map _, fun e he e' he' hname ↦ ?_⟩
  rw [List.inj_on_of_nodup_map hnodup (hperm.mem_iff.mpr he') he hname]
  exact .refl e.2

end Node

/-! ## What a path denotes

Each step of a way asks for the entry under one name, so ways depend on what stands at each place
and not on the order of a directory. -/

/-- A way leads to the same, or fails in the same way, where the same entries are. -/
theorem resolveSteps_congr {root root' : Node} (hsame : root.SameEntries root') (follow : Bool)
    (links : Nat) (here : List String) (steps : List PathStep) :
    resolveSteps root follow links here steps = resolveSteps root' follow links here steps := by
  have hdirectory {p : List String} {es : List (String × Node)}
      (hp : root.find? p = some (.directory es)) : root'.entryAt p = some .emptyDirectory := by
    rw [← hsame]
    exact Node.entryAt_eq_emptyDirectory_iff.mpr ⟨es, hp⟩
  have hentry {p : List String} {es : List (String × Node)} {name : String}
      {found : Option (String × Node)} (hp : root.find? p = some (.directory es))
      (hname : es.find? (·.1 = name) = found) :
      root'.entryAt (p ++ [name]) = found.map (·.2.bare) := by
    rw [← hsame, Node.entryAt_concat hp, hname]
  -- along the first way: each of its steps asks for entries only, so it is a step of the second
  fun_induction resolveSteps root follow links here steps with
  | case1 => rw [resolveSteps_nil]
  | case2 links here steps es hes ih => rw [resolveSteps_stay (hdirectory hes), ih]
  | case3 links here steps es hes ih => rw [resolveSteps_up (hdirectory hes), ih]
  | case4 links here steps es hes name hlong =>
    rw [resolveSteps_nameTooLong (hdirectory hes) hlong]
  | case5 links here es hes name hfits hname =>
    rw [resolveSteps_missing (hdirectory hes) (Nat.le_of_not_lt hfits)
      (hentry hes hname), if_pos rfl]
  | case6 links here steps es hes name hfits hname hsteps =>
    rw [resolveSteps_missing (hdirectory hes) (Nat.le_of_not_lt hfits)
      (hentry hes hname), if_neg hsteps]
  | case7 links here steps es hes name hfits k target hname hlast =>
    rw [hlast.1, hlast.2]
    exact (resolveSteps_lastLink (hdirectory hes) (Nat.le_of_not_lt hfits) (hentry hes hname)).symm
  | case8 here steps es hes name hfits k target hname hlast =>
    rw [resolveSteps_linkLoop (hdirectory hes) (Nat.le_of_not_lt hfits) (hentry hes hname) hlast]
  | case9 here steps es hes name hfits k hlast links hname =>
    rw [resolveSteps_emptyTarget (hdirectory hes) (Nat.le_of_not_lt hfits) (hentry hes hname) hlast]
  | case10 here steps es hes name hfits k target hname hlast links htarget path ih =>
    rw [resolveSteps_link (hdirectory hes) (Nat.le_of_not_lt hfits)
      (hentry hes hname) ?_ htarget, ih]
    intro hsteps
    cases hf : follow with
    | true => rfl
    | false => exact absurd ⟨hsteps, hf⟩ hlast
  | case11 links here steps es hes name hfits e hlink hname ih =>
    rw [resolveSteps_enter (hdirectory hes) (Nat.le_of_not_lt hfits) (hentry hes hname) ?_, ih]
    intro target htarget
    exact hlink e.1 target (by rw [← Node.bare_eq_link_iff.mp htarget])
  | case12 links here step steps hes =>
    rw [resolveSteps_notDirectory]
    rw [← hsame]
    intro hhere
    obtain ⟨es, hfind⟩ := Node.entryAt_eq_emptyDirectory_iff.mp hhere
    exact hes es hfind

namespace FileSystem

/-- File systems that are the same but for the order in which their directories are listed. -/
structure Relisted (fs fs' : FileSystem) : Prop where
  /-- They have the same entries. -/
  entries : fs.root.SameEntries fs'.root
  /-- They have the same current directory. -/
  current : fs.current = fs'.current
  /-- The first has entries as a system lists them. -/
  wellFormed : fs.root.WellFormed
  /-- So has the second. -/
  wellFormed' : fs'.root.WellFormed

namespace Relisted

variable {fs fs' : FileSystem}

theorem place_congr (h : Relisted fs fs') (follow : Bool) (p : Path) :
    fs.place follow p = fs'.place follow p := by
  rw [place, place, resolveSteps_congr h.entries, h.current]

theorem canonical_congr (h : Relisted fs fs') (p : Path) : fs.canonical p = fs'.canonical p := by
  rw [canonical, canonical, locate, locate, h.place_congr]

theorem ofPaths_congr (h : Relisted fs fs') (paths : List Path) :
    Exclusions.ofPaths fs paths = Exclusions.ofPaths fs' paths := by
  have hsame (p : Path) : fs.canonicalOrSame p = fs'.canonicalOrSame p := by
    rw [canonicalOrSame, canonicalOrSame, h.canonical_congr]
  rw [Exclusions.ofPaths, Exclusions.ofPaths]
  simp only [hsame]

/-- What a path leads to is the same up to the order of listings, or it leads nowhere for the same
reason. -/
theorem stat_congr (h : Relisted fs fs') (p : Path) :
    (∃ e, fs.stat p = .error e ∧ fs'.stat p = .error e) ∨
      ∃ n n', fs.stat p = .ok n ∧ fs'.stat p = .ok n' ∧ n.SameEntries n' ∧ n.WellFormed ∧
        n'.WellFormed := by
  have hlocate : fs.locate true p = fs'.locate true p := h.canonical_congr p
  rw [stat, stat, ← hlocate]
  cases fs.locate true p with
  | error e => exact .inl ⟨e, rfl, rfl⟩
  | ok names =>
    have hrel := h.entries.find? names
    simp only [node?]
    cases hn : fs.root.find? names with
    | none =>
      rw [hn] at hrel
      generalize hn' : fs'.root.find? names = found at hrel ⊢
      cases hrel
      exact .inl ⟨.notFound, rfl, rfl⟩
    | some n =>
      rw [hn] at hrel
      generalize hn' : fs'.root.find? names = found at hrel ⊢
      cases hrel with
      | some hsame =>
        exact .inr ⟨n, _, rfl, rfl, hsame, h.wellFormed.of_find? hn, h.wellFormed'.of_find? hn'⟩

/-! ## What a walk sees

Sorting by distinct names gives one list, whatever the order was. The rest is an induction on the
tree, with the links looked up in both file systems. -/

theorem seeLink_congr (h : Relisted fs fs') (name : String) (p : Path) :
    seeLink name (fs.stat p) = seeLink name (fs'.stat p) := by
  rcases h.stat_congr p with ⟨e, he, he'⟩ | ⟨n, n', hn, hn', hsame, -, -⟩
  · rw [he, he']
  · have hbare : n.bare = n'.bare := Option.some.inj (hsame [])
    rw [hn, hn']
    cases n <;> cases n' <;> cases hbare <;> rfl

/-- What is seen of the entries of a directory is sorted into one list, if each entry is the same to
a walk. -/
theorem sortByName_seeEntries {es es' : List (String × Node)} {path : Path}
    (hsame : (Node.directory es).SameEntries (.directory es')) (hnodup : (es.map (·.1)).Nodup)
    (hnodup' : (es'.map (·.1)).Nodup)
    (hsee : ∀ e ∈ es, ∀ e' ∈ es', e'.1 = e.1 → e.2.SameEntries e'.2 →
      fs.seeEntry path e.1 e.2 = fs'.seeEntry path e.1 e'.2) :
    sortByName (fs.seeEntries path es) = sortByName (fs'.seeEntries path es') := by
  have hnames (fs : FileSystem) (es : List (String × Node)) :
      (fs.seeEntries path es).map (·.1) = es.map (·.1) := by
    rw [seeEntries_eq_map, List.map_map]
    rfl
  have hseen : ((fs.seeEntries path es).map (·.1)).Nodup := by rwa [hnames]
  have hseen' : ((fs'.seeEntries path es').map (·.1)).Nodup := by rwa [hnames]
  -- both lists are sorted and without repetition, so it is enough that they have the same members
  refine sortByName_perm ?_ hseen
  rw [List.perm_ext_iff_of_nodup hseen.of_map hseen'.of_map]
  intro entry
  rw [seeEntries_eq_map, seeEntries_eq_map, List.mem_map, List.mem_map]
  constructor
  · rintro ⟨e, he, rfl⟩
    obtain ⟨e', he', hname, hbelow⟩ := hsame.exists_mem hnodup he
    exact ⟨e', he', by rw [hname, hsee e he e' he' hname hbelow]⟩
  · rintro ⟨e', he', rfl⟩
    obtain ⟨e, he, hname, hbelow⟩ := hsame.symm.exists_mem hnodup' he'
    exact ⟨e, he, by rw [hsee e he e' he' hname.symm hbelow.symm, hname]⟩

theorem seeEntry_congr (h : Relisted fs fs') {n n' : Node} (hsame : n.SameEntries n')
    (hn : n.WellFormed) (hn' : n'.WellFormed) (path : Path) (name : String) :
    fs.seeEntry path name n = fs'.seeEntry path name n' := by
  have hbare : n.bare = n'.bare := Option.some.inj (hsame [])
  induction n using Node.induction generalizing n' path name with
  | file content =>
    cases n' <;> cases hbare
    rw [seeEntry, seeEntry]
  | link target =>
    cases n' <;> cases hbare
    rw [seeEntry, seeEntry, h.seeLink_congr]
  | device =>
    cases n' <;> cases hbare
    rw [seeEntry, seeEntry]
  | directory es ih =>
    cases n' with
    | directory es' =>
      rw [seeEntry, seeEntry,
        sortByName_seeEntries hsame hn.listable.nodup hn'.listable.nodup]
      intro e he e' he' _ hbelow
      exact ih e he hbelow (hn.of_mem he) (hn'.of_mem he') _ _ (Option.some.inj (hbelow []))
    | _ => cases hbare

theorem listResources_congr (h : Relisted fs fs') (p : Path) :
    fs.listResources p = fs'.listResources p := by
  rw [listResources, listResources]
  rcases h.stat_congr p with ⟨e, he, he'⟩ | ⟨n, n', hfound, hfound', hsame, hn, hn'⟩
  · rw [he, he']
  · rw [hfound, hfound']
    have hbare : n.bare = n'.bare := Option.some.inj (hsame [])
    cases n with
    | directory es =>
      cases n' with
      | directory es' =>
        simp only [Node.entries]
        rw [sortByName_seeEntries hsame hn.listable.nodup hn'.listable.nodup]
        intro e he e' he' _ hbelow
        exact h.seeEntry_congr hbelow (hn.of_mem he) (hn'.of_mem he') _ _
      | _ => cases hbare
    | _ =>
      cases n' <;> cases hbare
      simp only [Node.entries, seeEntries]

end Relisted

end FileSystem

/-! ## The order of adapters -/

theorem ResourceFormat.extension_injective : Function.Injective ResourceFormat.extension := by
  intro f g h
  revert h
  cases f <;> cases g <;> decide

namespace ExtractOptions

/-- The same options with adapters in another order. The adapters read different formats. -/
structure Reordered (o o' : ExtractOptions) : Prop where
  /-- The adapters are the same. -/
  adapters : o.adapters.Perm o'.adapters
  /-- They read different formats. -/
  formats : (o.adapters.map (·.format)).Nodup
  /-- Names of constants are made in the same way. -/
  uppercaseFields : o.uppercaseFields = o'.uppercaseFields
  /-- So are names of classes. -/
  lowercaseClasses : o.lowercaseClasses = o'.lowercaseClasses

variable {o o' : ExtractOptions}

theorem Reordered.handler_congr (h : Reordered o o') (fileName : String) :
    o.handler? fileName = o'.handler? fileName := by
  refine List.find?_eq_find?_of_perm h.adapters ?_
  rintro a ⟨ha, hext⟩ b ⟨hb, hext'⟩
  have hformat : a.format.extension = b.format.extension :=
    (of_decide_eq_true hext).symm.trans (of_decide_eq_true hext')
  exact List.inj_on_of_nodup_map h.formats ha hb (ResourceFormat.extension_injective hformat)

end ExtractOptions

theorem extractFile_eq (o : ExtractOptions) (scope : List String) (f : ResourceFile) :
    extractFile o scope f = (match o.handler? f.name with
      | none => pure false
      | some a => modify (·.log (.fileRecognized f.name a.format)) >>= fun _ ↦
          a.extract o scope f >>= fun _ ↦ pure true) := by
  rw [extractFile, ExtractOptions.handler?]
  induction o.adapters with
  | nil => rfl
  | cons a adapters ih =>
    rw [extractWith, List.find?_cons]
    by_cases hext : extension f.name = a.format.extension
    · rw [if_pos hext, decide_eq_true hext]
    · rw [if_neg hext, decide_eq_false hext, ih]

namespace ExtractOptions.Reordered

variable {o o' : ExtractOptions}

theorem extractFile_congr (h : Reordered o o') (scope : List String) (f : ResourceFile) :
    extractFile o scope f = extractFile o' scope f := by
  have hextract (a : FormatAdapter) : a.extract o scope f = a.extract o' scope f := by
    cases a <;> rw [FormatAdapter.extract, FormatAdapter.extract, h.uppercaseFields]
    rw [h.lowercaseClasses]
  rw [extractFile_eq, extractFile_eq, h.handler_congr]
  simp only [hextract]

theorem walkNodes_congr (h : Reordered o o') (exclusions : Exclusions)
    (root below scope : List String) (nodes : List ResourceNode) :
    walkNodes ⟨o, exclusions, root⟩ below scope nodes =
      walkNodes ⟨o', exclusions, root⟩ below scope nodes := by
  have hclass (name : String) : (WalkContext.mk o exclusions root).className? name =
      (WalkContext.mk o' exclusions root).className? name := by
    rw [WalkContext.className?, WalkContext.className?, h.lowercaseClasses]
  have hpath (below : List String) : (WalkContext.mk o exclusions root).path below =
      (WalkContext.mk o' exclusions root).path below := rfl
  induction nodes using ResourceNode.induction generalizing below scope with
  | nil => rw [walkNodes, walkNodes]
  | file name content nodes ih =>
    rw [walkNodes, walkNodes, ih, walkNode, walkNode, h.extractFile_congr,
      h.uppercaseFields]
    simp only [hpath]
  | directory name passed children nodes ihc ih =>
    rw [walkNodes, walkNodes, ih, walkNode, walkNode, hclass]
    simp only [hpath, ihc, logPassed]
  | linkedDirectory name nodes ih =>
    rw [walkNodes, walkNodes, ih, walkNode, walkNode]
    simp only [hpath]

end ExtractOptions.Reordered

/-! ## Walks -/

section Walks

variable {fs fs' : FileSystem} {o o' : ExtractOptions}

theorem walkResources_relisted (hfiles : fs.Relisted fs') (hadapters : o.Reordered o')
    (exclusions : Exclusions) (resources : Path) :
    walkResources fs o exclusions resources = walkResources fs' o' exclusions resources := by
  rw [walkResources, walkResources, hfiles.canonical_congr]
  simp only [hfiles.listResources_congr, hadapters.walkNodes_congr]
  rfl

theorem ResourceSettings.harvest_relisted (hfiles : fs.Relisted fs') (s : ResourceSettings) :
    s.harvest fs = s.harvest fs' := by
  have hformats : (s.extractOptions.adapters.map (·.format)).Nodup := by
    rw [extractOptions, adapters]
    cases s.enableCss <;> cases s.enableJson <;> cases s.enableProperties <;>
      simp [FormatAdapter.format]
  have hsame : s.extractOptions.Reordered s.extractOptions := ⟨.refl _, hformats, rfl, rfl⟩
  rw [harvest, harvest, hfiles.ofPaths_congr, walkResources_relisted hfiles hsame]

/-- **A walk depends on neither order.** It leaves the same classes, the same skipped names in the
same order and the same events, and fails for the same reason, whatever it starts from and whatever
is excluded. Exclusions come to the same paths. -/
theorem walkResources_orders (hfiles : fs.Relisted fs') (hadapters : o.Reordered o')
    (resources : Path) :
    (∀ exclusions, walkResources fs o exclusions resources =
        walkResources fs' o' exclusions resources) ∧
      ∀ paths, Exclusions.ofPaths fs paths = Exclusions.ofPaths fs' paths := by
  constructor
  · intro exclusions
    exact walkResources_relisted hfiles hadapters exclusions resources
  · exact hfiles.ofPaths_congr

end Walks

/-- A resources directory with some entries. -/
def resourcesOf (es : List (String × Node)) : FileSystem where
  root := .directory [("r", .directory es)]

theorem relisted_resourcesOf {es es' : List (String × Node)} (hperm : es.Perm es')
    (hnames : Node.Listable (es.map (·.1))) (hentries : ∀ e ∈ es, e.2.WellFormed) :
    (resourcesOf es).Relisted (resourcesOf es') := by
  have hroot : Node.Listable ["r"] := by decide
  have hnames' : Node.Listable (es'.map (·.1)) :=
    ⟨(hperm.map _).nodup_iff.mp hnames.nodup,
      fun s hs ↦ hnames.name s ((hperm.map _).mem_iff.mpr hs),
      fun s hs ↦ hnames.fits s ((hperm.map _).mem_iff.mpr hs)⟩
  have hwell : (Node.directory es).WellFormed := Node.wellFormed_directory hnames hentries
  have hwell' : (Node.directory es').WellFormed :=
    Node.wellFormed_directory hnames' fun e he ↦ hentries e (hperm.mem_iff.mpr he)
  refine ⟨?_, rfl, Node.wellFormed_directory hroot (by simpa using hwell),
    Node.wellFormed_directory hroot (by simpa using hwell')⟩
  refine Iff.mpr (Node.sameEntries_directory_iff ?_ ?_) ⟨.refl _, ?_⟩
  · exact List.nodup_singleton "r"
  · exact List.nodup_singleton "r"
  · simpa using Node.sameEntries_of_perm hnames.nodup hperm

/-- A JSON file with one key. -/
def keyMember : Node := .file (utf8Bytes "\x7b\"k\": 1\x7d")

/-- A stylesheet with the same key. -/
def keySelector : Node := .file (utf8Bytes ".k \x7b\x7d")

/-- Two files of one key, listed in both orders and read with the adapters in both orders. -/
theorem walkResources_orders_oneKey :
    (resourcesOf [("a.json", keyMember), ("b.css", keySelector)]).Relisted
        (resourcesOf [("b.css", keySelector), ("a.json", keyMember)]) ∧
      ExtractOptions.Reordered { adapters := [.css {}, .json {}] }
        { adapters := [.json {}, .css {}] } ∧
      walkResources (resourcesOf [("a.json", keyMember), ("b.css", keySelector)])
          { adapters := [.css {}, .json {}] } ⟨[]⟩ ⟨"/r"⟩ =
        walkResources (resourcesOf [("b.css", keySelector), ("a.json", keyMember)])
          { adapters := [.json {}, .css {}] } ⟨[]⟩ ⟨"/r"⟩ := by
  have hfiles := relisted_resourcesOf (.swap ("b.css", keySelector) ("a.json", keyMember) [])
    (by decide) (by simp [keyMember, keySelector, Node.wellFormed_file])
  have hadapters : ExtractOptions.Reordered { adapters := [.css {}, .json {}] }
      { adapters := [.json {}, .css {}] } := ⟨.swap _ _ _, by decide, rfl, rfl⟩
  exact ⟨hfiles, hadapters, (walkResources_orders hfiles hadapters ⟨"/r"⟩).1 ⟨[]⟩⟩

end JavaConstants
