import Mathlib.Data.List.DropRight
import JavaConstants.FileSystem.Resolved
import JavaConstants.Proofs.Resolution

/-!
# Places and directories

What the operations on paths find and change, told by ways and entries. A path *ends* in a name of a
directory if its parts before the name lead there (`Ends`); a directory is created under the name a
path ends in, and only a free one (`createDirectory_eq_ok_iff`). Removing a tree has four outcomes
(`removeTree_outcome`): the path as it is spelled decides what is emptied and what is removed, and
both turn out to be the directory it denotes.
-/

namespace JavaConstants

/-- The state that a step leaves, whether it stops the run or not. -/
def leftBy {ε σ α : Type} : EStateM.Result ε σ α → σ
  | .ok _ s => s
  | .error _ s => s

namespace FileSystem

variable {fs : FileSystem} {p : Path}

/-! ## What a path denotes -/

theorem place_eq_ok_iff {follow : Bool} {x : Place} : fs.place follow p = .ok x ↔
    p.Usable ∧ Resolves fs.root follow maxLinks (start fs.current p) p.steps x := by
  rw [place, ← resolveSteps_eq_ok_iff]
  constructor
  · intro h
    split_ifs at h with hnul hempty
    exact ⟨⟨fun hmem ↦ hnul (List.contains_iff_mem.mpr hmem), hempty⟩, h⟩
  · rintro ⟨⟨hnul, hempty⟩, h⟩
    rw [if_neg fun hmem ↦ hnul (List.contains_iff_mem.mp hmem), if_neg hempty, h]

theorem locate_eq_ok_iff {follow : Bool} {names : List String} : fs.locate follow p = .ok names ↔
    p.Usable ∧ Resolves fs.root follow maxLinks (start fs.current p) p.steps (.found names) := by
  rw [← place_eq_ok_iff, locate]
  constructor
  · intro h
    split at h
    · next names' hplace => rw [hplace, Except.ok.inj h]
    · cases h
    · cases h
  · intro h
    rw [h]

theorem isSome_entryAt_of_locate {follow : Bool} {names : List String}
    (h : fs.locate follow p = .ok names) : (fs.root.entryAt names).isSome :=
  (locate_eq_ok_iff.mp h).2.isSome_entryAt fun hnil ↦ absurd hnil p.steps_ne_nil

theorem canonical_of_locate {follow : Bool} {names : List String}
    (h : fs.locate follow p = .ok names)
    (hlink : ∀ target, fs.root.entryAt names ≠ some (.link target)) : fs.canonical p = .ok names :=
  have ⟨husable, hway⟩ := locate_eq_ok_iff.mp h
  locate_eq_ok_iff.mpr ⟨husable, hway.followed hlink⟩

theorem stat_eq_ok_iff {n : Node} :
    fs.stat p = .ok n ↔ ∃ names, fs.canonical p = .ok names ∧ fs.root.find? names = some n := by
  rw [stat, canonical]
  cases hlocate : fs.locate true p with
  | error e => exact ⟨nofun, nofun⟩
  | ok names =>
    simp only [node?, Except.ok.injEq, exists_eq_left']
    cases fs.root.find? names with
    | none => exact ⟨nofun, nofun⟩
    | some m => simp

theorem pathExists_iff : fs.pathExists p = true ↔ ∃ names, fs.canonical p = .ok names := by
  constructor
  · intro h
    cases hstat : fs.stat p with
    | error e =>
      rw [pathExists, hstat] at h
      cases h
    | ok n =>
      obtain ⟨names, hnames, _⟩ := stat_eq_ok_iff.mp hstat
      exact ⟨names, hnames⟩
  · rintro ⟨names, hnames⟩
    have hsome := isSome_entryAt_of_locate hnames
    rw [Node.entryAt, Option.isSome_map] at hsome
    obtain ⟨n, hn⟩ := Option.isSome_iff_exists.mp hsome
    rw [pathExists, stat_eq_ok_iff.mpr ⟨names, hnames, hn⟩]
    rfl

theorem isDirectory_iff : fs.isDirectory p = true ↔
    ∃ names, fs.canonical p = .ok names ∧ fs.root.entryAt names = some .emptyDirectory := by
  have hdirectory {n : Node} : n.isDirectory = true ↔ ∃ es, n = .directory es := by
    cases n <;> simp [Node.isDirectory]
  constructor
  · intro h
    cases hstat : fs.stat p with
    | error e =>
      rw [isDirectory, hstat] at h
      cases h
    | ok n =>
      obtain ⟨names, hnames, hn⟩ := stat_eq_ok_iff.mp hstat
      rw [isDirectory, hstat] at h
      obtain ⟨es, rfl⟩ := hdirectory.mp h
      exact ⟨names, hnames, Node.entryAt_eq_emptyDirectory_iff.mpr ⟨es, hn⟩⟩
  · rintro ⟨names, hnames, hentry⟩
    obtain ⟨es, hes⟩ := Node.entryAt_eq_emptyDirectory_iff.mp hentry
    rw [isDirectory, stat_eq_ok_iff.mpr ⟨names, hnames, hes⟩]
    rfl

/-! ## Directories that parts lead to

A path that denotes a directory is one thing, the parts of it that lead there another: more parts
can be put behind them, and some can be cut off. What is said of paths below is said of parts
first. -/

theorem resolves_down {root : Node} {follow : Bool} {links : Nat} {D parts : List String}
    (hup : ".." ∉ parts) (hfits : ∀ s ∈ Path.namesIn parts, s.utf8ByteSize ≤ maxNameBytes)
    (hdirectory : ∀ q, D <+: q → q <+: D ++ Path.namesIn parts →
      root.entryAt q = some .emptyDirectory) :
    Resolves root follow links D (parts.map .ofPart) (.found (D ++ Path.namesIn parts)) := by
  induction parts generalizing D with
  | nil =>
    rw [Path.namesIn, List.filter_nil, List.append_nil]
    exact .done
  | cons s parts ih =>
    have hhere := hdirectory D List.prefix_rfl (List.prefix_append _ _)
    rw [List.mem_cons, not_or] at hup
    cases hs : PathStep.ofPart s with
    | stay =>
      rw [Path.namesIn_cons_of_stay hs] at hfits hdirectory ⊢
      rw [List.map_cons, hs]
      exact .stay hhere (ih hup.2 hfits hdirectory)
    | up => exact absurd (PathStep.ofPart_eq_up_iff.mp hs).symm hup.1
    | enter name =>
      obtain ⟨rfl, _⟩ := PathStep.ofPart_eq_enter_iff.mp hs
      rw [Path.namesIn_cons_of_enter hs] at hfits hdirectory ⊢
      rw [List.append_cons] at hdirectory ⊢
      have hthere := hdirectory _ (List.prefix_append _ _) (List.prefix_append _ _)
      rw [List.map_cons, hs]
      refine .enter hhere (hfits _ List.mem_cons_self) hthere (by rintro _ ⟨⟩) (ih hup.2 ?_ ?_)
      · exact fun t ht ↦ hfits t (List.mem_cons_of_mem _ ht)
      · exact fun q hq ↦ hdirectory q ((List.prefix_append _ _).trans hq)

/-- From the root or the current directory, the parts lead to the directory at `D`. -/
def Reaches (fs : FileSystem) (absolute : Bool) (parts D : List String) : Prop :=
  Resolves fs.root true maxLinks (if absolute then [] else fs.current) (parts.map .ofPart)
    (.found D) ∧ fs.root.entryAt D = some .emptyDirectory

/-- A path denotes a directory if it is accepted and its parts lead to one. -/
theorem isDirectory_iff_reaches : fs.isDirectory p = true ↔
    p.Usable ∧ ∃ D, fs.Reaches p.isAbsolute p.parts D := by
  rw [isDirectory_iff]
  constructor
  · rintro ⟨D, hcanonical, hdirectory⟩
    obtain ⟨husable, hway⟩ := locate_eq_ok_iff.mp hcanonical
    exact ⟨husable, D, hway, hdirectory⟩
  · rintro ⟨husable, D, hway, hdirectory⟩
    exact ⟨D, locate_eq_ok_iff.mpr ⟨husable, hway⟩, hdirectory⟩

namespace Reaches

variable {absolute : Bool} {parts D D' : List String}

theorem directory (h : fs.Reaches absolute parts D) :
    fs.root.entryAt D = some .emptyDirectory := h.2

theorem unique (h : fs.Reaches absolute parts D) (h' : fs.Reaches absolute parts D') : D = D' :=
  Place.found.inj (h.1.unique h'.1)

theorem mono {fs' : FileSystem} (h : fs.Reaches absolute parts D) (hsub : fs.root.Sub fs'.root)
    (hcurrent : fs'.current = fs.current) : fs'.Reaches absolute parts D := by
  refine ⟨?_, hsub _ _ h.2⟩
  rw [hcurrent]
  exact h.1.mono hsub

theorem extend {more : List String} (h : fs.Reaches absolute parts D)
    (hmore : ∀ links, Resolves fs.root true links D (more.map .ofPart) (.found D'))
    (hdirectory : fs.root.entryAt D' = some .emptyDirectory) :
    fs.Reaches absolute (parts ++ more) D' := by
  refine ⟨?_, hdirectory⟩
  rcases eq_or_ne more [] with rfl | hne
  · rw [List.append_nil, ← (hmore 0).eq_of_nil]
    exact h.1
  · obtain ⟨links, hrest⟩ := h.1.exists_resolveSteps_append
    rw [List.map_append, ← resolveSteps_eq_ok_iff, hrest true _ (by simpa using hne)]
    exact resolveSteps_eq_ok_iff.mpr (hmore links)

theorem cut {more : List String} (h : fs.Reaches absolute (parts ++ more) D') :
    ∃ D links, fs.Reaches absolute parts D ∧
      Resolves fs.root true links D (more.map .ofPart) (.found D') := by
  rcases eq_or_ne more [] with rfl | hne
  · rw [List.append_nil] at h
    exact ⟨D', 0, h, .done⟩
  · have hsteps : more.map PathStep.ofPart ≠ [] := by simpa using hne
    obtain ⟨hway, _⟩ := h
    rw [List.map_append] at hway
    obtain ⟨D, links, hfront, hback⟩ := hway.cut hsteps
    exact ⟨D, links, ⟨hfront, hback.directory hsteps⟩, hback⟩

theorem of_stays {trail : List String} (h : fs.Reaches absolute (parts ++ trail) D)
    (htrail : ∀ s ∈ trail, PathStep.ofPart s = .stay) : fs.Reaches absolute parts D := by
  obtain ⟨D', links, hfront, hback⟩ := h.cut
  have hsteps : ∀ step ∈ trail.map PathStep.ofPart, step = .stay := by
    simpa [List.forall_mem_map] using htrail
  rwa [hback.eq_of_stays hsteps] at hfront

end Reaches

/-! ## The name a path ends in

Making and removing work on a name in a directory, and the system finds both with the path as it
is spelled, without the empty parts at its end. -/

/-- A path that ends in a name of the directory at `D`: the parts before the name lead there, and
behind it all parts are empty. -/
structure Ends (fs : FileSystem) (p : Path) (D : List String) (name : String) : Prop where
  /-- The path is accepted. -/
  usable : p.Usable
  /-- The parts before the name lead to the directory. -/
  parts : ∃ front blank, p.parts = front ++ name :: blank ∧ (∀ s ∈ blank, s = "") ∧
    fs.Reaches p.isAbsolute front D
  /-- The name is one. -/
  step : PathStep.ofPart name = .enter name

theorem trim_append {front blank : List String} {name : String} (hname : name ≠ "")
    (hblank : ∀ s ∈ blank, s = "") :
    ((front ++ name :: blank).reverse.dropWhile (· = "")).reverse = front ++ [name] := by
  have hdrop : ∀ s ∈ blank.reverse, decide (s = "") = true := fun s hs ↦
    decide_eq_true (hblank s (List.mem_reverse.mp hs))
  rw [List.reverse_append, List.reverse_cons, List.append_assoc,
    List.dropWhile_append_of_pos hdrop, List.singleton_append,
    List.dropWhile_cons_of_neg (by simpa using hname)]
  simp

theorem exists_trim (parts : List String) : ∃ blank,
    parts = (parts.reverse.dropWhile (· = "")).reverse ++ blank ∧ ∀ s ∈ blank, s = "" := by
  refine ⟨parts.rtakeWhile (· = ""), List.rdropWhile_append_rtakeWhile.symm, fun s hs ↦ ?_⟩
  simpa using List.mem_rtakeWhile_imp hs

theorem parentPlace_of_parts (husable : p.Usable) {front blank : List String} {s : String}
    (hparts : p.parts = front ++ s :: blank) (hs : s ≠ "") (hblank : ∀ t ∈ blank, t = "") :
    fs.parentPlace p =
      match resolveSteps fs.root true maxLinks (start fs.current p) (front.map .ofPart) with
      | .error e => .error e
      | .ok (.free _ _) => .error .notFound
      | .ok (.found names) =>
        if (fs.node? names).any (·.isDirectory) then .ok (names, s) else .error .notDirectory := by
  unfold FileSystem.parentPlace
  rw [if_neg fun hmem ↦ husable.1 (List.contains_iff_mem.mp hmem), if_neg husable.2]
  rcases hway : resolveSteps fs.root true maxLinks (start fs.current p) (front.map .ofPart) with
    e | ⟨D, name⟩ | names <;>
  simp only [hparts, trim_append hs hblank, List.dropLast_concat, List.getLast?_concat,
    Option.getD_some, hway]

namespace Ends

variable {D : List String} {name : String}

theorem directory (h : fs.Ends p D name) : fs.root.entryAt D = some .emptyDirectory := by
  obtain ⟨_, ⟨_, _, _, _, hreaches⟩, _⟩ := h
  exact hreaches.directory

theorem parentPlace (h : fs.Ends p D name) : fs.parentPlace p = .ok (D, name) := by
  obtain ⟨husable, ⟨front, blank, hparts, hblank, hway, hdirectory⟩, hstep⟩ := h
  obtain ⟨es, hes⟩ := Node.entryAt_eq_emptyDirectory_iff.mp hdirectory
  have hname : name ≠ "" := (PathStep.ofPart_eq_enter_iff.mp hstep).2.1
  have hnode : (fs.node? D).any (·.isDirectory) = true := by
    rw [node?, hes]
    rfl
  rw [parentPlace_of_parts husable hparts hname hblank, start, resolveSteps_eq_ok_iff.mpr hway]
  exact if_pos hnode

theorem of_parentPlace (h : fs.parentPlace p = .ok (D, name))
    (hstep : PathStep.ofPart name = .enter name) : fs.Ends p D name := by
  unfold FileSystem.parentPlace at h
  split_ifs at h with hnul hempty
  obtain ⟨blank, hsplit, hblank⟩ := exists_trim p.parts
  dsimp only at h
  generalize (p.parts.reverse.dropWhile (· = "")).reverse = kept at h hsplit
  split at h
  · cases h
  · cases h
  · next names hway =>
    split_ifs at h with hnode
    obtain ⟨rfl, hlast⟩ := Prod.mk.inj (Except.ok.inj h)
    have hdirectory : fs.root.entryAt names = some .emptyDirectory := by
      rw [node?] at hnode
      cases hn : fs.root.find? names with
      | none =>
        rw [hn] at hnode
        cases hnode
      | some n =>
        rw [hn] at hnode
        cases n with
        | directory es => exact Node.entryAt_eq_emptyDirectory_iff.mpr ⟨es, hn⟩
        | _ => cases hnode
    refine ⟨⟨fun hmem ↦ hnul (List.contains_iff_mem.mpr hmem), hempty⟩, ?_, hstep⟩
    rcases List.eq_nil_or_concat kept with rfl | ⟨front, last, rfl⟩
    · exact absurd hlast.symm (PathStep.ofPart_eq_enter_iff.mp hstep).2.1
    · rw [List.concat_eq_append] at hway hlast hsplit
      rw [List.getLast?_concat, Option.getD_some] at hlast
      rw [List.dropLast_concat] at hway
      refine ⟨front, blank, ?_, hblank, resolveSteps_eq_ok_iff.mp hway, hdirectory⟩
      rw [hsplit, hlast, List.append_assoc, List.singleton_append]

theorem mono {fs' : FileSystem} (h : fs.Ends p D name) (hsub : fs.root.Sub fs'.root)
    (hcurrent : fs'.current = fs.current) : fs'.Ends p D name := by
  obtain ⟨husable, ⟨front, blank, hparts, hblank, hreaches⟩, hstep⟩ := h
  exact ⟨husable, ⟨front, blank, hparts, hblank, hreaches.mono hsub hcurrent⟩, hstep⟩

theorem enter_mem_steps (h : fs.Ends p D name) : .enter name ∈ p.steps := by
  obtain ⟨_, ⟨front, blank, hparts, _⟩, hstep⟩ := h
  rw [Path.steps, hparts, ← hstep]
  exact List.mem_map_of_mem (List.mem_append_right _ List.mem_cons_self)

theorem locate (h : fs.Ends p D name) (hfits : name.utf8ByteSize ≤ maxNameBytes)
    (hentry : fs.root.entryAt (D ++ [name]) = some .emptyDirectory) (follow : Bool) :
    fs.locate follow p = .ok (D ++ [name]) := by
  obtain ⟨husable, ⟨front, blank, hparts, hblank, hway, hdirectory⟩, hstep⟩ := h
  have hstays : ∀ s ∈ blank, PathStep.ofPart s = .stay := fun s hs ↦
    PathStep.ofPart_eq_stay_iff.mpr (.inl (hblank s hs))
  have hnames : Path.namesIn (name :: blank) = [name] := by
    rw [Path.namesIn_cons_of_enter hstep, Path.namesIn_eq_nil hstays]
  obtain ⟨links, hrest⟩ := hway.exists_resolveSteps_append
  have hend : Resolves fs.root follow links D ((name :: blank).map .ofPart)
      (.found (D ++ [name])) := by
    rw [← hnames]
    refine resolves_down ?_ ?_ fun q hD hq ↦ ?_
    · intro hup
      rcases List.mem_cons.mp hup with rfl | hup
      · cases hstep
      · cases hstays _ hup
    · rw [hnames]
      exact fun s hs ↦ List.mem_singleton.mp hs ▸ hfits
    · rw [hnames, List.prefix_concat_iff] at hq
      rcases hq with rfl | hq
      · exact hentry
      · rwa [← hD.eq_of_length_le hq.length_le]
  have hne : (name :: blank).map PathStep.ofPart ≠ [] := List.cons_ne_nil _ _
  refine locate_eq_ok_iff.mpr ⟨husable, ?_⟩
  rw [Path.steps, hparts, List.map_append, start, ← resolveSteps_eq_ok_iff, hrest follow _ hne]
  exact resolveSteps_eq_ok_iff.mpr hend

end Ends

/-! ## Creating directories -/

theorem isSome_node?_iff {names : List String} :
    (fs.node? names).isSome = (fs.root.entryAt names).isSome := by
  rw [Node.entryAt, Option.isSome_map]
  rfl

/-- A directory is created under a free name in a directory. -/
theorem createDirectory_eq_ok_iff {fs' : FileSystem} : fs.createDirectory p = .ok fs' ↔
    ∃ D name, fs.Ends p D name ∧ name.utf8ByteSize ≤ maxNameBytes ∧
      fs.root.entryAt (D ++ [name]) = none ∧ fs' = fs.insert (D ++ [name]) .emptyDirectory := by
  constructor
  · intro h
    cases hparent : fs.parentPlace p with
    | error e =>
      simp only [createDirectory, hparent] at h
      cases h
    | ok place =>
      obtain ⟨D, name⟩ := place
      simp only [createDirectory, hparent, bind, Except.bind] at h
      split_ifs at h with hname hlong hsome
      have hstep : PathStep.ofPart name = .enter name := PathStep.ofPart_eq_enter_iff.mpr (by tauto)
      refine ⟨D, name, .of_parentPlace hparent hstep, Nat.le_of_not_lt hlong, ?_, ?_⟩
      · rwa [Bool.not_eq_true, isSome_node?_iff, Option.isSome_eq_false_iff,
          Option.isNone_iff_eq_none] at hsome
      · exact (Except.ok.inj h).symm
  · rintro ⟨D, name, hends, hfits, hfree, rfl⟩
    obtain ⟨_, hname⟩ := PathStep.ofPart_eq_enter_iff.mp hends.step
    have hnot : ¬ (name = "" ∨ name = "." ∨ name = "..") := by tauto
    simp only [createDirectory, hends.parentPlace, bind, Except.bind, if_neg hnot,
      if_neg (Nat.not_lt.mpr hfits), isSome_node?_iff, hfree, Option.isSome_none]
    rfl

theorem sub_createAncestors (fs : FileSystem) (ps : List Path) :
    fs.root.Sub (leftBy (fs.createAncestors ps)).root ∧
      (leftBy (fs.createAncestors ps)).current = fs.current := by
  have hcreated {fs fs' : FileSystem} {p : Path} (h : fs.createDirectory p = .ok fs') :
      fs.root.Sub fs'.root ∧ fs'.current = fs.current := by
    obtain ⟨D, name, hends, _, hfree, rfl⟩ := createDirectory_eq_ok_iff.mp h
    exact ⟨.insert hends.directory hfree, rfl⟩
  fun_induction createAncestors fs ps with
  | case1 => exact ⟨.refl _, rfl⟩
  | case2 => exact ⟨.refl _, rfl⟩
  | case3 p above hroot fs' h => exact hcreated h
  | case4 p above hroot hmissing e fs₁ habove ih =>
    rw [habove] at ih
    exact ih
  | case5 p above hroot hmissing fs₁ habove fs' h ih =>
    rw [habove] at ih
    obtain ⟨hsub, hcurrent⟩ := hcreated h
    exact ⟨ih.1.trans hsub, hcurrent.trans ih.2⟩
  | case6 p above hroot hmissing fs₁ habove e h hdirectory ih =>
    rw [habove] at ih
    exact ih
  | case7 p above hroot hmissing fs₁ habove e h hdirectory ih =>
    rw [habove] at ih
    exact ih
  | case8 => exact ⟨.refl _, rfl⟩
  | case9 => exact ⟨.refl _, rfl⟩

/-! ## Removing trees

A directory is emptied first and then taken away under the name that the path ends in. The second
step may fail, since the path may end in a `..`, or lead through what was emptied; then the
directory stays, without entries. -/

theorem ends_of_removeDirectory {fs' : FileSystem} (h : fs.removeDirectory p = .ok fs') :
    ∃ D name, fs.Ends p D name ∧ fs.root.entryAt (D ++ [name]) = some .emptyDirectory ∧
      fs' = fs.erase (D ++ [name]) := by
  cases hparent : fs.parentPlace p with
  | error e =>
    simp only [removeDirectory, hparent] at h
    cases h
  | ok place =>
    obtain ⟨D, name⟩ := place
    simp only [removeDirectory, hparent, bind, Except.bind] at h
    split_ifs at h with hempty hhere hup
    have hstep : PathStep.ofPart name = .enter name :=
      PathStep.ofPart_eq_enter_iff.mpr ⟨rfl, hempty, hhere, hup⟩
    split at h
    · cases h
    · next hnode =>
      refine ⟨D, name, .of_parentPlace hparent hstep, ?_, (Except.ok.inj h).symm⟩
      exact Node.entryAt_eq_emptyDirectory_iff.mpr ⟨[], hnode⟩
    · cases h
    · cases h

theorem removeDirectory_of_ends {D : List String} {name : String} (h : fs.Ends p D name)
    (hentry : fs.root.entryAt (D ++ [name]) = some .emptyDirectory)
    (hempty : ∀ k, fs.root.entryAt (D ++ [name] ++ [k]) = none) :
    fs.removeDirectory p = .ok (fs.erase (D ++ [name])) := by
  obtain ⟨_, hne, hhere, hup⟩ := PathStep.ofPart_eq_enter_iff.mp h.step
  obtain ⟨es, hes⟩ := Node.entryAt_eq_emptyDirectory_iff.mp hentry
  have hnode : fs.node? (D ++ [name]) = some (.directory []) := by
    rw [node?, hes]
    cases es with
    | nil => rfl
    | cons e es =>
      have hfirst := hempty e.1
      rw [Node.entryAt_concat hes, List.find?_cons_of_pos (by simp)] at hfirst
      cases hfirst
  simp only [removeDirectory, h.parentPlace, bind, Except.bind, if_neg hne, if_neg hhere,
    if_neg hup, hnode]

/-- The outcomes of removing the tree a path denotes. -/
inductive Removal (fs : FileSystem) (p : Path) : Edited → Prop where
  /-- Nothing is removed. -/
  | refused (e : OsError) : Removal fs p (.error e fs)
  /-- A link is removed itself. -/
  | link {T : List String} {target : String} (hlocate : fs.locate false p = .ok T)
    (hentry : fs.root.entryAt T = some (.link target)) : Removal fs p (.ok () (fs.erase T))
  /-- A directory is emptied and stays, if the path as it is spelled no longer ends in its name. -/
  | emptied {T : List String} (hcanonical : fs.canonical p = .ok T)
    (hentry : fs.root.entryAt T = some .emptyDirectory) {r : Edited}
    (hspelling : ∀ D name, T = D ++ [name] → ¬ (fs.insert T .emptyDirectory).Ends p D name)
    (hleft : leftBy r = fs.insert T .emptyDirectory) : Removal fs p r
  /-- A directory is emptied and removed under the name the path ends in. -/
  | removed {D : List String} {name : String} (hcanonical : fs.canonical p = .ok (D ++ [name]))
    (hentry : fs.root.entryAt (D ++ [name]) = some .emptyDirectory) (hends : fs.Ends p D name) :
    Removal fs p (.ok () ((fs.insert (D ++ [name]) .emptyDirectory).erase (D ++ [name])))

theorem removeDirectory_of_emptied {p : Path} {D : List String} {name : String}
    (hD : fs.root.entryAt D = some .emptyDirectory)
    (hends : (fs.insert (D ++ [name]) .emptyDirectory).Ends p D name) :
    (fs.insert (D ++ [name]) .emptyDirectory).removeDirectory p =
      .ok ((fs.insert (D ++ [name]) .emptyDirectory).erase (D ++ [name])) := by
  have hinsert (q : List String) := Node.entryAt_insert .emptyDirectory hD name q
  refine removeDirectory_of_ends hends ?_ fun k ↦ ?_
  · refine (hinsert _).trans ?_
    rw [if_pos List.prefix_rfl, List.drop_of_length_le (by simp)]
    rfl
  · refine (hinsert _).trans ?_
    rw [if_pos (List.prefix_append _ _), List.drop_left' (by simp)]
    rfl

/-- Where it cannot be removed, the path as it is spelled no longer ends in its name. -/
theorem not_ends_of_removeDirectory {p : Path} {T D : List String} {name : String} {e : OsError}
    (hentry : fs.root.entryAt T = some .emptyDirectory)
    (hremove : (fs.insert T .emptyDirectory).removeDirectory p = .error e)
    (hT : T = D ++ [name]) : ¬ (fs.insert T .emptyDirectory).Ends p D name := by
  subst hT
  intro hends
  have hD : fs.root.entryAt D = some .emptyDirectory :=
    Node.entryAt_eq_emptyDirectory_of_isPrefix (List.prefix_append D [name]) hentry
  cases hremove.symm.trans (removeDirectory_of_emptied hD hends)

/-- What is removed under the spelling of a path, once emptied, is what the path denotes. -/
theorem exists_ends_of_removeDirectory {fs' : FileSystem} {p : Path} {T : List String}
    (hlocate : fs.locate false p = .ok T) (hcanonical : fs.canonical p = .ok T)
    (hentry : fs.root.entryAt T = some .emptyDirectory)
    (hremove : (fs.insert T .emptyDirectory).removeDirectory p = .ok fs') :
    ∃ D name, T = D ++ [name] ∧ fs.Ends p D name ∧
      fs' = (fs.insert T .emptyDirectory).erase (D ++ [name]) := by
  obtain ⟨D, name, hends, hplace, rfl⟩ := ends_of_removeDirectory hremove
  have hsub : (fs.insert T .emptyDirectory).root.Sub fs.root := .of_emptied hentry
  have hfits : name.utf8ByteSize ≤ maxNameBytes :=
    (locate_eq_ok_iff.mp hlocate).2.fits hends.enter_mem_steps
  have hends' : fs.Ends p D name := hends.mono hsub rfl
  have hsame : fs.canonical p = .ok (D ++ [name]) := hends'.locate hfits (hsub _ _ hplace) true
  cases hcanonical.symm.trans hsame
  exact ⟨D, name, rfl, hends', rfl⟩

theorem removeTree_outcome (fs : FileSystem) (p : Path) : Removal fs p (fs.removeTree p) := by
  unfold removeTree
  split
  · exact .refused _
  · next T hlocate =>
    split
    · next target hnode =>
      have hentry : fs.root.entryAt T = some (.link target) := by
        rw [node?] at hnode
        rw [Node.entryAt, hnode]
        rfl
      exact .link hlocate hentry
    · next es hnode =>
      have hentry : fs.root.entryAt T = some .emptyDirectory :=
        Node.entryAt_eq_emptyDirectory_iff.mpr ⟨es, hnode⟩
      have hcanonical : fs.canonical p = .ok T :=
        canonical_of_locate hlocate fun target ↦ by rw [hentry]; rintro ⟨⟩
      dsimp only
      split
      · next fs' hremove =>
        obtain ⟨D, name, rfl, hends, rfl⟩ :=
          exists_ends_of_removeDirectory hlocate hcanonical hentry hremove
        exact .removed hcanonical hentry hends
      · next hremove =>
        exact .emptied hcanonical hentry (fun _ _ ↦ not_ends_of_removeDirectory hentry hremove) rfl
      · next e _ hremove =>
        exact .emptied hcanonical hentry (fun _ _ ↦ not_ends_of_removeDirectory hentry hremove) rfl
    · exact .refused _

end FileSystem

end JavaConstants
