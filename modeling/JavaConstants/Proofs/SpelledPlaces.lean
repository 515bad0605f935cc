import JavaConstants.Proofs.Replacement

/-!
# Paths read as they are spelled

Part by part, a path spells a place: a name goes down and `..` goes up, whatever is there. It is the
place that the path denotes if no link stands on the way (`Resolves.eq_spelled`). So making the
directories of a path can add an entry only where one of its first parts spell one
(`createDirectories_makes`), also for a `..` behind a name that is made on the way, and a deposit
adds entries there and the file (`entryAt_deposit_of_spelled`).

Nothing here asks which of the directories are made, or whether they all are; that is told for paths
that do not go up in `Nesting`.
-/

namespace JavaConstants

/-! ## Spelled places -/

/-- Where a step leads that meets no link. -/
def PathStep.after (here : List String) : PathStep → List String
  | stay => here
  | up => here.dropLast
  | enter name => here ++ [name]

/-- The place that parts spell, seen from the directory `here`. -/
def spelled (here parts : List String) : List String :=
  (parts.map PathStep.ofPart).foldl PathStep.after here

theorem spelled_append (here parts more : List String) :
    spelled here (parts ++ more) = spelled (spelled here parts) more := by
  rw [spelled, List.map_append, List.foldl_append]
  rfl

theorem spelled_eq_append {parts : List String} (hup : ".." ∉ parts) (here : List String) :
    spelled here parts = here ++ Path.namesIn parts := by
  induction parts generalizing here with
  | nil => exact (List.append_nil here).symm
  | cons s parts ih =>
    rw [List.mem_cons, not_or] at hup
    rw [spelled, List.map_cons, List.foldl_cons]
    cases hs : PathStep.ofPart s with
    | stay =>
      rw [Path.namesIn_cons_of_stay hs]
      exact ih hup.2 here
    | up => exact absurd (PathStep.ofPart_eq_up_iff.mp hs).symm hup.1
    | enter name =>
      obtain ⟨rfl, _⟩ := PathStep.ofPart_eq_enter_iff.mp hs
      rw [Path.namesIn_cons_of_enter hs, List.append_cons]
      exact ih hup.2 (here ++ [s])

theorem spelled_of_enter {names : List String} (h : ∀ s ∈ names, PathStep.ofPart s = .enter s)
    (here : List String) : spelled here names = here ++ names := by
  have hup : ".." ∉ names := fun hmem ↦ absurd (h _ hmem) (by decide)
  have hnames : Path.namesIn names = names :=
    List.filter_eq_self.mpr fun s hs ↦ decide_eq_true (h s hs)
  rw [spelled_eq_append hup, hnames]

theorem spelled_of_stays {parts : List String} (h : ∀ s ∈ parts, PathStep.ofPart s = .stay)
    (here : List String) : spelled here parts = here := by
  have hup : ".." ∉ parts := fun hmem ↦ absurd (h _ hmem) (by decide)
  rw [spelled_eq_append hup, Path.namesIn_eq_nil h, List.append_nil]

/-- No link stands where first parts spell a place. -/
def Linkless (root : Node) (here parts : List String) : Prop :=
  ∀ front, front <+: parts → ∀ target, root.entryAt (spelled here front) ≠ some (.link target)

theorem Linkless.of_isPrefix {root : Node} {here parts front : List String}
    (h : Linkless root here parts) (hfront : front <+: parts) : Linkless root here front :=
  fun _ hfront' ↦ h _ (hfront'.trans hfront)

/-- The place an entry has or would have. -/
def Place.names : Place → List String
  | found names => names
  | free directory name => directory ++ [name]

namespace Path

theorem exists_ofParts_of_mem_ladder {absolute : Bool} {parts : List String} {r : Path}
    (h : r ∈ ladder absolute parts) : ∃ front, front <+: parts ∧ r = ofParts absolute front := by
  induction parts using List.reverseRecOn with
  | nil => exact ⟨[], List.prefix_rfl, List.mem_singleton.mp h⟩
  | append_singleton parts s ih =>
    have hbelow (h : r ∈ ladder absolute parts) :
        ∃ front, front <+: parts ++ [s] ∧ r = ofParts absolute front := by
      obtain ⟨front, hfront, hr⟩ := ih h
      exact ⟨front, hfront.trans (List.prefix_append _ _), hr⟩
    rw [ladder_concat] at h
    split_ifs at h
    · rcases List.mem_cons.mp h with hr | h
      · exact ⟨_, List.prefix_rfl, hr⟩
      · exact hbelow h
    · exact hbelow h

theorem exists_ofParts_of_mem_ancestors {p r : Path} (h : r ∈ p.ancestors) :
    ∃ front, front <+: p.parts ∧ r = ofParts p.isAbsolute front := by
  rw [ancestors_eq] at h
  rcases List.mem_cons.mp h with rfl | h
  · exact ⟨_, List.prefix_rfl, (ofParts_parts r).symm⟩
  · exact exists_ofParts_of_mem_ladder (List.mem_of_mem_drop h)

end Path

theorem Resolves.eq_spelled {root : Node} {follow : Bool} {links : Nat}
    {here parts : List String} {x : Place} (hlinkless : Linkless root here parts)
    (h : Resolves root follow links here (parts.map .ofPart) x) : x.names = spelled here parts := by
  induction parts generalizing here with
  | nil =>
    cases h
    rfl
  | cons s parts ih =>
    have hbehind : Linkless root (PathStep.after here (.ofPart s)) parts := fun front hfront ↦
      hlinkless (s :: front) ((List.prefix_cons_inj s).mpr hfront)
    rw [List.map_cons] at h
    rw [spelled, List.map_cons, List.foldl_cons]
    cases hs : PathStep.ofPart s with
    | stay =>
      rw [hs] at h hbehind
      cases h with
      | stay _ h => exact ih hbehind h
    | up =>
      rw [hs] at h hbehind
      cases h with
      | up _ h => exact ih hbehind h
    | enter name =>
      have hfirst : ∀ target, root.entryAt (here ++ [name]) ≠ some (.link target) := by
        have hplace : spelled here [s] = here ++ [name] := by
          rw [spelled, List.map_singleton, hs]
          rfl
        exact hplace ▸ hlinkless [s] (List.prefix_append [s] parts)
      rw [hs] at h hbehind
      generalize hsteps : parts.map PathStep.ofPart = steps at h
      cases h with
      | free => rfl
      | lastLink _ _ hname => exact absurd hname (hfirst _)
      | link _ _ hname => exact absurd hname (hfirst _)
      | enter _ _ _ _ h =>
        subst hsteps
        exact ih hbehind h

namespace FileSystem

variable {fs : FileSystem} {p : Path}

/-- The place that a path spells. -/
def spelledPlace (fs : FileSystem) (p : Path) : List String := spelled (start fs.current p) p.parts

/-! ## Directories made

Directories are made one by one, each in a state that may hold more of them than the one before and
no link that is new. `Makes` says this of any number of such steps. -/

/-- `fs.Makes S made`: new directories at some of the places `S` are all that `made` has more. -/
structure Makes (fs : FileSystem) (S : List String → Prop) (made : FileSystem) : Prop where
  /-- The current directory is the same. -/
  current : made.current = fs.current
  /-- An entry is as it was, or a new directory. -/
  entry : ∀ q, made.root.entryAt q = fs.root.entryAt q ∨
    S q ∧ fs.root.entryAt q = none ∧ made.root.entryAt q = some .emptyDirectory

namespace Makes

variable {S : List String → Prop} {made after : FileSystem}

theorem refl (fs : FileSystem) (S : List String → Prop) : fs.Makes S fs := ⟨rfl, fun _ ↦ .inl rfl⟩

theorem trans (h : fs.Makes S made) (h' : made.Makes S after) : fs.Makes S after := by
  refine ⟨h'.current.trans h.current, fun q ↦ ?_⟩
  rcases h'.entry q with hafter | ⟨hS, hfree, hmade⟩
  · rw [hafter]
    exact h.entry q
  · rcases h.entry q with hsame | ⟨_, hfree', _⟩
    · exact .inr ⟨hS, hsame ▸ hfree, hmade⟩
    · exact .inr ⟨hS, hfree', hmade⟩

theorem linkless {here parts : List String} (h : fs.Makes S made)
    (hlinkless : Linkless fs.root here parts) : Linkless made.root here parts := by
  intro front hfront target hlink
  rcases h.entry (spelled here front) with hsame | ⟨_, _, hmade⟩
  · exact hlinkless front hfront target (hsame ▸ hlink)
  · cases hmade.symm.trans hlink

theorem entryAt_of_isSome {q : List String} (h : fs.Makes S made)
    (hq : S q → fs.root.entryAt q ≠ none) : made.root.entryAt q = fs.root.entryAt q :=
  (h.entry q).resolve_right fun ⟨hS, hfree, _⟩ ↦ hq hS hfree

end Makes

theorem Reaches.spelled_eq {parts D : List String} (h : fs.Reaches p.isAbsolute parts D)
    (hlinkless : Linkless fs.root (start fs.current p) parts) :
    spelled (start fs.current p) parts = D :=
  (h.1.eq_spelled hlinkless).symm

theorem Missing.spelled_behind {parts front post D more : List String} {name : String}
    (h : fs.Missing p.isAbsolute parts front name post D)
    (hlinkless : Linkless fs.root (start fs.current p) front) (hup : ".." ∉ more) :
    spelled (start fs.current p) (front ++ name :: more) = D ++ name :: Path.namesIn more := by
  have hname : ".." ≠ name := fun hname ↦ absurd (hname ▸ h.step) (by decide)
  have hups : ".." ∉ name :: more := List.not_mem_cons_of_ne_of_not_mem hname hup
  rw [spelled_append, h.reaches.spelled_eq hlinkless, spelled_eq_append hups,
    Path.namesIn_cons_of_enter h.step]

theorem Ends.spelledPlace_eq {D : List String} {name : String} (h : fs.Ends p D name)
    (hlinkless : Linkless fs.root (start fs.current p) p.parts) :
    fs.spelledPlace p = D ++ [name] := by
  obtain ⟨_, ⟨front, blank, hparts, hblank, hreaches⟩, hstep⟩ := h
  rw [hparts] at hlinkless
  have hfront : spelled (start fs.current p) front = D :=
    hreaches.spelled_eq (hlinkless.of_isPrefix (List.prefix_append _ _))
  have hstays : ∀ s ∈ blank, PathStep.ofPart s = .stay := fun s hs ↦ hblank s hs ▸ rfl
  rw [spelledPlace, hparts, List.append_cons, spelled_append, spelled_of_stays hstays,
    spelled_append, hfront]
  exact spelled_of_enter (by simpa using hstep) D

theorem createDirectory_makes {S : List String → Prop} {made : FileSystem}
    (hlinkless : Linkless fs.root (start fs.current p) p.parts) (hS : S (fs.spelledPlace p))
    (h : fs.createDirectory p = .ok made) : fs.Makes S made := by
  obtain ⟨D, name, hends, _, hfree, rfl⟩ := createDirectory_eq_ok_iff.mp h
  rw [hends.spelledPlace_eq hlinkless] at hS
  refine ⟨rfl, fun q ↦ ?_⟩
  rw [insert, Node.entryAt_insert_of_free rfl hends.directory hfree]
  by_cases hq : q = D ++ [name]
  · rw [hq, if_pos rfl]
    exact .inr ⟨hS, hfree, rfl⟩
  · rw [if_neg hq]
    exact .inl rfl

theorem createAncestors_makes {S : List String → Prop} {ps : List Path}
    (hps : ∀ p ∈ ps, Linkless fs.root (start fs.current p) p.parts ∧ S (fs.spelledPlace p)) :
    fs.Makes S (leftBy (fs.createAncestors ps)) := by
  -- What is made at the end of the list is made in a state with more directories.
  have hmakes {p : Path} {made after : FileSystem} (hmade : fs.Makes S made)
      (hp : Linkless fs.root (start fs.current p) p.parts ∧ S (fs.spelledPlace p))
      (h : made.createDirectory p = .ok after) : fs.Makes S after := by
    rw [spelledPlace, ← hmade.current] at hp
    exact hmade.trans (createDirectory_makes (hmade.linkless hp.1) hp.2 h)
  fun_induction createAncestors fs ps with
  | case1 | case2 | case8 | case9 => exact .refl _ _
  | case3 p above _ made h =>
    exact hmakes (.refl _ _) (List.forall_mem_cons.mp hps).1 h
  | case4 p above _ _ e made habove ih | case6 p above _ _ made habove e _ _ ih
  | case7 p above _ _ made habove e _ _ ih =>
    rw [habove] at ih
    exact ih (List.forall_mem_cons.mp hps).2
  | case5 p above _ _ made habove after h ih =>
    obtain ⟨hp, hrest⟩ := List.forall_mem_cons.mp hps
    rw [habove] at ih
    exact hmakes (ih hrest) hp h

theorem spelledPlace_rung (husable : p.Usable) {front : List String} (hfront : front <+: p.parts)
    (hlinkless : Linkless fs.root (start fs.current p) p.parts) :
    Linkless fs.root (start fs.current (.ofParts p.isAbsolute front))
        (Path.ofParts p.isAbsolute front).parts ∧
      fs.spelledPlace (.ofParts p.isAbsolute front) = spelled (start fs.current p) front := by
  by_cases hnil : front = []
  · subst hnil
    have habsolute : (Path.ofParts p.isAbsolute []).isAbsolute = p.isAbsolute := by
      cases p.isAbsolute <;> decide
    have hparts : (Path.ofParts p.isAbsolute []).parts = [""] := by
      cases p.isAbsolute <;> decide
    rw [spelledPlace, start, habsolute, hparts]
    refine ⟨fun front hfront' ↦ ?_, rfl⟩
    have hstays : ∀ s ∈ front, PathStep.ofPart s = .stay := fun s hs ↦
      List.mem_singleton.mp (hfront'.subset hs) ▸ rfl
    rw [spelled_of_stays hstays]
    exact hlinkless [] List.nil_prefix
  · obtain ⟨habsolute, hparts, _⟩ := Path.rung_spec husable hfront hnil
    rw [spelledPlace, start, habsolute, hparts]
    exact ⟨hlinkless.of_isPrefix hfront, rfl⟩

/-- **Making directories.** Whether it goes through or not, new directories where the first parts of
the path spell a place are all it leaves. -/
theorem createDirectories_makes (husable : p.Usable)
    (hlinkless : Linkless fs.root (start fs.current p) p.parts) :
    fs.Makes (fun q ↦ ∃ front, front <+: p.parts ∧ spelled (start fs.current p) front = q)
      (leftBy (fs.createDirectories p)) := by
  refine createAncestors_makes fun r hr ↦ ?_
  obtain ⟨front, hfront, rfl⟩ := Path.exists_ofParts_of_mem_ancestors hr
  obtain ⟨hrung, hplace⟩ := spelledPlace_rung husable hfront hlinkless
  exact ⟨hrung, front, hfront, hplace.symm⟩

/-! ## Files written

A file that is written stands at the place that its path spells, be it new there or not, and what
is written to a directory or a device is refused. -/

theorem entryAt_insert_file {names : List String} {content content' : List UInt8}
    (hfile : fs.node? names = some (.file content')) {q : List String} (hq : q ≠ names) :
    (fs.insert names (.file content)).root.entryAt q = fs.root.entryAt q := by
  have hentry : fs.root.entryAt names = some (.file content') := by
    rw [Node.entryAt, ← node?, hfile]
    rfl
  rw [insert, Node.entryAt_insert_of_isSome _ (by rw [hentry]; rfl)]
  split_ifs with hunder
  · -- Below a file there is nothing, before and after.
    obtain ⟨below, rfl⟩ := hunder
    have hbelow : below ≠ [] := by
      rintro rfl
      exact hq (List.append_nil names)
    have hnone : fs.root.entryAt (names ++ below) = none := by
      by_contra hsome
      have hdirectory := Node.entryAt_eq_emptyDirectory_of_append hbelow
        (Option.isSome_iff_ne_none.mpr hsome)
      cases hentry.symm.trans hdirectory
    obtain ⟨name, below, rfl⟩ := List.exists_cons_of_ne_nil hbelow
    rw [hnone, List.drop_left]
    rfl
  · rfl

theorem entryAt_write_of_spelled (hlinkless : Linkless fs.root (start fs.current p) p.parts)
    (content : List UInt8) {q : List String} (hq : q ≠ fs.spelledPlace p) :
    (leftBy (fs.asEdited (fs.write p content))).root.entryAt q = fs.root.entryAt q := by
  rw [write, modifyFile]
  split_ifs
  · cases fs.parentPlace p <;> rfl
  cases hplace : fs.place true p with
  | error e => rfl
  | ok x =>
    obtain ⟨_, hway⟩ := place_eq_ok_iff.mp hplace
    have hnames : x.names = fs.spelledPlace p := hway.eq_spelled hlinkless
    rw [← hnames] at hq
    cases x with
    | free D name =>
      obtain ⟨hdirectory, hfree⟩ := hway.of_free
      exact (Node.entryAt_insert_of_free rfl hdirectory hfree q).trans (if_neg hq)
    | found names =>
      dsimp only
      split
      · next hfile => exact entryAt_insert_file hfile hq
      · rfl
      · rfl

/-- **A deposit.** Directories missing where the first parts of the path spell a place and the file
are all that a deposit can add. -/
theorem entryAt_deposit_of_spelled {directory : Path} {f : SourceFile} (hf : f.Placeable)
    (husable : directory.Usable)
    (hlinkless : Linkless fs.root (start fs.current directory)
      (directory.baseParts ++ f.segments ++ [f.fileName])) (content : List UInt8)
    {q : List String}
    (hmade : ∀ front, front <+: directory.baseParts ++ f.segments →
      spelled (start fs.current directory) front = q → fs.root.entryAt q ≠ none)
    (hfile : q ≠ spelled (start fs.current directory)
      (directory.baseParts ++ f.segments ++ [f.fileName])) :
    (leftBy (fs.deposit (directory.join f.relativePath) content)).root.entryAt q =
      fs.root.entryAt q := by
  obtain ⟨parent, hparent, habsolute, hparts, hpathAbsolute, hpathParts⟩ :=
    hf.exists_parent directory
  have hparentUsable : parent.Usable :=
    usable_of_isEntryName husable hparts (fun s hs ↦ hf.segment hs) f.segments_ne_nil
  have hparentStart : start fs.current parent = start fs.current directory := by
    rw [start, start, habsolute]
  have hparentLinkless : Linkless fs.root (start fs.current parent) parent.parts := by
    rw [hparentStart, hparts]
    exact hlinkless.of_isPrefix (List.prefix_append _ _)
  have hmakes := createDirectories_makes hparentUsable hparentLinkless
  rw [hparentStart, hparts] at hmakes
  have hbefore : (leftBy (fs.createDirectories parent)).root.entryAt q = fs.root.entryAt q := by
    refine hmakes.entryAt_of_isSome ?_
    rintro ⟨front, hfront, hplace⟩
    exact hmade front hfront hplace
  rw [deposit, createParent, hparent]
  dsimp only
  generalize fs.createDirectories parent = r at hmakes hbefore
  cases r with
  | error e made => exact hbefore
  | ok u made =>
    rw [leftBy] at hmakes hbefore
    rw [Edited.andThen_ok, ← hbefore]
    have hpathStart : start made.current (directory.join f.relativePath) =
        start fs.current directory := by
      rw [start, start, hpathAbsolute, hmakes.current]
    refine entryAt_write_of_spelled ?_ content ?_
    · rw [hpathStart, hpathParts]
      exact hmakes.linkless hlinkless
    · rwa [spelledPlace, hpathStart, hpathParts]

end FileSystem

end JavaConstants
