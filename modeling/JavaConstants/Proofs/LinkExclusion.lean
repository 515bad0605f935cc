import JavaConstants.Proofs.Exclusion

/-!
# Excluded links

What the own path of an entry comes to among the exclusions of a walk, in a tree with links
(`walkResources_listed`). A file or a directory is left out with everything in it, and nothing else
is. The path of a link stands for what the link leads to, so that is left out, wherever it is met,
and never the link itself.

Cutting an entry out of the files would change what the links to it are. So an entry is cut out of
what the walk goes through instead (`cutAt`).
-/

namespace JavaConstants

open FileSystem

/-! ## Entries at names -/

namespace ResourceNode

/-- The children of a directory; none for any other entry. -/
def children : ResourceNode → List ResourceNode
  | directory _ _ nodes => nodes
  | _ => []

/-- An entry with the children changed, if it is a directory. -/
def mapChildren (f : List ResourceNode → List ResourceNode) : ResourceNode → ResourceNode
  | directory n passed nodes => directory n passed (f nodes)
  | node => node

@[simp] theorem name_mapChildren (f : List ResourceNode → List ResourceNode) (node : ResourceNode) :
    (node.mapChildren f).name = node.name := by cases node <;> rfl

theorem mapChildren_id (node : ResourceNode) : node.mapChildren id = node := by cases node <;> rfl

end ResourceNode

/-- Whether an entry stands at some names below entries. -/
def Meets : List String → List ResourceNode → Prop
  | [], _ => False
  | name :: names, nodes =>
    ∃ node ∈ nodes, node.name = name ∧ (names = [] ∨ Meets names node.children)

/-- Entries without the one at some names and everything below it. -/
def cutAt : List String → List ResourceNode → List ResourceNode
  | [], nodes => nodes
  | name :: names, nodes =>
    if names = [] then nodes.filter (·.name ≠ name)
    else nodes.map fun node ↦ if node.name = name then node.mapChildren (cutAt names) else node

theorem not_meets_nil {path : List String} : ¬ Meets path [] := by
  rcases path with _ | ⟨name, path⟩ <;> simp [Meets]

theorem meets_head (node : ResourceNode) (nodes : List ResourceNode) :
    Meets [node.name] (node :: nodes) := ⟨node, List.mem_cons_self, rfl, .inl rfl⟩

theorem Meets.below {path : List String} {node : ResourceNode} (h : Meets path node.children)
    (nodes : List ResourceNode) : Meets (node.name :: path) (node :: nodes) :=
  ⟨node, List.mem_cons_self, rfl, .inr h⟩

theorem Meets.cons {path : List String} {node : ResourceNode} {nodes : List ResourceNode}
    (h : Meets path nodes) : Meets path (node :: nodes) := by
  rcases path with _ | ⟨name, path⟩
  · exact h
  · obtain ⟨other, hmem, hrest⟩ := h
    exact ⟨other, List.mem_cons_of_mem _ hmem, hrest⟩

theorem cutAt_nil (names : List String) : cutAt names [] = [] := by
  rcases names with _ | ⟨name, names⟩ <;> simp [cutAt]

section Cons

variable {name : String} {names : List String} {node : ResourceNode}

theorem cutAt_cons_of_ne (hname : node.name ≠ name) (nodes : List ResourceNode) :
    cutAt (name :: names) (node :: nodes) = node :: cutAt (name :: names) nodes := by
  rw [cutAt, cutAt]
  split_ifs
  · exact List.filter_cons_of_pos (by simpa using hname)
  · rw [List.map_cons, if_neg hname]

theorem cutAt_cons_last (hname : node.name = name) (nodes : List ResourceNode) :
    cutAt [name] (node :: nodes) = cutAt [name] nodes := by
  rw [cutAt, cutAt, if_pos rfl, if_pos rfl]
  exact List.filter_cons_of_neg (by simpa using hname)

theorem cutAt_cons_below (hname : node.name = name) (hnames : names ≠ [])
    (nodes : List ResourceNode) :
    cutAt (name :: names) (node :: nodes) =
      node.mapChildren (cutAt names) :: cutAt (name :: names) nodes := by
  rw [cutAt, cutAt, if_neg hnames, if_neg hnames, List.map_cons, if_pos hname]

end Cons

theorem children_mapChildren_cutAt (names : List String) (node : ResourceNode) :
    (node.mapChildren (cutAt names)).children = cutAt names node.children := by
  rcases node with ⟨name, content⟩ | ⟨name, passed, children⟩ | name
  · exact (cutAt_nil names).symm
  · rfl
  · exact (cutAt_nil names).symm

theorem meets_cutAt_iff {names path : List String} (hnames : names ≠ [])
    {nodes : List ResourceNode} :
    Meets path (cutAt names nodes) ↔ Meets path nodes ∧ ¬ names <+: path := by
  induction names generalizing path nodes with
  | nil => exact absurd rfl hnames
  | cons name names ih =>
    rcases path with _ | ⟨k, path⟩
    · simp [Meets]
    rw [List.cons_prefix_cons, cutAt]
    by_cases hnil : names = []
    · rw [if_pos hnil, hnil]
      simp only [Meets, List.mem_filter, decide_eq_true_eq, List.nil_prefix, and_true]
      constructor
      · rintro ⟨node, ⟨hnode, hne⟩, rfl, hrest⟩
        exact ⟨⟨node, hnode, rfl, hrest⟩, Ne.symm hne⟩
      · rintro ⟨⟨node, hnode, rfl, hrest⟩, hne⟩
        exact ⟨node, ⟨hnode, Ne.symm hne⟩, rfl, hrest⟩
    · rw [if_neg hnil]
      simp only [Meets, List.mem_map, exists_exists_and_eq_and]
      -- Below an entry of the name the cut goes on, and all others stay as they are.
      have hnode (node : ResourceNode) (hk : node.name = k) :
          (path = [] ∨ Meets path (if node.name = name then node.mapChildren (cutAt names)
            else node).children) ↔
          (path = [] ∨ Meets path node.children) ∧ ¬ (name = k ∧ names <+: path) := by
        by_cases hname : node.name = name
        · rw [if_pos hname, children_mapChildren_cutAt, ih hnil]
          by_cases hpath : path = []
          · simp [hpath, hnil]
          · simp [hpath, ← hk, hname]
        · have hne : name ≠ k := fun h ↦ hname (hk.trans h.symm)
          simp [hname, hne]
      have hsame (node : ResourceNode) :
          (if node.name = name then node.mapChildren (cutAt names) else node).name = node.name := by
        split_ifs <;> simp
      simp only [hsame]
      constructor
      · rintro ⟨node, hmem, hk, hrest⟩
        obtain ⟨hrest, hapart⟩ := (hnode node hk).mp hrest
        exact ⟨⟨node, hmem, hk, hrest⟩, hapart⟩
      · rintro ⟨⟨node, hmem, hk, hrest⟩, hapart⟩
        exact ⟨node, hmem, hk, (hnode node hk).mpr ⟨hrest, hapart⟩⟩

/-! ## Walks of entries that are cut out

Two walks of one tree agree below an entry if their exclusions agree on everything met there. With
a path more on one side they agree on everything but the entry at that path, which is the one cut
out. -/

/-- Whether exclusions leave the same out at some names. -/
def Exclusions.AgreeAt (e e' : Exclusions) (names : List String) : Prop :=
  e.excludes (.ofNames names) = e'.excludes (.ofNames names)

section Cut

variable {o : ExtractOptions} {exclusions exclusions' : Exclusions} {root : List String}

theorem alike_walkNode_mapChildren {f : List ResourceNode → List ResourceNode}
    {node : ResourceNode} {below : List String}
    (hvisits : exclusions.AgreeAt exclusions' (root ++ (below ++ [node.name])))
    (hchildren : ∀ scope,
      Alike (walkNodes ⟨o, exclusions, root⟩ (below ++ [node.name]) scope node.children)
        (walkNodes ⟨o, exclusions', root⟩ (below ++ [node.name]) scope (f node.children)))
    (scope : List String) :
    Alike (walkNode ⟨o, exclusions, root⟩ below scope node)
      (walkNode ⟨o, exclusions', root⟩ below scope (node.mapChildren f)) := by
  have hsame : (WalkContext.mk o exclusions root).visits below node.name =
      (WalkContext.mk o exclusions' root).visits below node.name :=
    congrArg (!isHidden node.name && !·) hvisits
  by_cases hvisit : (WalkContext.mk o exclusions root).visits below node.name = true
  · have hvisit' := hsame ▸ hvisit
    rcases node with ⟨name, content⟩ | ⟨name, passed, children⟩ | name
    · exact alike_walkNode_file hvisit hvisit' scope content
    · exact alike_walkNode_directory hvisit hvisit' scope passed passed hchildren
    · rw [ResourceNode.name] at hvisit hvisit'
      obtain ⟨hhidden, hexcluded⟩ := WalkContext.of_visits hvisit
      obtain ⟨_, hexcluded'⟩ := WalkContext.of_visits hvisit'
      rw [ResourceNode.mapChildren, walkNode, walkNode, if_neg hhidden, if_neg hhidden,
        if_neg hexcluded, if_neg hexcluded']
      · exact .of_modify fun h h' hagrees ↦ hagrees.skip scope name .linkedDirectory
      · rintro _ _ _ ⟨⟩
  · have hvisit' := hsame ▸ hvisit
    rw [← ResourceNode.name_mapChildren f] at hvisit'
    obtain ⟨e, hlog⟩ := WalkContext.exists_walkNode_eq_log hvisit scope
    obtain ⟨e', hlog'⟩ := WalkContext.exists_walkNode_eq_log hvisit' scope
    rw [hlog, hlog']
    exact .of_modify fun h h' hagrees ↦ hagrees

theorem alike_walkNode {node : ResourceNode} {below : List String}
    (hvisits : exclusions.AgreeAt exclusions' (root ++ (below ++ [node.name])))
    (hchildren : ∀ scope,
      Alike (walkNodes ⟨o, exclusions, root⟩ (below ++ [node.name]) scope node.children)
        (walkNodes ⟨o, exclusions', root⟩ (below ++ [node.name]) scope node.children))
    (scope : List String) : Alike (walkNode ⟨o, exclusions, root⟩ below scope node)
      (walkNode ⟨o, exclusions', root⟩ below scope node) := by
  have hsame := alike_walkNode_mapChildren (f := id) hvisits hchildren scope
  rwa [ResourceNode.mapChildren_id] at hsame

theorem alike_walkNodes (nodes : List ResourceNode) (below scope : List String)
    (h : ∀ path, Meets path nodes → exclusions.AgreeAt exclusions' (root ++ (below ++ path))) :
    Alike (walkNodes ⟨o, exclusions, root⟩ below scope nodes)
      (walkNodes ⟨o, exclusions', root⟩ below scope nodes) := by
  have hnone (below scope : List String) : Alike (walkNodes ⟨o, exclusions, root⟩ below scope [])
      (walkNodes ⟨o, exclusions', root⟩ below scope []) := by
    rw [walkNodes, walkNodes]
    exact .of_pure ()
  induction nodes using ResourceNode.induction generalizing below scope with
  | nil => exact hnone below scope
  | file name content nodes ih =>
    rw [walkNodes, walkNodes]
    exact (alike_walkNode (h _ (meets_head (.file name content) nodes)) (hnone _) scope).bind
      fun _ ↦ ih below scope fun path hpath ↦ h path hpath.cons
  | directory name passed children nodes ihc ih =>
    rw [walkNodes, walkNodes]
    refine (alike_walkNode (h _ (meets_head (.directory name passed children) nodes)) (fun scope ↦
      ihc _ scope fun path hpath ↦ ?_) scope).bind fun _ ↦
        ih below scope fun path hpath ↦ h path hpath.cons
    have hbelow := h _ (@Meets.below path (.directory name passed children) hpath nodes)
    rwa [List.append_cons] at hbelow
  | linkedDirectory name nodes ih =>
    rw [walkNodes, walkNodes]
    exact (alike_walkNode (h _ (meets_head (.linkedDirectory name) nodes)) (hnone _) scope).bind
      fun _ ↦ ih below scope fun path hpath ↦ h path hpath.cons

/-- **A walk of entries with one cut out.** It tells what a walk tells that excludes the one, if
both exclude the same besides. -/
theorem alike_walkNodes_cutAt {names : List String} (hnames : names ≠ [])
    (nodes : List ResourceNode) (below scope : List String)
    (hcut : exclusions.excludes (.ofNames (root ++ (below ++ names))) = true)
    (h : ∀ path, Meets path nodes → ¬ names <+: path →
      exclusions.AgreeAt exclusions' (root ++ (below ++ path))) :
    Alike (walkNodes ⟨o, exclusions, root⟩ below scope nodes)
      (walkNodes ⟨o, exclusions', root⟩ below scope (cutAt names nodes)) := by
  -- On the way to the entry both walks go on alike; there one is done with it at once.
  induction names generalizing nodes below scope with
  | nil => exact absurd rfl hnames
  | cons name names ih =>
    induction nodes with
    | nil =>
      rw [cutAt_nil]
      exact alike_walkNodes [] below scope fun path hpath ↦ absurd hpath not_meets_nil
    | cons node nodes ihn =>
      have hrest := ihn fun path hpath ↦ h path hpath.cons
      have hself := meets_head node nodes
      rw [walkNodes]
      by_cases hname : node.name = name
      · by_cases hnil : names = []
        · subst hnil
          have hvisit : ¬ (WalkContext.mk o exclusions root).visits below node.name = true := by
            rw [WalkContext.visits, WalkContext.path, hname, hcut]
            simp
          obtain ⟨e, hlog⟩ := WalkContext.exists_walkNode_eq_log hvisit scope
          rw [cutAt_cons_last hname, hlog]
          exact Alike.silent_left (f := (·.log e)) (fun h ↦ ⟨rfl, rfl⟩) hrest
        · rw [cutAt_cons_below hname hnil, walkNodes]
          refine (alike_walkNode_mapChildren (h _ hself ?_) (fun scope ↦ ?_) scope).bind fun _ ↦
            hrest
          · simpa [hname] using hnil
          · refine ih hnil node.children _ scope ?_ fun path hpath hapart ↦ ?_
            · rwa [hname, List.append_assoc]
            · have hbelow := h _ (hpath.below nodes) (by simpa [hname] using hapart)
              rwa [List.append_cons] at hbelow
      · rw [cutAt_cons_of_ne hname, walkNodes]
        have hne : ∀ path, ¬ name :: names <+: node.name :: path := fun path hprefix ↦
          hname (List.cons_prefix_cons.mp hprefix).1.symm
        refine (alike_walkNode (h _ hself (hne [])) (fun scope ↦ ?_) scope).bind fun _ ↦ hrest
        refine alike_walkNodes node.children _ scope fun path hpath ↦ ?_
        have hbelow := h _ (hpath.below nodes) (hne path)
        rwa [List.append_cons] at hbelow

end Cut

/-! ## What is met -/

theorem Resolves.entryAt_ne_link {root : Node} {links : Nat} {here names : List String}
    {steps : List PathStep} (h : Resolves root true links here steps (.found names))
    (hhere : steps = [] → ∀ target, root.entryAt here ≠ some (.link target)) :
    ∀ target, root.entryAt names ≠ some (.link target) := by
  generalize hx : Place.found names = x at h
  induction h with
  | done =>
    cases hx
    exact hhere rfl
  | stay hdirectory h ih => exact ih (fun _ _ ↦ by rw [hdirectory]; exact nofun) hx
  | @up links here steps x hdirectory h ih =>
    refine ih (fun _ _ ↦ ?_) hx
    rw [Node.entryAt_eq_emptyDirectory_of_isPrefix (List.dropLast_prefix here) hdirectory]
    exact nofun
  | free => cases hx
  | lastLink hdirectory hfits hname hfollow => cases hfollow
  | link hdirectory hfits hname hlast htarget h ih =>
    exact ih (fun hnil ↦ absurd (List.append_eq_nil_iff.mp hnil).1 (Path.steps_ne_nil _)) hx
  | enter hdirectory hfits hname hlink h ih =>
    refine ih (fun _ target hthere ↦ ?_) hx
    rw [hname] at hthere
    exact hlink target (Option.some.inj hthere)

namespace FileSystem

variable {fs : FileSystem} {names path : List String} {name : String} {e : Node}

theorem entryAt_ne_link_of_canonical {p : Path} (h : fs.canonical p = .ok names) (target : String) :
    fs.root.entryAt names ≠ some (.link target) :=
  (locate_eq_ok_iff.mp h).2.entryAt_ne_link (fun hnil ↦ absurd hnil p.steps_ne_nil) target

theorem canonical_ofNames_of_entry (hwell : fs.root.WellFormed)
    (hentry : fs.root.entryAt (names ++ [name]) = some e) (hlink : ∀ target, e ≠ .link target) :
    fs.canonical (.ofNames (names ++ [name])) = .ok (names ++ [name]) := by
  have hnames := hwell.of_entryAt (by rw [hentry]; rfl)
  have hentries : ∀ s ∈ names ++ [name], IsEntryName s := fun s hs ↦ (hnames s hs).1
  have hparts : (Path.ofNames (names ++ [name])).parts = names ++ [name] := by
    rw [Path.parts_ofNames hentries, if_neg (by simp)]
  have hpath : (Path.ofNames (names ++ [name])).names = names ++ [name] :=
    Path.namesIn_parts_ofNames hentries
  have husable : (Path.ofNames (names ++ [name])).Usable := by
    refine Path.usable_iff.mpr ⟨fun s hs ↦ ?_, .inl (Path.isAbsolute_ofNames _)⟩
    rw [hparts] at hs
    exact (hentries s hs).nul
  have hcanonical := canonical_of_entry husable (Path.isAbsolute_ofNames _)
    (Path.notMem_parts_ofNames hentries) (by rw [hpath]; exact fun s hs ↦ (hnames s hs).2) hparts
    (hentries name (by simp)).step (by rwa [hpath]) hlink
  rwa [hpath] at hcanonical

theorem children_of_seeEntry {fs : FileSystem} {path : Path} {name : String} {n : Node}
    {node : ResourceNode} (h : fs.seeEntry path name n = .inr node) :
    node.children = seenNodes fs (path.join ⟨name⟩) n.entries := by
  rcases n with content | es | target | _
  · rw [seeEntry] at h
    cases h
    exact (seenNodes_nil _ _).symm
  · obtain ⟨passed, hsee⟩ := seeEntry_directory fs path name es
    rw [hsee] at h
    cases h
    rfl
  · rw [seeEntry] at h
    have hleaf : node.children = [] := by
      unfold seeLink at h
      split at h <;> cases h <;> rfl
    exact hleaf.trans (seenNodes_nil _ _).symm
  · rw [seeEntry] at h
    cases h

/-- A link is seen only if it leads somewhere. -/
theorem exists_stat_of_seeEntry_link {target : String} {node : ResourceNode} {p : Path}
    (h : fs.seeEntry p name (.link target) = .inr node) : ∃ m, fs.stat (p.join ⟨name⟩) = .ok m := by
  rw [seeEntry] at h
  rcases hstat : fs.stat (p.join ⟨name⟩) with err | m
  · rw [hstat] at h
    cases h
  · exact ⟨m, rfl⟩

theorem of_meets (hwell : fs.root.WellFormed) {root : List String} {es : List (String × Node)}
    (hroot : fs.root.find? root = some (.directory es))
    (h : Meets path (seenNodes fs (.ofNames root) es)) :
    (fs.root.entryAt (root ++ path)).isSome ∧
      ∃ place, fs.canonical (.ofNames (root ++ path)) = .ok place := by
  induction path generalizing root es with
  | nil => exact absurd h id
  | cons name path ih =>
    obtain ⟨node, hnode, hname, hrest⟩ := h
    rw [seenNodes_eq, List.mem_filterMap] at hnode
    obtain ⟨⟨entry, n⟩, he, hsee⟩ := hnode
    have he := List.mem_mergeSort.mp he
    have hsee : fs.seeEntry (.ofNames root) entry n = .inr node := Sum.getRight?_eq_some_iff.mp hsee
    obtain rfl : entry = name := (seeEntry_sorted fs _ entry n hsee).1.symm.trans hname
    have hfind : fs.root.find? (root ++ [entry]) = some n := by
      rw [Node.find?_append, hroot, Option.bind_some, (hwell.of_find? hroot).find?_of_mem he]
    have hentry : fs.root.entryAt (root ++ [entry]) = some n.bare := by
      rw [Node.entryAt, hfind]
      rfl
    have hpath : (Path.ofNames root).join ⟨entry⟩ = .ofNames (root ++ [entry]) := by
      have hnames := hwell.of_entryAt (by rw [hentry]; rfl)
      exact join_isEntryName (fun s hs ↦ (hnames s (List.mem_append_left _ hs)).1)
        (hnames entry (by simp)).1
    rcases hrest with rfl | hrest
    · -- The entry itself: its own path leads to it, or to what it links to.
      refine ⟨by rw [hentry]; rfl, ?_⟩
      by_cases hlink : ∃ target, n = .link target
      · obtain ⟨target, rfl⟩ := hlink
        obtain ⟨m, hstat⟩ := exists_stat_of_seeEntry_link hsee
        rw [hpath] at hstat
        obtain ⟨place, hplace, _⟩ := stat_eq_ok_iff.mp hstat
        exact ⟨place, hplace⟩
      · refine ⟨_, canonical_ofNames_of_entry hwell hentry fun target hbare ↦ hlink ⟨target, ?_⟩⟩
        exact Node.bare_eq_link_iff.mp hbare
    · -- Something below it: then it is a directory.
      rw [children_of_seeEntry hsee, hpath] at hrest
      rcases n with content | es' | target | _
      · exact absurd (seenNodes_nil _ _ ▸ hrest) not_meets_nil
      · have hbelow := ih hfind hrest
        rwa [List.append_assoc, List.singleton_append] at hbelow
      · exact absurd (seenNodes_nil _ _ ▸ hrest) not_meets_nil
      · exact absurd (seenNodes_nil _ _ ▸ hrest) not_meets_nil

theorem excludes_ofPaths_cons_iff {front back : List Path} {p q : Path} :
    (Exclusions.ofPaths fs (front ++ p :: back)).excludes q = true ↔
      (fs.canonicalOrSame p).components = q.components ∨
        (Exclusions.ofPaths fs (front ++ back)).excludes q = true := by
  rw [excludes_ofPaths_iff, excludes_ofPaths_iff]
  simp only [List.mem_append, List.mem_cons]
  grind

end FileSystem

/-! ## Listed paths

A listed path is made canonical if it denotes something, so it matches what it leads to. What is
met has an own path without links on the way, and that of a link is the only one that leads
elsewhere. -/

section Listed

variable {fs : FileSystem} {resources : Path} {root names : List String} {nodes : List ResourceNode}

theorem exists_walkResources_of_listed (hlisted : resourceNodes fs resources = .ok (root, nodes))
    (o : ExtractOptions) :
    ∃ passed, ∀ exclusions, walkResources fs o exclusions resources =
      logPassed ⟨o, exclusions, root⟩ [] passed >>= fun _ ↦
        walkNodes ⟨o, exclusions, root⟩ [] [] nodes := by
  obtain ⟨root', hroot, hlisted⟩ := bind_eq_ok hlisted
  obtain ⟨entries, hentries, hlisted⟩ := bind_eq_ok hlisted
  cases hlisted
  refine ⟨passedOf entries, fun exclusions ↦ ?_⟩
  rw [walkResources, mapError_eq_ok hroot]
  dsimp only
  rw [hentries]
  rfl

theorem exists_directory_of_listed (hwell : fs.root.WellFormed)
    (hlisted : resourceNodes fs resources = .ok (root, nodes)) (hnames : names ≠ [])
    (hentry : (fs.root.entryAt (root ++ names)).isSome) :
    ∃ es, fs.root.find? root = some (.directory es) ∧ nodes = seenNodes fs (.ofNames root) es := by
  obtain ⟨root', hroot, hlisted⟩ := bind_eq_ok hlisted
  obtain ⟨entries, hentries, hlisted⟩ := bind_eq_ok hlisted
  cases hlisted
  have hdirectory := Node.entryAt_eq_emptyDirectory_of_append hnames hentry
  obtain ⟨es, hes⟩ := Node.entryAt_eq_emptyDirectory_iff.mp hdirectory
  have hway := hwell.of_entryAt (by rw [hdirectory]; rfl)
  have hcanonical : fs.canonical (.ofNames root) = .ok root :=
    canonical_ofNames (fun s hs ↦ (hway s hs).1) (fun s hs ↦ (hway s hs).2) hdirectory
  refine ⟨es, hes, ?_⟩
  have hread := mapError_eq_ok hentries
  rw [listResources, stat_eq_ok_iff.mpr ⟨root, hcanonical, hes⟩] at hread
  rw [← Except.ok.inj hread]
  rfl

theorem components_ofNames_inj {names names' : List String} (hnames : ∀ s ∈ names, IsEntryName s)
    (hnames' : ∀ s ∈ names', IsEntryName s)
    (h : (Path.ofNames names).components = (Path.ofNames names').components) : names = names' := by
  rw [Path.components_ofNames_of_isEntryName hnames,
    Path.components_ofNames_of_isEntryName hnames'] at h
  exact List.map_injective_iff.mpr (fun _ _ ↦ Component.name.inj) (List.cons.inj h).2

variable {front back : List Path} {p : Path} {o : ExtractOptions}

theorem agreeAt_ofPaths (h : (fs.canonicalOrSame p).components ≠ (Path.ofNames names).components) :
    (Exclusions.ofPaths fs (front ++ p :: back)).AgreeAt (.ofPaths fs (front ++ back)) names := by
  rw [Exclusions.AgreeAt, Bool.eq_iff_iff, excludes_ofPaths_cons_iff]
  exact or_iff_right h

/-- A path that leads to an entry leaves out that entry. -/
theorem alike_of_canonical (hwell : fs.root.WellFormed)
    (hlisted : resourceNodes fs resources = .ok (root, nodes)) {below : List String}
    (hbelow : below ≠ []) (hcanonical : fs.canonical p = .ok (root ++ below)) :
    Alike (walkResources fs o (.ofPaths fs (front ++ p :: back)) resources)
      (walkNodes ⟨o, .ofPaths fs (front ++ back), root⟩ [] [] (cutAt below nodes)) := by
  have hentry := isSome_entryAt_of_locate hcanonical
  have hway := hwell.of_entryAt hentry
  have hsame : fs.canonicalOrSame p = .ofNames (root ++ below) := by
    rw [canonicalOrSame, hcanonical]
  obtain ⟨es, hes, rfl⟩ := exists_directory_of_listed hwell hlisted hbelow hentry
  obtain ⟨passed, hwalk⟩ := exists_walkResources_of_listed hlisted o
  rw [hwalk]
  refine .silent_left (agrees_foldl_log _ _ passed) (alike_walkNodes_cutAt hbelow _ [] [] ?_ ?_)
  · exact excludes_ofPaths_cons_iff.mpr (.inl (by rw [hsame]; rfl))
  · intro path hpath hapart
    refine agreeAt_ofPaths fun h ↦ hapart ?_
    have hmet := hwell.of_entryAt (of_meets hwell hes hpath).1
    rw [hsame] at h
    have hpaths := components_ofNames_inj (fun s hs ↦ (hway s hs).1) (fun s hs ↦ (hmet s hs).1) h
    exact (List.append_cancel_left hpaths) ▸ List.prefix_rfl

/-- A path that matches nothing that is met leaves nothing out. -/
theorem alike_of_unmet (hlisted : resourceNodes fs resources = .ok (root, nodes))
    (h : ∀ path, Meets path nodes →
      (fs.canonicalOrSame p).components ≠ (Path.ofNames (root ++ path)).components) :
    Alike (walkResources fs o (.ofPaths fs (front ++ p :: back)) resources)
      (walkResources fs o (.ofPaths fs (front ++ back)) resources) := by
  obtain ⟨passed, hwalk⟩ := exists_walkResources_of_listed hlisted o
  rw [hwalk, hwalk]
  refine .silent (agrees_foldl_log _ _ passed) (agrees_foldl_log _ _ passed) ?_
  exact alike_walkNodes _ [] [] fun path hpath ↦ agreeAt_ofPaths (h path hpath)

theorem components_ne_of_unmet (hwell : fs.root.WellFormed) {es : List (String × Node)}
    (hes : fs.root.find? root = some (.directory es)) {names : List String}
    (hway : ∀ s ∈ root ++ names, IsEntryName s)
    (hnone : ∀ below ≠ [], fs.canonical (.ofNames (root ++ names)) ≠ .ok (root ++ below))
    {path : List String} (hpath : Meets path (seenNodes fs (.ofNames root) es)) :
    (fs.canonicalOrSame (.ofNames (root ++ names))).components ≠
      (Path.ofNames (root ++ path)).components := by
  intro hsame
  obtain ⟨hmet, place, hplace⟩ := of_meets hwell hes hpath
  have hmetWay := hwell.of_entryAt hmet
  have hpathNe : path ≠ [] := by
    rintro rfl
    exact hpath
  rw [canonicalOrSame] at hsame
  rcases hcanonical : fs.canonical (.ofNames (root ++ names)) with err | found
  · -- The path of what is met leads somewhere.
    rw [hcanonical] at hsame
    have hnames := components_ofNames_inj hway (fun s hs ↦ (hmetWay s hs).1) hsame
    rw [hnames, hplace] at hcanonical
    cases hcanonical
  · rw [hcanonical] at hsame
    have hfound := hwell.of_entryAt (isSome_entryAt_of_locate hcanonical)
    have hnames := components_ofNames_inj (fun s hs ↦ (hfound s hs).1)
      (fun s hs ↦ (hmetWay s hs).1) hsame
    exact hnone path hpathNe (hnames ▸ hcanonical)

/-- **Listing the own path of an entry.** The own path of a file or a directory among the exclusions
leaves that out with everything in it, and nothing else. The own path of a link leaves out what the
link leads to, if a walk can meet that, and nothing else; it never leaves out the link. -/
theorem walkResources_listed (hwell : fs.root.WellFormed)
    (hlisted : resourceNodes fs resources = .ok (root, nodes)) (o : ExtractOptions)
    (front back : List Path) {names : List String} (hnames : names ≠ []) {e : Node}
    (hentry : fs.root.entryAt (root ++ names) = some e) :
    ((∀ target, e ≠ .link target) →
      Alike
        (walkResources fs o (.ofPaths fs (front ++ .ofNames (root ++ names) :: back)) resources)
        (walkNodes ⟨o, .ofPaths fs (front ++ back), root⟩ [] [] (cutAt names nodes))) ∧
    ((∃ target, e = .link target) →
      (∀ below ≠ [], fs.canonical (.ofNames (root ++ names)) = .ok (root ++ below) →
        below ≠ names ∧ Alike
          (walkResources fs o (.ofPaths fs (front ++ .ofNames (root ++ names) :: back)) resources)
          (walkNodes ⟨o, .ofPaths fs (front ++ back), root⟩ [] [] (cutAt below nodes))) ∧
      ((∀ below ≠ [], fs.canonical (.ofNames (root ++ names)) ≠ .ok (root ++ below)) →
        Alike
          (walkResources fs o (.ofPaths fs (front ++ .ofNames (root ++ names) :: back)) resources)
          (walkResources fs o (.ofPaths fs (front ++ back)) resources))) := by
  have hway := hwell.of_entryAt (by rw [hentry]; rfl)
  refine ⟨fun hlink ↦ ?_, ?_⟩
  · obtain ⟨above, name, rfl⟩ := (List.eq_nil_or_concat' names).resolve_left hnames
    rw [← List.append_assoc] at hentry
    have hcanonical := canonical_ofNames_of_entry hwell hentry hlink
    rw [List.append_assoc] at hcanonical
    exact alike_of_canonical hwell hlisted hnames hcanonical
  · rintro ⟨target, rfl⟩
    refine ⟨fun below hbelow hcanonical ↦
      ⟨?_, alike_of_canonical hwell hlisted hbelow hcanonical⟩, fun hnone ↦ ?_⟩
    · rintro rfl
      exact entryAt_ne_link_of_canonical hcanonical target hentry
    · obtain ⟨es, hes, rfl⟩ := exists_directory_of_listed hwell hlisted hnames (by rw [hentry]; rfl)
      exact alike_of_unmet hlisted fun path hpath ↦
        components_ne_of_unmet hwell hes (fun s hs ↦ (hway s hs).1) hnone hpath

end Listed

/-! ### A file and a link -/

/-- A resources directory with a file and a link, beside another file. -/
def linkTo (target : String) : FileSystem where
  root := .directory [("r", .directory [("a", .file []), ("l", .link target)]), ("s", .file [])]

theorem wellFormed_linkTo (target : String) : (linkTo target).root.WellFormed := by
  have hlink : (Node.link target).WellFormed := by
    rintro (_ | ⟨name, names⟩) es hes <;> cases hes
  have hr : (Node.directory [("a", .file []), ("l", .link target)]).WellFormed := by
    have hnames : Node.Listable ["a", "l"] := by decide
    exact Node.wellFormed_directory hnames (by simp [Node.wellFormed_file, hlink])
  have hnames : Node.Listable ["r", "s"] := by decide
  exact Node.wellFormed_directory hnames (by simp [Node.wellFormed_file, hr])

/-- The path of the link leaves out the file that the link leads to, and the link stays. -/
theorem walkResources_listed_linkTo :
    ((linkTo "a").root.WellFormed ∧
      resourceNodes (linkTo "a") ⟨"/r"⟩ =
        .ok (["r"], [.file "a" (.ok []), .file "l" (.ok [])]) ∧
      ["l"] ≠ [] ∧ (linkTo "a").root.entryAt ["r", "l"] = some (.link "a")) ∧
    Alike
      (walkResources (linkTo "a") ⟨[], false, false⟩
        (.ofPaths (linkTo "a") [⟨"/r/x"⟩, .ofNames ["r", "l"]]) ⟨"/r"⟩)
      (walkNodes ⟨⟨[], false, false⟩, .ofPaths (linkTo "a") [⟨"/r/x"⟩], ["r"]⟩ [] []
        [.file "l" (.ok [])]) := by
  have hwell := wellFormed_linkTo "a"
  have hlisted : resourceNodes (linkTo "a") ⟨"/r"⟩ =
      .ok (["r"], [.file "a" (.ok []), .file "l" (.ok [])]) := by cbv
  have hentry : (linkTo "a").root.entryAt (["r"] ++ ["l"]) = some (.link "a") := rfl
  have hcanonical : (linkTo "a").canonical (.ofNames (["r"] ++ ["l"])) = .ok (["r"] ++ ["a"]) := by
    cbv
  have hwalk := (walkResources_listed hwell hlisted ⟨[], false, false⟩ [⟨"/r/x"⟩] []
    (List.cons_ne_nil "l" []) hentry).2 ⟨"a", rfl⟩
  exact ⟨⟨hwell, hlisted, List.cons_ne_nil _ _, hentry⟩,
    (hwalk.1 ["a"] (List.cons_ne_nil _ _) hcanonical).2⟩

theorem walkNode_plain {exclusions : Exclusions} {name : String} (hhidden : isHidden name = false)
    (hexcluded : exclusions.excludes (.ofNames ["r", name]) = false)
    (hname : identifier? (baseName name) = some name) {h : Harvest}
    (hfree : h.root.hasFieldAt [] name = false) :
    walkNode ⟨⟨[], false, false⟩, exclusions, ["r"]⟩ [] [] (.file name (.ok [])) h =
      .ok () { h with root := h.root.addFieldAt [] (.ofText name (pathValue [name])) } := by
  have hvisit : ¬ exclusions.excludes
      ((WalkContext.mk ⟨[], false, false⟩ exclusions ["r"]).path ([] ++ [name])) = true := by
    rw [WalkContext.path]
    exact Bool.not_eq_true _ ▸ hexcluded
  have hadd : h.add false [] (pathName false name) (pathValue [name]) =
      { h with root := h.root.addFieldAt [] (.ofText name (pathValue [name])) } := by
    have hsame : identifier? (if false = true then Unicode.upper (pathName false name)
        else pathName false name) = some name := hname
    rw [Harvest.add, hsame]
    exact if_neg (Bool.not_eq_true _ ▸ hfree)
  rw [walkNode, if_neg (by simp [hhidden]), if_neg hvisit]
  exact congrArg (EStateM.Result.ok ()) hadd

/-- **A link that is listed and stays.** The own path of the link `/r/l` is the only exclusion, and
yet the walk makes a constant of the link. -/
theorem listed_link_stays :
    (linkTo "/s").root.entryAt ["r", "l"] = some (.link "/s") ∧
      walkResources (linkTo "/s") ⟨[], false, false⟩
        (.ofPaths (linkTo "/s") [.ofNames ["r", "l"]]) ⟨"/r"⟩ (.start "R") =
          .ok () ⟨.mk "R" [("a", .ofText "a" "/a"), ("l", .ofText "l" "/l")] [], [], []⟩ := by
  have hexclusions : Exclusions.ofPaths (linkTo "/s") [.ofNames ["r", "l"]] =
      ⟨[[.root, .name "s"]]⟩ := by
    have hcanonical : (linkTo "/s").canonical (.ofNames ["r", "l"]) = .ok ["s"] := by cbv
    rw [Exclusions.ofPaths, List.map_singleton, canonicalOrSame, hcanonical]
    decide
  have hroot : (linkTo "/s").canonical ⟨"/r"⟩ = .ok ["r"] := by cbv
  have hlist : (linkTo "/s").listResources (.ofNames ["r"]) =
      .ok [("a", .inr (.file "a" (.ok []))), ("l", .inr (.file "l" (.ok [])))] := by cbv
  have hfile : identifier? (baseName "a") = some "a" := by cbv
  have hlink : identifier? (baseName "l") = some "l" := by cbv
  have hwalk : walkNodes ⟨⟨[], false, false⟩, ⟨[[.root, .name "s"]]⟩, ["r"]⟩ [] []
      [.file "a" (.ok []), .file "l" (.ok [])] (.start "R") =
        .ok () ⟨.mk "R" [("a", .ofText "a" "/a"), ("l", .ofText "l" "/l")] [], [], []⟩ := by
    simp only [walkNodes, bind, EStateM.bind]
    rw [walkNode_plain (by decide) (by decide) hfile (by decide)]
    dsimp only
    rw [walkNode_plain (by decide) (by decide) hlink (by decide)]
    rfl
  refine ⟨rfl, ?_⟩
  rw [hexclusions, walkResources, hroot]
  dsimp only
  rw [hlist]
  exact hwalk

end JavaConstants
