import Mathlib
import JavaConstants.Proofs.Requests
import JavaConstants.Proofs.Results

/-!
# The log of a walk

The insertions that a walk of resources comes to, read off the resource tree alone, and the class
tree that it leaves: what the first writers of the log leave.

A walk opens a class before it goes below it, so its log is grounded (`groundedLog_nodesRequests`);
and it goes through the children of every directory in the order of their names
(`resourceNodes_sorted`).
-/

namespace JavaConstants

/-- The entries of the resources directory at a path, with the names on the way to it. -/
def resourceNodes (fs : FileSystem) (resources : Path) :
    Except Error (List String × List ResourceNode) := do
  let root ← (fs.canonical resources).mapError (.file resources)
  let entries ← (fs.listResources (.ofNames root)).mapError (.walk (.ofNames root))
  pure (root, seenOf entries)

/-- The requests of a walk of the resources directory at a path. -/
def resourceRequests (fs : FileSystem) (o : ExtractOptions) (exclusions : Exclusions)
    (resources : Path) : Except Error (List Request) := do
  let (root, nodes) ← resourceNodes fs resources
  WalkContext.nodesRequests ⟨o, exclusions, root⟩ [] [] nodes

/-- The log of a walk of the resources directory at a path: the insertions its requests come to. -/
def resourceLog (fs : FileSystem) (o : ExtractOptions) (exclusions : Exclusions)
    (resources : Path) : Except Error (List Action) := do
  let requests ← resourceRequests fs o exclusions resources
  pure (requests.filterMap (·.action? o))

/-! ## Groundedness -/

/-- Requests come to a grounded log wherever they can be told at all. -/
def GroundedLog (o : ExtractOptions) (known : List (List String))
    (r : Except Error (List Request)) : Prop :=
  ∀ rs, r = .ok rs → Grounded known (rs.filterMap (·.action? o))

section GroundedLog

variable {o : ExtractOptions} {known : List (List String)} {scope : List String}

theorem groundedLog_nil : GroundedLog o known (pure []) := by
  intro rs h
  cases h
  exact .nil known

theorem grounded_constants (o : ExtractOptions) (hscope : scope ∈ known)
    (entries : List (String × String)) :
    Grounded known ((entries.map fun e ↦ Request.constant scope e.1 e.2).filterMap
      (·.action? o)) := by
  induction entries with
  | nil => exact .nil known
  | cons e entries ih =>
    rw [List.map_cons, List.filterMap_cons, Request.action?]
    cases o.fieldName? e.1 with
    | none => exact ih
    | some n => exact .offering hscope ih

theorem grounded_requests (a : FormatAdapter) (o : ExtractOptions) (hscope : scope ∈ known)
    (fileName : String) (keys : List String) :
    Grounded known ((a.requests o scope fileName keys).filterMap (·.action? o)) := by
  have hkeys {known : List (List String)} {scope : List String} (hscope : scope ∈ known) :
      Grounded known ((keys.map fun key ↦ Request.constant scope key key).filterMap
        (·.action? o)) := by
    have h := grounded_constants o hscope (keys.map fun key ↦ (key, key))
    rwa [List.map_map] at h
  rw [FormatAdapter.requests]
  cases a.bundle? fileName with
  | none => exact hkeys hscope
  | some bundle =>
    simp only
    rw [List.filterMap_cons, Request.action?]
    cases o.className? bundle with
    | none => exact .nil known
    | some n => exact .opening hscope (hkeys List.mem_cons_self)

theorem groundedLog_keyRequests (o : ExtractOptions) (hscope : scope ∈ known) (f : ResourceFile) :
    GroundedLog o known (o.keyRequests scope f) := by
  rw [ExtractOptions.keyRequests]
  cases o.handler? f.name with
  | none => exact groundedLog_nil
  | some a =>
    intro rs hrs
    obtain ⟨keys, _, hrs⟩ := bind_eq_ok hrs
    cases hrs
    exact grounded_requests a o hscope f.name keys

end GroundedLog

theorem grounded_fileRequests {c : WalkContext} {below scope : List String}
    {known : List (List String)} {name : String} {content : Except OsError (List UInt8)}
    {rs : List Request} (hscope : scope ∈ known)
    (h : c.fileRequests below scope name content = .ok rs) :
    Grounded known (rs.filterMap (·.action? c.options)) := by
  obtain ⟨keys, hkeys, h⟩ := bind_eq_ok h
  cases h
  rw [List.filterMap_append]
  exact (groundedLog_keyRequests c.options hscope _ keys hkeys).append
    (grounded_constants c.options hscope [(_, _)])

theorem WalkContext.AsksFor.grounded {c : WalkContext} {below scope : List String}
    {known : List (List String)} {nodes : List ResourceNode} {rs : List Request}
    (h : c.AsksFor below scope nodes rs) (hscope : scope ∈ known) :
    Grounded known (rs.filterMap (·.action? c.options)) := by
  induction h generalizing known with
  | nil => exact .nil known
  | unvisited _ _ ih => exact ih hscope
  | file _ hfile _ ih =>
    rw [List.filterMap_append]
    exact (grounded_fileRequests hscope hfile).append (ih hscope)
  | unnamed _ hclass _ ih =>
    rw [List.filterMap_cons, Request.action?, ← className?_eq, hclass]
    exact ih hscope
  | directory _ hclass _ _ ihc ih =>
    rw [List.filterMap_cons, Request.action?, ← className?_eq, hclass, List.filterMap_append]
    -- The children write below the class that has just become known.
    exact .opening hscope ((ihc List.mem_cons_self).append (ih (List.mem_cons_of_mem _ hscope)))
  | linkedDirectory _ _ ih => exact ih hscope

/-- **A walk opens a class before it goes below it.** -/
theorem groundedLog_nodesRequests (c : WalkContext) (nodes : List ResourceNode) :
    ∀ below scope known, scope ∈ known →
      GroundedLog c.options known (c.nodesRequests below scope nodes) :=
  fun _ _ _ hscope _ hrs ↦ (WalkContext.asksFor_iff.mpr hrs).grounded hscope

/-! ## Order

Directories are sorted when they are listed, and a walk goes into no linked one, so order at every
depth follows along the listing. -/

mutual

/-- Whether the children of every directory in an entry stand in the order of their names. -/
def ResourceNode.Sorted : ResourceNode → Prop
  | .file _ _ => True
  | .directory _ _ children => ResourceNode.AllSorted children
  | .linkedDirectory _ => True

/-- Whether entries, and the children of every directory in them, stand in the order of their
names. -/
def ResourceNode.AllSorted : List ResourceNode → Prop
  | [] => True
  | node :: nodes => (∀ m ∈ nodes, node.name ≤ m.name) ∧ node.Sorted ∧ ResourceNode.AllSorted nodes

end

namespace ResourceNode

theorem allSorted_iff {nodes : List ResourceNode} :
    AllSorted nodes ↔ nodes.Pairwise (·.name ≤ ·.name) ∧ ∀ node ∈ nodes, node.Sorted := by
  induction nodes with
  | nil => simp [AllSorted]
  | cons node nodes ih =>
    rw [AllSorted, ih, List.pairwise_cons, List.forall_mem_cons]
    tauto

end ResourceNode

theorem pairwise_sortByName {α : Type} (entries : List (String × α)) :
    (sortByName entries).Pairwise (·.1 ≤ ·.1) := by
  have h : (sortByName entries).Pairwise fun a b ↦ decide (a.1 ≤ b.1) = true := by
    refine List.pairwise_mergeSort ?_ ?_ entries
    · intro a b c hab hbc
      exact decide_eq_true (String.le_trans (of_decide_eq_true hab) (of_decide_eq_true hbc))
    · intro a b
      simpa using String.le_total a.1 b.1
  exact h.imp of_decide_eq_true

theorem allSorted_seenOf {entries : List (String × SeenEntry)}
    (hsorted : entries.Pairwise (·.1 ≤ ·.1))
    (hseen : ∀ name node, (name, .inr node) ∈ entries → node.name = name ∧ node.Sorted) :
    ResourceNode.AllSorted (seenOf entries) := by
  have hmem (node : ResourceNode) (h : node ∈ seenOf entries) :
      (node.name, .inr node) ∈ entries ∧ node.Sorted := by
    obtain ⟨⟨name, seen⟩, he, hsome⟩ := List.mem_filterMap.mp h
    cases seen with
    | inl reason => cases hsome
    | inr m =>
      cases hsome
      obtain ⟨hname, hs⟩ := hseen name node he
      rw [hname]
      exact ⟨he, hs⟩
  rw [ResourceNode.allSorted_iff]
  refine ⟨List.pairwise_filterMap.mpr (hsorted.imp_of_mem ?_), fun node h ↦ (hmem node h).2⟩
  rintro ⟨name, seen⟩ ⟨name', seen'⟩ ha hb hab node hnode node' hnode'
  cases seen with
  | inl reason => cases hnode
  | inr m =>
    cases seen' with
    | inl reason => cases hnode'
    | inr m' =>
      cases hnode
      cases hnode'
      rw [(hseen name node ha).1, (hseen name' node' hb).1]
      exact hab

theorem seeLink_sorted {name : String} {target : Except OsError Node} {m : ResourceNode}
    (h : FileSystem.seeLink name target = .inr m) : m.name = name ∧ m.Sorted := by
  unfold FileSystem.seeLink at h
  split at h
  · cases h; exact ⟨rfl, trivial⟩
  · cases h; exact ⟨rfl, trivial⟩
  · cases h
  · cases h

mutual

theorem seeEntry_sorted (fs : FileSystem) (path : Path) (name : String) (node : Node)
    {m : ResourceNode} (h : fs.seeEntry path name node = .inr m) : m.name = name ∧ m.Sorted := by
  match node with
  | .file content =>
    cases h
    exact ⟨rfl, trivial⟩
  | .directory entries =>
    cases h
    refine ⟨rfl, allSorted_seenOf (pairwise_sortByName _) fun name' node' hmem ↦ ?_⟩
    exact seeEntries_sorted fs _ entries (List.mem_mergeSort.mp hmem)
  | .link target => exact seeLink_sorted h
  | .device => cases h

theorem seeEntries_sorted (fs : FileSystem) (path : Path) (entries : List (String × Node))
    {name : String} {m : ResourceNode} (h : (name, .inr m) ∈ fs.seeEntries path entries) :
    m.name = name ∧ m.Sorted := by
  match entries with
  | [] => cases h
  | (name', node) :: entries =>
    rw [FileSystem.seeEntries] at h
    rcases List.mem_cons.mp h with h | h
    · obtain ⟨rfl, hm⟩ := Prod.mk.inj h
      exact seeEntry_sorted fs path name node hm.symm
    · exact seeEntries_sorted fs path entries h

end

theorem resourceNodes_sorted {fs : FileSystem} {resources : Path} {root : List String}
    {nodes : List ResourceNode} (h : resourceNodes fs resources = .ok (root, nodes)) :
    ResourceNode.AllSorted nodes := by
  obtain ⟨names, _, h⟩ := bind_eq_ok h
  obtain ⟨entries, hentries, h⟩ := bind_eq_ok h
  cases h
  rw [FileSystem.listResources] at hentries
  cases hstat : fs.stat (.ofNames root) with
  | error e =>
    rw [hstat] at hentries
    cases hentries
  | ok node =>
    rw [hstat] at hentries
    cases hentries
    refine allSorted_seenOf (pairwise_sortByName _) fun name m hmem ↦ ?_
    exact seeEntries_sorted fs _ _ (List.mem_mergeSort.mp hmem)

/-! ## Walks of resources -/

theorem walkResources_performs (fs : FileSystem) (o : ExtractOptions) (exclusions : Exclusions)
    (resources : Path) :
    Performs o (walkResources fs o exclusions resources) ()
      (resourceRequests fs o exclusions resources) := by
  rw [walkResources, resourceRequests, resourceNodes]
  cases fs.canonical resources with
  | error e => exact Performs.of_throw () _
  | ok root =>
    simp only [Except.mapError, bind_assoc]
    refine Performs.bind_liftFile fun entries ↦ ?_
    exact Performs.silent (agrees_foldl_log ⟨o, exclusions, root⟩ [] (passedOf entries))
      (walkNodes_performs ⟨o, exclusions, root⟩ (seenOf entries) [] [])

/-- A walk that succeeds has a log, and leaves what the first writers of the log leave. -/
theorem exists_log_of_walk {fs : FileSystem} {o : ExtractOptions} {exclusions : Exclusions}
    {resources : Path} {rootName : String} {h : Harvest}
    (hwalk : walkResources fs o exclusions resources (.start rootName) = .ok () h) :
    ∃ log, resourceLog fs o exclusions resources = .ok log ∧ h.root.name = rootName ∧
      FirstWriterWins log h.root := by
  obtain ⟨rs, hrs, _, hagrees⟩ :=
    (walkResources_performs fs o exclusions resources).exists_of_ok hwalk
  obtain ⟨⟨root, nodes⟩, _, hrequests⟩ := bind_eq_ok hrs
  have hroot : h.root = replay (rs.filterMap (·.action? o)) (.empty rootName) :=
    hagrees.1.trans (root_foldl_perform o rs (.start rootName))
  have hgrounded : Grounded [[]] (rs.filterMap (·.action? o)) :=
    groundedLog_nodesRequests ⟨o, exclusions, root⟩ nodes [] [] [[]] List.mem_cons_self rs hrequests
  refine ⟨rs.filterMap (·.action? o), ?_, ?_, ?_⟩
  · rw [resourceLog, hrs]
    rfl
  · rw [hroot, name_replay]
    rfl
  · rw [hroot]
    exact hgrounded.firstWriterWins rootName

/-- **A walk is the replay of its log.** The log is told by the resource tree alone, whose entries
are sorted by name at every depth, and the first writer wins. -/
theorem walkResources_firstWriterWins {fs : FileSystem} {o : ExtractOptions}
    {exclusions : Exclusions} {resources : Path} {rootName : String} {h : Harvest}
    (hwalk : walkResources fs o exclusions resources (.start rootName) = .ok () h) :
    ∃ root nodes log, resourceNodes fs resources = .ok (root, nodes) ∧
      ResourceNode.AllSorted nodes ∧ resourceLog fs o exclusions resources = .ok log ∧
      h.root.name = rootName ∧ FirstWriterWins log h.root := by
  obtain ⟨log, hlog, hname, hwins⟩ := exists_log_of_walk hwalk
  obtain ⟨rs, hrs, _⟩ := bind_eq_ok hlog
  obtain ⟨⟨root, nodes⟩, hnodes, _⟩ := bind_eq_ok hrs
  exact ⟨root, nodes, log, hnodes, resourceNodes_sorted hnodes, hlog, hname, hwins⟩

/-- Two directories that stand for one class, and two files that stand for one constant. -/
def mergedFiles : FileSystem where
  root := .directory [("r", .directory [
    ("A", .directory [("x.txt", .file [])]), ("a", .directory [("x.md", .file [])])])]

theorem walkResources_firstWriterWins_mergedFiles :
    ∃ h, walkResources mergedFiles ⟨[], false, true⟩ ⟨[]⟩ ⟨"/r"⟩ (.start "R") = .ok () h ∧
      ∃ root nodes log, resourceNodes mergedFiles ⟨"/r"⟩ = .ok (root, nodes) ∧
        ResourceNode.AllSorted nodes ∧
        resourceLog mergedFiles ⟨[], false, true⟩ ⟨[]⟩ ⟨"/r"⟩ = .ok log ∧
        h.root.name = "R" ∧ FirstWriterWins log h.root := by
  have hwalk : walkResources mergedFiles ⟨[], false, true⟩ ⟨[]⟩ ⟨"/r"⟩ (.start "R") = .ok ()
      ⟨.mk "R" [] [("a", .mk "a" [("x", .ofText "x" "/A/x.txt")] [])],
        [⟨["R"], "a", .mergedClass⟩, ⟨["R", "a"], "x", .duplicate⟩],
        [.nameSkipped ⟨["R"], "a", .mergedClass⟩, .nameSkipped ⟨["R", "a"], "x", .duplicate⟩]⟩ := by
    cbv
  exact ⟨_, hwalk, walkResources_firstWriterWins hwalk⟩

end JavaConstants
