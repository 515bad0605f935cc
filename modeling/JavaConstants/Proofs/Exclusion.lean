import JavaConstants.Proofs.Subtrees
import JavaConstants.Proofs.WalkLog

/-!
# Hidden and excluded entries

A walk with exclusions tells what a walk without any tells of the tree from which the hidden and the
excluded entries were cut out, errors included (`walkResources_exclusions`). So nothing in such an
entry has an influence, and nothing else is left out.

An exclusion is meant to match the entry it denotes. One that denotes nothing because it goes on
behind the name of a file, with a slash or a `.`, matches the file all the same
(`excludes_of_overruns`).
-/

namespace JavaConstants

open FileSystem

/-! ## Pruned trees -/

namespace Node

mutual

/-- A tree without the entries in it that are not to be kept; `names` are those on the way to it. -/
def prune (keep : List String → Bool) (names : List String) : Node → Node
  | directory es => directory (pruneEntries keep names es)
  | n => n

/-- The entries of a directory without those that are not to be kept. -/
def pruneEntries (keep : List String → Bool) (names : List String) :
    List (String × Node) → List (String × Node)
  | [] => []
  | (name, n) :: es =>
    if keep (names ++ [name]) then
      (name, prune keep (names ++ [name]) n) :: pruneEntries keep names es
    else pruneEntries keep names es

end

@[simp] theorem prune_directory (keep : List String → Bool) (names : List String)
    (es : List (String × Node)) :
    (directory es).prune keep names = directory (pruneEntries keep names es) := by rw [prune]

@[simp] theorem prune_file (keep : List String → Bool) (names : List String)
    (content : List UInt8) : (file content).prune keep names = file content := by simp only [prune]

@[simp] theorem prune_link (keep : List String → Bool) (names : List String) (target : String) :
    (link target).prune keep names = link target := by simp only [prune]

@[simp] theorem prune_device (keep : List String → Bool) (names : List String) :
    device.prune keep names = device := by simp only [prune]

theorem pruneEntries_eq (keep : List String → Bool) (names : List String)
    (es : List (String × Node)) :
    pruneEntries keep names es = (es.filter fun e ↦ keep (names ++ [e.1])).map fun e ↦
      (e.1, e.2.prune keep (names ++ [e.1])) := by
  induction es with
  | nil => rw [pruneEntries, List.filter_nil, List.map_nil]
  | cons e es ih =>
    rw [pruneEntries, List.filter_cons, ih]
    split_ifs <;> rfl

end Node

namespace FileSystem

/-- Whether a path denotes the entry at some names. -/
def denotes (fs : FileSystem) (p : Path) (names : List String) : Bool :=
  match fs.canonical p with
  | .ok found => found == names
  | .error _ => false

/-- Whether the entry at some names is neither hidden nor denoted by an exclusion. -/
def keeps (fs : FileSystem) (paths : List Path) (names : List String) : Bool :=
  !isHidden (names.getLast?.getD "") && !paths.any (fs.denotes · names)

/-- The tree at a place without the entries below it that are hidden or denoted by an exclusion. -/
def prunedTree (fs : FileSystem) (paths : List Path) (root : List String) : Option Node :=
  (fs.root.find? root).map (·.prune (fs.keeps paths) root)

/-- The files with the tree at a place pruned. -/
def pruned (fs : FileSystem) (paths : List Path) (root : List String) : FileSystem :=
  match fs.prunedTree paths root with
  | some n => fs.insert root n
  | none => fs

/-- A path that goes on with a slash or a `.` behind the name of something below `root` that is
neither a directory nor a link. -/
structure Overruns (fs : FileSystem) (root : List String) (p : Path) : Prop where
  /-- It starts at the root directory. -/
  absolute : p.isAbsolute = true
  /-- It never goes up. -/
  straight : ".." ∉ p.parts
  /-- Its names lead below `root`. -/
  below : root <+: p.names
  /-- Its last part stays. -/
  last : ∃ front s, p.parts = front ++ [s] ∧ PathStep.ofPart s = .stay
  /-- What its names lead to is nothing to stay in. -/
  entry : ∃ e, fs.root.entryAt p.names = some e ∧ e ≠ .emptyDirectory ∧ ∀ target, e ≠ .link target

end FileSystem

/-! ## What is seen of a pruned tree

A walk sees the entries of a directory in the order of their names. No name is there twice, so it
is all one whether entries are cut out before they are sorted or after. -/

section Entries

variable {α β : Type} {es : List (String × α)}

theorem sortByName_map (es : List (String × α)) (g : String × α → β) :
    sortByName (es.map fun e ↦ (e.1, g e)) = (sortByName es).map fun e ↦ (e.1, g e) := by
  have hmap := List.map_mergeSort (r := fun a b : String × α ↦ decide (a.1 ≤ b.1))
    (s := fun a b : String × β ↦ decide (a.1 ≤ b.1)) (f := fun e ↦ (e.1, g e)) (l := es)
    fun _ _ _ _ ↦ rfl
  exact hmap.symm

theorem eq_of_perm_of_sorted {es' : List (String × α)} (hperm : es.Perm es')
    (hnodup : (es.map (·.1)).Nodup) (hsorted : es.Pairwise (·.1 ≤ ·.1))
    (hsorted' : es'.Pairwise (·.1 ≤ ·.1)) : es = es' := by
  refine hperm.eq_of_pairwise (fun a b ha hb hab hba ↦ ?_) hsorted hsorted'
  exact List.inj_on_of_nodup_map hnodup ha (hperm.mem_iff.mpr hb) (String.le_antisymm hab hba)

theorem sortByName_perm {es' : List (String × α)} (hperm : es.Perm es')
    (hnodup : (es.map (·.1)).Nodup) : sortByName es = sortByName es' := by
  have hsame : (sortByName es).Perm es := List.mergeSort_perm es _
  refine eq_of_perm_of_sorted ((hsame.trans hperm).trans (List.mergeSort_perm es' _).symm)
    ((hsame.map _).nodup_iff.mpr hnodup) (pairwise_sortByName es) (pairwise_sortByName es')

theorem sortByName_filter (hnodup : (es.map (·.1)).Nodup) (k : String × α → Bool) :
    sortByName (es.filter k) = (sortByName es).filter k := by
  have hsame : (sortByName es).Perm es := List.mergeSort_perm es _
  have hperm : ((sortByName es).filter k).Perm (es.filter k) := hsame.filter k
  have hchosen : ((es.filter k).map (·.1)).Nodup := hnodup.sublist (List.filter_sublist.map _)
  refine eq_of_perm_of_sorted ((List.mergeSort_perm _ _).trans hperm.symm)
    (((List.mergeSort_perm _ _).map _).nodup_iff.mpr hchosen) (pairwise_sortByName _)
    ((pairwise_sortByName es).filter k)

end Entries

/-- The entries that a walk goes through in a directory. -/
def seenNodes (fs : FileSystem) (path : Path) (es : List (String × Node)) : List ResourceNode :=
  seenOf (sortByName (fs.seeEntries path es))

theorem seenNodes_nil (fs : FileSystem) (path : Path) : seenNodes fs path [] = [] := by
  simp [seenNodes, seeEntries, sortByName, seenOf]

theorem seenNodes_eq (fs : FileSystem) (path : Path) (es : List (String × Node)) :
    seenNodes fs path es =
      (sortByName es).filterMap fun e ↦ (fs.seeEntry path e.1 e.2).getRight? := by
  rw [seenNodes, seeEntries_eq_map, sortByName_map, seenOf, List.filterMap_map]
  congr 1
  funext e
  rcases hsee : fs.seeEntry path e.1 e.2 with reason | node <;> simp [hsee]

theorem seenNodes_pruneEntries (fs : FileSystem) (path : Path) (keep : List String → Bool)
    (names : List String) {es : List (String × Node)} (hnodup : (es.map (·.1)).Nodup) :
    seenNodes fs path (Node.pruneEntries keep names es) =
      ((sortByName es).filter fun e ↦ keep (names ++ [e.1])).filterMap fun e ↦
        (fs.seeEntry path e.1 (e.2.prune keep (names ++ [e.1]))).getRight? := by
  rw [seenNodes_eq, Node.pruneEntries_eq, sortByName_map, sortByName_filter hnodup,
    List.filterMap_map]
  rfl

theorem seeEntry_directory (fs : FileSystem) (path : Path) (name : String)
    (es : List (String × Node)) : ∃ passed, fs.seeEntry path name (.directory es) =
      .inr (.directory name passed (seenNodes fs (path.join ⟨name⟩) es)) := by
  rw [seeEntry]
  exact ⟨_, rfl⟩

/-! ## Walks that tell the same

Two walks need not record the same events: what is cut out is not even mentioned. So walks are
compared by their classes, their skipped names and their errors (`Alike`), and a step that records
an event may stand in front on either side. -/

/-- Outcomes that tell the same: both walks end or both stop with one error, and one class tree and
one list of names left out are gathered. -/
inductive SameAnswer {α : Type} :
    EStateM.Result Error Harvest α → EStateM.Result Error Harvest α → Prop where
  /-- Both end. -/
  | ok (a : α) {h h' : Harvest} (hagrees : h.Agrees h') : SameAnswer (.ok a h) (.ok a h')
  /-- Both stop. -/
  | error (e : Error) {h h' : Harvest} (hagrees : h.Agrees h') :
    SameAnswer (.error e h) (.error e h')

/-- Steps that tell the same wherever the same was gathered before. -/
def Alike {α : Type} (m m' : Harvesting α) : Prop :=
  ∀ h h', h.Agrees h' → SameAnswer (m h) (m' h')

theorem SameAnswer.symm {α : Type} {r r' : EStateM.Result Error Harvest α} (h : SameAnswer r r') :
    SameAnswer r' r := by
  rcases h with ⟨a, hagrees⟩ | ⟨e, hagrees⟩
  · exact .ok a ⟨hagrees.1.symm, hagrees.2.symm⟩
  · exact .error e ⟨hagrees.1.symm, hagrees.2.symm⟩

theorem SameAnswer.trans {α : Type} {r r' r'' : EStateM.Result Error Harvest α}
    (h : SameAnswer r r') (h' : SameAnswer r' r'') : SameAnswer r r'' := by
  rcases h with ⟨a, hagrees⟩ | ⟨e, hagrees⟩
  · rcases h' with ⟨_, hagrees'⟩
    exact .ok a (hagrees.trans hagrees')
  · rcases h' with _ | ⟨_, hagrees'⟩
    exact .error e (hagrees.trans hagrees')

namespace Alike

variable {α β : Type}

theorem symm {m m' : Harvesting α} (hm : Alike m m') : Alike m' m := fun h h' hagrees ↦
  (hm h' h ⟨hagrees.1.symm, hagrees.2.symm⟩).symm

theorem trans {m m' m'' : Harvesting α} (hm : Alike m m') (hm' : Alike m' m'') : Alike m m'' :=
  fun h h' hagrees ↦ (hm h h (.refl h)).trans (hm' h h' hagrees)

theorem of_pure (a : α) : Alike (pure a) (pure a) := fun _ _ hagrees ↦ .ok a hagrees

theorem of_throw (e : Error) : Alike (α := α) (throw e) (throw e) := fun _ _ hagrees ↦
  .error e hagrees

theorem of_modify {f f' : Harvest → Harvest}
    (hf : ∀ h h', h.Agrees h' → (f h).Agrees (f' h')) : Alike (modify f) (modify f') :=
  fun h h' hagrees ↦ .ok () (hf h h' hagrees)

theorem bind {m m' : Harvesting α} {k k' : α → Harvesting β} (hm : Alike m m')
    (hk : ∀ a, Alike (k a) (k' a)) : Alike (m >>= k) (m' >>= k') := by
  intro h h' hagrees
  change SameAnswer (EStateM.bind m k h) (EStateM.bind m' k' h')
  rw [EStateM.bind, EStateM.bind]
  have hm := hm h h' hagrees
  generalize m h = r at hm
  generalize m' h' = r' at hm
  rcases hm with ⟨a, hagrees⟩ | ⟨e, hagrees⟩
  · exact hk a _ _ hagrees
  · exact .error e hagrees

theorem bind_liftFile (x : Except Error α) {k k' : α → Harvesting β}
    (hk : ∀ a, Alike (k a) (k' a)) : Alike (liftFile x >>= k) (liftFile x >>= k') := by
  refine bind ?_ hk
  rcases x with e | a
  · exact of_throw e
  · exact of_pure a

theorem silent {f f' : Harvest → Harvest} (hf : ∀ h, (f h).Agrees h) (hf' : ∀ h, (f' h).Agrees h)
    {k k' : Unit → Harvesting β} (hk : Alike (k ()) (k' ())) :
    Alike (modify f >>= k) (modify f' >>= k') :=
  bind (of_modify fun h h' hagrees ↦
    (hf h).trans (hagrees.trans ⟨(hf' h').1.symm, (hf' h').2.symm⟩)) fun _ ↦ hk

theorem silent_left {f : Harvest → Harvest} (hf : ∀ h, (f h).Agrees h) {k : Unit → Harvesting β}
    {m : Harvesting β} (hk : Alike (k ()) m) : Alike (modify f >>= k) m := fun h h' hagrees ↦
  hk (f h) h' ((hf h).trans hagrees)

end Alike

namespace Harvest.Agrees

variable {h h' : Harvest}

theorem log (hagrees : h.Agrees h') (e : Event) : (h.log e).Agrees (h'.log e) := hagrees

theorem addKeys (hagrees : h.Agrees h') (uppercase : Bool) (scope keys : List String) :
    (h.addKeys uppercase scope keys).Agrees (h'.addKeys uppercase scope keys) := by
  induction keys generalizing h h' with
  | nil => exact hagrees
  | cons key keys ih => exact ih (hagrees.add uppercase scope key key)

theorem addProperties (hagrees : h.Agrees h') (o : PropertiesOptions) (uppercase lowercase : Bool)
    (scope : List String) (fileName : String) (keys : List String) :
    (h.addProperties o uppercase lowercase scope fileName keys).Agrees
      (h'.addProperties o uppercase lowercase scope fileName keys) := by
  rw [Harvest.addProperties, Harvest.addProperties]
  rcases if o.writeResourceBundle then bundleName? fileName else none with _ | bundle
  · exact hagrees.addKeys uppercase scope keys
  · dsimp only
    rcases identifier? (if lowercase then Unicode.lower bundle else bundle) with _ | name
    · exact hagrees.skip scope _ .unsanitizable
    · exact (hagrees.enter (scope ++ [name])).addKeys uppercase (scope ++ [name]) keys

end Harvest.Agrees

/-- What a file tells does not depend on the events before. -/
theorem alike_extract (a : FormatAdapter) (o : ExtractOptions) (scope : List String)
    (f : ResourceFile) : Alike (a.extract o scope f) (a.extract o scope f) := by
  rcases a with p | p | p
  · refine .bind_liftFile _ fun charset ↦ .bind_liftFile _ fun bytes ↦ ?_
    refine .bind (.of_modify fun h h' hagrees ↦ hagrees.log _) fun _ ↦ ?_
    refine .bind_liftFile _ fun members ↦ ?_
    exact .of_modify fun h h' hagrees ↦ hagrees.addKeys _ scope _
  · refine .bind_liftFile _ fun bytes ↦ .bind_liftFile _ fun value ↦ ?_
    rcases value
    case object members => exact .of_modify fun h h' hagrees ↦ hagrees.addKeys _ scope _
    all_goals exact .of_throw _
  · refine .bind_liftFile _ fun bytes ↦ .bind_liftFile _ fun entries ↦ ?_
    exact .of_modify fun h h' hagrees ↦ hagrees.addProperties p _ _ scope f.name _

theorem alike_extractFile (o : ExtractOptions) (scope : List String) (f : ResourceFile) :
    Alike (extractFile o scope f) (extractFile o scope f) := by
  rw [extractFile]
  induction o.adapters with
  | nil => exact .of_pure false
  | cons a adapters ih =>
    rw [extractWith]
    split_ifs
    · refine .bind (.of_modify fun h h' hagrees ↦ hagrees.log _) fun _ ↦ ?_
      exact .bind (alike_extract a o scope f) fun _ ↦ .of_pure true
    · exact ih

/-! ## The walk of a pruned tree

By induction on the tree, an entry at a time: either neither walk does anything with it, or it
stands in both trees. The trees are in different file systems, since pruning changes the one it is
done in. -/

namespace WalkContext

variable {c : WalkContext} {below : List String} {name : String}

theorem exists_walkNode_eq_log {node : ResourceNode} (h : ¬ c.visits below node.name = true)
    (scope : List String) : ∃ e, walkNode c below scope node = modify (·.log e) := by
  have hcases {name : String} {e e' : Event} {m : Harvesting Unit}
      (h : ¬ c.visits below name = true) : ∃ e'', (if isHidden name then modify (·.log e)
        else if c.exclusions.excludes (c.path (below ++ [name])) then modify (·.log e')
        else m) = modify (·.log e'') := by
    split_ifs with hhidden hexcluded
    · exact ⟨e, rfl⟩
    · exact ⟨e', rfl⟩
    · exact absurd (by simp [visits, hhidden, hexcluded]) h
  rcases node with ⟨name, content⟩ | ⟨name, passed, children⟩ | name
  · rw [walkNode]
    exact hcases h
  · rw [walkNode]
    exact hcases h
  · rw [walkNode]
    exact hcases h

end WalkContext

section Prune

variable {o : ExtractOptions} {exclusions exclusions' : Exclusions} {root : List String}
  {keep : List String → Bool}

/-- A tree whose entries are kept where a walk visits them. -/
def KeepsVisited (o : ExtractOptions) (exclusions : Exclusions) (root : List String)
    (keep : List String → Bool) (below : List String) (n : Node) : Prop :=
  ∀ more name, (n.entryAt (more ++ [name])).isSome →
    keep (root ++ (below ++ more ++ [name])) =
      (WalkContext.mk o exclusions root).visits (below ++ more) name

theorem KeepsVisited.of_mem {es : List (String × Node)} {below : List String}
    (h : KeepsVisited o exclusions root keep below (.directory es))
    (hwell : (Node.directory es).WellFormed) {e : String × Node} (he : e ∈ es) :
    KeepsVisited o exclusions root keep (below ++ [e.1]) e.2 := by
  intro more name hsome
  have hfound := hwell.find?_of_mem he
  have hentry : ((Node.directory es).entryAt ([e.1] ++ more ++ [name])).isSome := by
    rwa [List.append_assoc, Node.entryAt_append, hfound, Option.bind_some]
  have hkeep := h ([e.1] ++ more) name hentry
  rwa [← List.append_assoc below] at hkeep

theorem KeepsVisited.keep_of_mem {es : List (String × Node)} {below : List String}
    (h : KeepsVisited o exclusions root keep below (.directory es))
    (hwell : (Node.directory es).WellFormed) {e : String × Node} (he : e ∈ es) :
    keep (root ++ below ++ [e.1]) = (WalkContext.mk o exclusions root).visits below e.1 := by
  have hentry : ((Node.directory es).entryAt ([] ++ [e.1])).isSome := by
    rw [List.nil_append, Node.entryAt, hwell.find?_of_mem he]
    rfl
  have hkeep := h [] e.1 hentry
  rwa [List.append_nil, ← List.append_assoc] at hkeep

theorem visits_of_visits {below : List String} {name : String}
    (h : (WalkContext.mk o exclusions root).visits below name = true) :
    (WalkContext.mk o ⟨[]⟩ root).visits below name = true := by
  rw [WalkContext.visits, Bool.and_eq_true] at h ⊢
  exact ⟨h.1, rfl⟩

theorem alike_walkNode_file {below : List String} {name : String}
    (h : (WalkContext.mk o exclusions root).visits below name = true)
    (h' : (WalkContext.mk o exclusions' root).visits below name = true) (scope : List String)
    (content : Except OsError (List UInt8)) :
    Alike (walkNode ⟨o, exclusions, root⟩ below scope (.file name content))
      (walkNode ⟨o, exclusions', root⟩ below scope (.file name content)) := by
  obtain ⟨hhidden, hexcluded⟩ := WalkContext.of_visits h
  obtain ⟨_, hexcluded'⟩ := WalkContext.of_visits h'
  rw [walkNode, walkNode, if_neg hhidden, if_neg hhidden, if_neg hexcluded, if_neg hexcluded']
  refine .bind (alike_extractFile o scope _) fun handled ↦ ?_
  exact .of_modify fun h h' hagrees ↦ hagrees.add _ scope _ _

theorem alike_walkNode_directory {below : List String} {name : String}
    (h : (WalkContext.mk o exclusions root).visits below name = true)
    (h' : (WalkContext.mk o exclusions' root).visits below name = true) (scope : List String)
    (passed passed' : List (String × PassedReason)) {children children' : List ResourceNode}
    (hchildren : ∀ scope, Alike (walkNodes ⟨o, exclusions, root⟩ (below ++ [name]) scope children)
      (walkNodes ⟨o, exclusions', root⟩ (below ++ [name]) scope children')) :
    Alike (walkNode ⟨o, exclusions, root⟩ below scope (.directory name passed children))
      (walkNode ⟨o, exclusions', root⟩ below scope (.directory name passed' children')) := by
  obtain ⟨hhidden, hexcluded⟩ := WalkContext.of_visits h
  obtain ⟨_, hexcluded'⟩ := WalkContext.of_visits h'
  rw [walkNode, walkNode, if_neg hhidden, if_neg hhidden, if_neg hexcluded, if_neg hexcluded']
  simp only [WalkContext.className?]
  rcases identifier? (if o.lowercaseClasses then Unicode.lower name else name) with _ | className
  · exact .of_modify fun h h' hagrees ↦ hagrees.skip scope name .unsanitizable
  refine .bind (.of_modify fun h h' hagrees ↦ ?_) fun _ ↦ ?_
  · rw [hagrees.1]
    split_ifs
    · exact hagrees.skip scope name .mergedClass
    · exact hagrees
  refine .bind (.of_modify fun h h' hagrees ↦ hagrees.enter _) fun _ ↦ ?_
  refine .silent (agrees_foldl_log _ _ passed) (agrees_foldl_log _ _ passed') ?_
  exact hchildren (scope ++ [className])

theorem alike_of_not_visited (fs : FileSystem) (path : Path) {c : WalkContext} {below : List String}
    {e : String × Node} (hvisit : ¬ c.visits below e.1 = true) (scope : List String)
    {es : List (String × Node)} {m : Harvesting Unit}
    (hrest : Alike (walkNodes c below scope
      (es.filterMap fun e ↦ (fs.seeEntry path e.1 e.2).getRight?)) m) :
    Alike (walkNodes c below scope
      ((e :: es).filterMap fun e ↦ (fs.seeEntry path e.1 e.2).getRight?)) m := by
  rw [List.filterMap_cons]
  rcases hsee : fs.seeEntry path e.1 e.2 with reason | node
  · exact hrest
  · have hname : node.name = e.1 := (seeEntry_sorted fs path e.1 e.2 hsee).1
    obtain ⟨event, hlog⟩ := WalkContext.exists_walkNode_eq_log (hname ▸ hvisit) scope
    dsimp only [Sum.getRight?_inr]
    rw [walkNodes, hlog]
    exact Alike.silent_left (f := (·.log event)) (fun h ↦ ⟨rfl, rfl⟩) hrest

theorem alike_of_visited (fs fs' : FileSystem) (path path' : Path) {below names : List String}
    {e : String × Node} (hlink : ∀ target, e.2 ≠ .link target)
    (hvisit : (WalkContext.mk o exclusions root).visits below e.1 = true) (scope : List String)
    (hinside : ∀ scope,
      Alike (walkNodes ⟨o, exclusions, root⟩ (below ++ [e.1]) scope
          (seenNodes fs (path.join ⟨e.1⟩) e.2.entries))
        (walkNodes ⟨o, ⟨[]⟩, root⟩ (below ++ [e.1]) scope
          (seenNodes fs' (path'.join ⟨e.1⟩) (e.2.prune keep (names ++ [e.1])).entries)))
    {es es' : List (String × Node)}
    (hrest : Alike
      (walkNodes ⟨o, exclusions, root⟩ below scope
        (es.filterMap fun e ↦ (fs.seeEntry path e.1 e.2).getRight?))
      (walkNodes ⟨o, ⟨[]⟩, root⟩ below scope (es'.filterMap fun e ↦
        (fs'.seeEntry path' e.1 (e.2.prune keep (names ++ [e.1]))).getRight?))) :
    Alike
      (walkNodes ⟨o, exclusions, root⟩ below scope
        ((e :: es).filterMap fun e ↦ (fs.seeEntry path e.1 e.2).getRight?))
      (walkNodes ⟨o, ⟨[]⟩, root⟩ below scope ((e :: es').filterMap fun e ↦
        (fs'.seeEntry path' e.1 (e.2.prune keep (names ++ [e.1]))).getRight?)) := by
  rw [List.filterMap_cons, List.filterMap_cons]
  rcases e with ⟨name, content | inner | target | _⟩
  · rw [Node.prune_file, seeEntry, seeEntry]
    dsimp only [Sum.getRight?_inr]
    rw [walkNodes, walkNodes]
    exact .bind (alike_walkNode_file hvisit (visits_of_visits hvisit) scope _) fun _ ↦ hrest
  · obtain ⟨passed, hsee⟩ := seeEntry_directory fs path name inner
    obtain ⟨passed', hsee'⟩ := seeEntry_directory fs' path' name
      (Node.pruneEntries keep (names ++ [name]) inner)
    rw [Node.prune_directory] at hinside ⊢
    rw [hsee, hsee']
    dsimp only [Sum.getRight?_inr]
    rw [walkNodes, walkNodes]
    exact .bind (alike_walkNode_directory hvisit (visits_of_visits hvisit) scope passed passed'
      hinside) fun _ ↦ hrest
  · exact absurd rfl (hlink target)
  · rw [Node.prune_device, seeEntry, seeEntry]
    exact hrest

/-- **The walk of a pruned tree.** A walk with exclusions tells what a walk without any tells of the
tree that is left where the entries not visited are cut out. -/
theorem walkNodes_prune (fs fs' : FileSystem) {n : Node} (hwell : n.WellFormed)
    (hlinks : n.LinkFree) (below scope : List String) (path path' : Path)
    (hkeep : KeepsVisited o exclusions root keep below n) :
    Alike (walkNodes ⟨o, exclusions, root⟩ below scope (seenNodes fs path n.entries))
      (walkNodes ⟨o, ⟨[]⟩, root⟩ below scope
        (seenNodes fs' path' (n.prune keep (root ++ below)).entries)) := by
  induction n using Node.induction generalizing below scope path path' with
  | file content =>
    simp only [Node.prune_file, Node.entries, seenNodes_nil, walkNodes]
    exact .of_pure ()
  | link target =>
    simp only [Node.prune_link, Node.entries, seenNodes_nil, walkNodes]
    exact .of_pure ()
  | device =>
    simp only [Node.prune_device, Node.entries, seenNodes_nil, walkNodes]
    exact .of_pure ()
  | directory es ih =>
    rw [Node.prune_directory, Node.entries, Node.entries, seenNodes_eq,
      seenNodes_pruneEntries _ _ _ _ hwell.listable.nodup]
    -- The entries are met in one order, so the two walks are compared entry by entry.
    have hall : ∀ e ∈ sortByName es, e ∈ es := fun e he ↦ List.mem_mergeSort.mp he
    generalize sortByName es = sorted at hall
    induction sorted with
    | nil =>
      rw [List.filter_nil, List.filterMap_nil, List.filterMap_nil, walkNodes, walkNodes]
      exact .of_pure ()
    | cons e sorted ihs =>
      have hrest := ihs fun e' he' ↦ hall e' (List.mem_cons_of_mem _ he')
      have he : e ∈ es := hall e List.mem_cons_self
      have hfound := hwell.find?_of_mem he
      have hlink : ∀ target, e.2 ≠ .link target := fun target htarget ↦
        hlinks [e.1] target (by rw [Node.entryAt, hfound, htarget]; rfl)
      rw [List.filter_cons, hkeep.keep_of_mem hwell he]
      by_cases hvisit : (WalkContext.mk o exclusions root).visits below e.1 = true
      · rw [if_pos hvisit]
        refine alike_of_visited fs fs' path path' hlink hvisit scope (fun scope ↦ ?_) hrest
        rw [List.append_assoc root]
        exact ih e he (hwell.of_mem he) (hlinks.of_find? hfound) (below ++ [e.1]) scope
          (path.join ⟨e.1⟩) (path'.join ⟨e.1⟩) (hkeep.of_mem hwell he)
      · -- It is not in the other tree.
        rw [if_neg hvisit]
        exact alike_of_not_visited fs path hvisit scope hrest

end Prune

/-! ## What exclusions match

Exclusions are compared by components, where a path stays what it is if it cannot be made
canonical. A path with the components of an entry denotes it, unless something stands behind the
last name: the components do not show a slash or a `.` there, and the system asks for a
directory. -/

theorem excludes_ofPaths_iff {fs : FileSystem} {paths : List Path} {q : Path} :
    (Exclusions.ofPaths fs paths).excludes q = true ↔
      ∃ p ∈ paths, (fs.canonicalOrSame p).components = q.components := by
  rw [Exclusions.excludes, List.contains_iff_mem, Exclusions.ofPaths, List.mem_eraseDups,
    List.mem_map]

namespace Path

theorem isAbsolute_of_components {p : Path} {cs : List Component}
    (h : p.components = .root :: cs) : p.isAbsolute = true := by
  by_contra hrelative
  have hpart (s : String) : partComponent? s ≠ some .root := by
    unfold partComponent?
    split_ifs <;> exact nofun
  have hroot : Component.root ∈ p.markedParts.filterMap (·.2) := by
    rw [components, if_neg hrelative, List.nil_append] at h
    rw [h]
    exact List.mem_cons_self
  obtain ⟨⟨s, c⟩, hmem, hc⟩ := List.mem_filterMap.mp hroot
  rw [markedParts] at hmem
  split at hmem
  · rcases List.mem_cons.mp hmem with hfirst | hmem
    · cases hfirst
      dsimp only at hc
      split_ifs at hc
      cases hc
    · obtain ⟨t, _, ht⟩ := List.mem_map.mp hmem
      cases ht
      exact hpart _ hc
  · obtain ⟨t, _, ht⟩ := List.mem_map.mp hmem
    cases ht
    exact hpart _ hc

/-- A path with the components of names has these names and no `..`. -/
theorem names_of_components {p : Path} {names : List String}
    (h : p.components = .root :: names.map .name) :
    p.isAbsolute = true ∧ ".." ∉ p.parts ∧ p.names = names := by
  have habsolute := isAbsolute_of_components h
  rw [components_of_isAbsolute habsolute] at h
  have hparts := (List.cons.inj h).2
  have hup : ".." ∉ p.parts := by
    intro hmem
    have hin : Component.up ∈ p.parts.filterMap partComponent? :=
      List.mem_filterMap.mpr ⟨"..", hmem, by decide⟩
    rw [hparts] at hin
    obtain ⟨s, _, hs⟩ := List.mem_map.mp hin
    cases hs
  rw [filterMap_partComponent? hup] at hparts
  exact ⟨habsolute, hup, List.map_injective_iff.mpr (fun _ _ ↦ Component.name.inj) hparts⟩

end Path

namespace FileSystem

variable {fs : FileSystem} {root names : List String} {e : Node} {p : Path}

/-- Where a path has the components of an entry, it denotes the entry or overruns it. -/
theorem canonical_of_components (hwell : fs.root.WellFormed) (hroot : root <+: names)
    (hentry : fs.root.entryAt names = some e) (hlink : ∀ target, e ≠ .link target)
    (hp : ¬ fs.Overruns root p) (h : p.components = .root :: names.map .name) :
    fs.canonical p = .ok names := by
  obtain ⟨habsolute, hup, rfl⟩ := Path.names_of_components h
  have hentries := hwell.of_entryAt (by rw [hentry]; rfl)
  have hfits : ∀ s ∈ p.names, s.utf8ByteSize ≤ maxNameBytes := fun s hs ↦ (hentries s hs).2
  have husable : p.Usable := by
    refine Path.usable_iff.mpr ⟨fun s hs ↦ ?_, .inl habsolute⟩
    rcases hstep : PathStep.ofPart s with _ | _ | name
    · rcases PathStep.ofPart_eq_stay_iff.mp hstep with rfl | rfl <;> decide
    · exact absurd (PathStep.ofPart_eq_up_iff.mp hstep ▸ hs) hup
    · obtain ⟨rfl, _⟩ := PathStep.ofPart_eq_enter_iff.mp hstep
      exact (hentries s (List.mem_filter.mpr ⟨hs, decide_eq_true hstep⟩)).1.nul
  by_cases hdirectory : e = .emptyDirectory
  · exact canonical_of_directory husable habsolute hup hfits (hdirectory ▸ hentry)
  obtain ⟨front, s, hparts⟩ := (List.eq_nil_or_concat' p.parts).resolve_left p.parts_ne_nil
  rcases hstep : PathStep.ofPart s with _ | _ | name
  · exact absurd ⟨habsolute, hup, hroot, ⟨front, s, hparts, hstep⟩, e, hentry, hdirectory, hlink⟩ hp
  · exact absurd (by simp [hparts, PathStep.ofPart_eq_up_iff.mp hstep]) hup
  · obtain ⟨rfl, _⟩ := PathStep.ofPart_eq_enter_iff.mp hstep
    exact canonical_of_entry husable habsolute hup hfits hparts hstep hentry hlink

/-- An exclusion matches an entry if it denotes it, unless it overruns it. -/
theorem matches_iff_denotes (hwell : fs.root.WellFormed) (hroot : root <+: names)
    (hentry : fs.root.entryAt names = some e) (hlink : ∀ target, e ≠ .link target)
    (hp : ¬ fs.Overruns root p) :
    (fs.canonicalOrSame p).components = (Path.ofNames names).components ↔
      fs.denotes p names = true := by
  have hnames : ∀ s ∈ names, IsEntryName s := fun s hs ↦
    (hwell.of_entryAt (by rw [hentry]; rfl) s hs).1
  rw [Path.components_ofNames_of_isEntryName hnames, canonicalOrSame, denotes]
  rcases hcanonical : fs.canonical p with err | found
  · simp only [Bool.false_eq_true, iff_false]
    intro h
    cases hcanonical.symm.trans (canonical_of_components hwell hroot hentry hlink hp h)
  · have hfound : ∀ s ∈ found, IsEntryName s := fun s hs ↦
      (hwell.of_entryAt (isSome_entryAt_of_locate hcanonical) s hs).1
    simp only [Path.components_ofNames_of_isEntryName hfound, List.cons.injEq, true_and, beq_iff_eq]
    exact (List.map_injective_iff.mpr fun _ _ ↦ Component.name.inj).eq_iff

/-- What is no directory is nothing to stay in, so a path that overruns it leads nowhere. -/
theorem Overruns.canonical_ne (h : fs.Overruns root p) (found : List String) :
    fs.canonical p ≠ .ok found := by
  intro hfound
  obtain ⟨e, hentry, hne, hlink⟩ := h.entry
  obtain ⟨front, s, hparts, hstep⟩ := h.last
  have hfront : Path.namesIn front = p.names := by
    rw [Path.names, hparts, Path.namesIn_append, Path.namesIn_cons_of_stay hstep]
    exact (List.append_nil _).symm
  -- A link on the way would have nothing below it.
  have hlinks : ∀ q, q <+: Path.namesIn front → ∀ target,
      fs.root.entryAt ([] ++ q) ≠ some (.link target) := by
    rintro q ⟨below, hq⟩ target hthere
    rw [← hfront, ← hq] at hentry
    rw [List.nil_append] at hthere
    by_cases hbelow : below = []
    · rw [hbelow, List.append_nil] at hentry
      exact hlink target (Option.some.inj (hentry.symm.trans hthere))
    · cases hthere.symm.trans
        (Node.entryAt_eq_emptyDirectory_of_append hbelow (by rw [hentry]; rfl))
  have hway := (locate_eq_ok_iff.mp hfound).2
  rw [start, if_pos h.absolute, Path.steps, hparts, List.map_append, List.map_singleton,
    hstep] at hway
  obtain ⟨D, links, hreach, hstay⟩ := hway.cut (List.cons_ne_nil _ _)
  have hup : ".." ∉ front := fun hmem ↦
    h.straight (hparts ▸ List.mem_append_left _ hmem)
  have hD : D = p.names := (hreach.eq_append hlinks hup).trans hfront
  have hdirectory := hstay.directory (List.cons_ne_nil _ _)
  rw [hD, hentry] at hdirectory
  exact hne (Option.some.inj hdirectory)

theorem excludes_of_overruns {paths : List Path} (hmem : p ∈ paths) (h : fs.Overruns root p)
    (hwell : fs.root.WellFormed) : (∀ found, fs.canonical p ≠ .ok found) ∧
      (Exclusions.ofPaths fs paths).excludes (.ofNames p.names) = true := by
  obtain ⟨e, hentry, _⟩ := h.entry
  refine ⟨h.canonical_ne, excludes_ofPaths_iff.mpr ⟨p, hmem, ?_⟩⟩
  have hsame : fs.canonicalOrSame p = p := by
    rw [canonicalOrSame]
    rcases hcanonical : fs.canonical p with err | found
    · rfl
    · exact absurd hcanonical (h.canonical_ne found)
  have hnames : ∀ s ∈ p.names, IsEntryName s := fun s hs ↦
    (hwell.of_entryAt (by rw [hentry]; rfl) s hs).1
  rw [hsame, Path.components_ofNames_of_isEntryName hnames,
    Path.components_eq_names h.absolute h.straight]

end FileSystem

/-! ## Walks -/

theorem exists_walkResources_eq {fs : FileSystem} {resources : Path} {root : List String} {n : Node}
    (hroot : fs.canonical resources = .ok root) (hpath : fs.canonical (.ofNames root) = .ok root)
    (hn : fs.root.find? root = some n) (o : ExtractOptions) (exclusions : Exclusions) :
    ∃ passed, walkResources fs o exclusions resources =
      logPassed ⟨o, exclusions, root⟩ [] passed >>= fun _ ↦
        walkNodes ⟨o, exclusions, root⟩ [] [] (seenNodes fs (.ofNames root) n.entries) := by
  have hlist : fs.listResources (.ofNames root) =
      .ok (sortByName (fs.seeEntries (.ofNames root) n.entries)) := by
    rw [listResources, stat_eq_ok_iff.mpr ⟨root, hpath, hn⟩]
  rw [walkResources, hroot]
  dsimp only
  rw [hlist]
  exact ⟨_, rfl⟩

/-- A directory of resources without links, and exclusions that overrun nothing in it. -/
structure Walkable (fs : FileSystem) (resources : Path) (root : List String) (paths : List Path) :
    Prop where
  /-- The files are those of a system. -/
  wellFormed : fs.root.WellFormed
  /-- The path leads to the root. -/
  canonical : fs.canonical resources = .ok root
  /-- The root is a directory. -/
  directory : fs.root.entryAt root = some .emptyDirectory
  /-- It has no links in it. -/
  linkFree : ∀ below target, fs.root.entryAt (root ++ below) ≠ some (.link target)
  /-- No exclusion goes on behind a file. -/
  noOverrun : ∀ p ∈ paths, ¬ fs.Overruns root p

namespace Walkable

variable {fs other : FileSystem} {resources otherResources : Path} {root : List String}
  {paths : List Path}

theorem canonical_root (h : Walkable fs resources root paths) {fs' : FileSystem}
    (hdirectory : fs'.root.entryAt root = some .emptyDirectory) :
    fs'.canonical (.ofNames root) = .ok root := by
  have hnames := h.wellFormed.of_entryAt (by rw [h.directory]; rfl)
  exact canonical_ofNames (fun s hs ↦ (hnames s hs).1) (fun s hs ↦ (hnames s hs).2) hdirectory

theorem keepsVisited (h : Walkable fs resources root paths) {n : Node}
    (hn : fs.root.find? root = some n) (o : ExtractOptions) :
    KeepsVisited o (.ofPaths fs paths) root (fs.keeps paths) [] n := by
  intro more name hsome
  rw [List.nil_append]
  have hplace : fs.root.entryAt (root ++ (more ++ [name])) = n.entryAt (more ++ [name]) := by
    rw [Node.entryAt_append, hn, Option.bind_some]
  obtain ⟨e, he⟩ := Option.isSome_iff_exists.mp hsome
  have hentry := hplace.trans he
  have hlink : ∀ target, e ≠ .link target := fun target htarget ↦
    h.linkFree _ target (htarget ▸ hentry)
  have hexcludes : (Exclusions.ofPaths fs paths).excludes (.ofNames (root ++ (more ++ [name]))) =
      paths.any (fs.denotes · (root ++ (more ++ [name]))) := by
    rw [Bool.eq_iff_iff, excludes_ofPaths_iff, List.any_eq_true]
    exact exists_congr fun p ↦ and_congr_right fun hp ↦
      matches_iff_denotes h.wellFormed (List.prefix_append root _) hentry hlink (h.noOverrun p hp)
  have hlast : (root ++ (more ++ [name])).getLast? = some name := by
    rw [← List.append_assoc, List.getLast?_concat]
  rw [keeps, hlast, WalkContext.visits, WalkContext.path, hexcludes]
  rfl

theorem exists_prunedTree_eq (h : Walkable fs resources root paths) :
    ∃ es, fs.root.find? root = some (.directory es) ∧
      fs.prunedTree paths root =
        some (.directory (Node.pruneEntries (fs.keeps paths) root es)) := by
  obtain ⟨es, hes⟩ := Node.entryAt_eq_emptyDirectory_iff.mp h.directory
  refine ⟨es, hes, ?_⟩
  rw [prunedTree, hes, Option.map_some, Node.prune_directory]

/-- A walk tells what a walk without exclusions tells of the pruned tree, wherever that comes
from. -/
theorem alike_of_prunedTree (h : Walkable fs resources root paths)
    (hother : other.root.find? root = fs.prunedTree paths root)
    (hcanonical : other.canonical otherResources = .ok root) (o : ExtractOptions) :
    Alike (walkResources fs o (.ofPaths fs paths) resources)
      (walkResources other o (.ofPaths other []) otherResources) := by
  obtain ⟨es, hes, hpruned⟩ := h.exists_prunedTree_eq
  rw [hpruned] at hother
  have hdirectory : other.root.entryAt root = some .emptyDirectory :=
    Node.entryAt_eq_emptyDirectory_iff.mpr ⟨_, hother⟩
  obtain ⟨passed, hwalk⟩ := exists_walkResources_eq h.canonical (h.canonical_root h.directory) hes o
    (.ofPaths fs paths)
  obtain ⟨passed', hwalk'⟩ := exists_walkResources_eq hcanonical (h.canonical_root hdirectory)
    hother o (.ofPaths other [])
  rw [hwalk, hwalk']
  refine .silent (agrees_foldl_log _ _ passed) (agrees_foldl_log _ _ passed') ?_
  have hlinks : (Node.directory es).LinkFree := by
    intro below target hlink
    refine h.linkFree below target ?_
    rw [Node.entryAt_append, hes, Option.bind_some, hlink]
  have hwalks := walkNodes_prune fs other (h.wellFormed.of_find? hes) hlinks [] [] (.ofNames root)
    (.ofNames root) (h.keepsVisited hes o)
  rwa [List.append_nil, Node.prune_directory] at hwalks

theorem find?_pruned (h : Walkable fs resources root paths) :
    (fs.pruned paths root).root.find? root = fs.prunedTree paths root := by
  obtain ⟨es, hes, hpruned⟩ := h.exists_prunedTree_eq
  rw [pruned, hpruned]
  exact Node.find?_insert_self _ (by rw [hes]; rfl)

theorem alike_pruned (h : Walkable fs resources root paths) (o : ExtractOptions) :
    Alike (walkResources fs o (.ofPaths fs paths) resources)
      (walkResources (fs.pruned paths root) o (.ofPaths (fs.pruned paths root) [])
        (.ofNames root)) := by
  obtain ⟨es, _, hpruned⟩ := h.exists_prunedTree_eq
  refine h.alike_of_prunedTree h.find?_pruned (h.canonical_root ?_) o
  exact Node.entryAt_eq_emptyDirectory_iff.mpr ⟨_, h.find?_pruned.trans hpruned⟩

end Walkable

/-- **Hidden and excluded entries have no influence, and nothing else is left out.** A walk with
exclusions tells what a walk without any tells of the files from which the hidden and the denoted
entries below the root were cut out. So walks of two trees that differ in such entries only tell the
same. -/
theorem walkResources_exclusions {fs : FileSystem} {resources : Path} {root : List String}
    {paths : List Path} (h : Walkable fs resources root paths) (o : ExtractOptions) :
    Alike (walkResources fs o (.ofPaths fs paths) resources)
        (walkResources (fs.pruned paths root) o (.ofPaths (fs.pruned paths root) [])
          (.ofNames root)) ∧
      ∀ other otherResources, Walkable other otherResources root paths →
        other.prunedTree paths root = fs.prunedTree paths root →
        Alike (walkResources fs o (.ofPaths fs paths) resources)
          (walkResources other o (.ofPaths other paths) otherResources) := by
  refine ⟨h.alike_pruned o, fun other otherResources hother hpruned ↦ ?_⟩
  obtain ⟨es, _, htree⟩ := h.exists_prunedTree_eq
  -- Both walks tell what a walk of the one pruned tree tells.
  have hcanonical : (fs.pruned paths root).canonical (.ofNames root) = .ok root :=
    h.canonical_root (Node.entryAt_eq_emptyDirectory_iff.mpr ⟨_, h.find?_pruned.trans htree⟩)
  exact (h.alike_pruned o).trans
    (hother.alike_of_prunedTree (h.find?_pruned.trans hpruned.symm) hcanonical o).symm

/-! ### Trees with a hidden, an excluded and a plain entry -/

/-- A resources directory with a hidden file, a plain file and a directory with a file. -/
def mixedFiles (hidden below : List UInt8) : FileSystem where
  root := .directory [("r", .directory [(".h", .file hidden), ("a", .file []),
    ("x", .directory [("b.properties", .file below)])])]

/-- Exclusions of the directory, in another spelling, and of something that does not exist. -/
def mixedExclusions : List Path := [⟨"/r//x/."⟩, ⟨"/r/n/"⟩]

section Mixed

variable (hidden below : List UInt8)

theorem linkFree_mixedFiles : (mixedFiles hidden below).root.LinkFree := by
  have hx : (Node.directory [("b.properties", .file below)]).LinkFree :=
    Node.linkFree_directory (by simp [Node.linkFree_file])
  have hr : (Node.directory [(".h", .file hidden), ("a", .file []),
      ("x", .directory [("b.properties", .file below)])]).LinkFree :=
    Node.linkFree_directory (by simp [Node.linkFree_file, hx])
  exact Node.linkFree_directory (by simpa using hr)

theorem wellFormed_mixedFiles : (mixedFiles hidden below).root.WellFormed := by
  have hroot : Node.Listable ["r"] := by decide
  have hresources : Node.Listable [".h", "a", "x"] := by decide
  have hexcluded : Node.Listable ["b.properties"] := by decide
  have hx : (Node.directory [("b.properties", .file below)]).WellFormed :=
    Node.wellFormed_directory hexcluded (by simp [Node.wellFormed_file])
  have hr : (Node.directory [(".h", .file hidden), ("a", .file []),
      ("x", .directory [("b.properties", .file below)])]).WellFormed :=
    Node.wellFormed_directory hresources (by simp [Node.wellFormed_file, hx])
  exact Node.wellFormed_directory hroot (by simpa using hr)

theorem prunedTree_mixedFiles : (mixedFiles hidden below).prunedTree mixedExclusions ["r"] =
    some (.directory [("a", .file [])]) := by
  have hx : (mixedFiles hidden below).canonical ⟨"/r//x/."⟩ = .ok ["r", "x"] :=
    canonical_of_directory ⟨by decide, by decide⟩ (by decide) (by decide) (by decide) rfl
  have hn : (mixedFiles hidden below).canonical ⟨"/r/n/"⟩ = .error .notFound := by cbv
  have hkeeps (name : String) : (mixedFiles hidden below).keeps mixedExclusions ["r", name] =
      (!isHidden name && !("x" == name)) := by
    simp only [keeps, mixedExclusions, List.any_cons, List.any_nil, denotes, hx, hn]
    simp
  have hroot : (mixedFiles hidden below).root.find? ["r"] = some (.directory [(".h", .file hidden),
    ("a", .file []), ("x", .directory [("b.properties", .file below)])]) := rfl
  have hhidden : isHidden ".h" = true := by decide
  have hplain : isHidden "a" = false := by decide
  rw [prunedTree, hroot, Option.map_some, Node.prune_directory, Node.pruneEntries_eq]
  simp [hkeeps, hhidden, hplain]

theorem walkable_mixedFiles :
    Walkable (mixedFiles hidden below) ⟨"/r"⟩ ["r"] mixedExclusions := by
  refine ⟨wellFormed_mixedFiles hidden below, ?_, rfl,
    fun more ↦ linkFree_mixedFiles hidden below _, ?_⟩
  · exact canonical_of_directory ⟨by decide, by decide⟩ (by decide) (by decide) (by decide) rfl
  · intro p hp hoverruns
    obtain ⟨e, hentry, hne, _⟩ := hoverruns.entry
    rcases List.mem_cons.mp hp with rfl | hp
    · cases hentry
      exact hne rfl
    · cases List.mem_singleton.mp hp
      cases hentry

end Mixed

/-- A malformed file in the excluded directory goes unnoticed, in a walk that would stop at it. -/
theorem walkResources_exclusions_mixedFiles :
    Walkable (mixedFiles [1] [92, 117]) ⟨"/r"⟩ ["r"] mixedExclusions ∧
      Walkable (mixedFiles [] []) ⟨"/r"⟩ ["r"] mixedExclusions ∧
      Alike
        (walkResources (mixedFiles [1] [92, 117]) ⟨[.properties ⟨false⟩], false, false⟩
          (.ofPaths (mixedFiles [1] [92, 117]) mixedExclusions) ⟨"/r"⟩)
        (walkResources (mixedFiles [] []) ⟨[.properties ⟨false⟩], false, false⟩
          (.ofPaths (mixedFiles [] []) mixedExclusions) ⟨"/r"⟩) := by
  have hpruned := (prunedTree_mixedFiles [] []).trans (prunedTree_mixedFiles [1] [92, 117]).symm
  have h := walkable_mixedFiles [1] [92, 117]
  have hother := walkable_mixedFiles [] []
  exact ⟨h, hother, (walkResources_exclusions h _).2 _ _ hother hpruned⟩

/-! ### A file that is left out without being denoted -/

/-- A resources directory with one file. -/
def oneFile : FileSystem where
  root := .directory [("r", .directory [("a", .file [])])]

/-- **An overrun file.** The path `/r/a/` denotes nothing, and yet its exclusion leaves out the file
`/r/a`. -/
theorem overrun_file_left_out :
    oneFile.canonical ⟨"/r/a/"⟩ = .error .notDirectory ∧
      ¬ Alike (walkResources oneFile ⟨[], false, false⟩ (.ofPaths oneFile [⟨"/r/a/"⟩]) ⟨"/r"⟩)
        (walkResources (oneFile.pruned [⟨"/r/a/"⟩] ["r"]) ⟨[], false, false⟩
          (.ofPaths (oneFile.pruned [⟨"/r/a/"⟩] ["r"]) []) (.ofNames ["r"])) := by
  have hexcluded : walkResources oneFile ⟨[], false, false⟩ (.ofPaths oneFile [⟨"/r/a/"⟩]) ⟨"/r"⟩
      (.start "R") = .ok () ⟨.mk "R" [] [], [], [.excludedEntry ⟨"/r/a"⟩]⟩ := by cbv
  have hkept : oneFile.pruned [⟨"/r/a/"⟩] ["r"] = oneFile := by cbv
  have hwalked : walkResources oneFile ⟨[], false, false⟩ (.ofPaths oneFile []) (.ofNames ["r"])
      (.start "R") = .ok () ⟨.mk "R" [("a", .ofText "a" "/a")] [], [], []⟩ := by cbv
  refine ⟨by cbv, fun halike ↦ ?_⟩
  have hsame := halike (.start "R") (.start "R") (.refl _)
  rw [hkept, hexcluded, hwalked] at hsame
  rcases hsame with ⟨_, hagrees⟩
  cases hagrees.1

end JavaConstants
