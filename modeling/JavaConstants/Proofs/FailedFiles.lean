import JavaConstants.Proofs.Requests

/-!
# Files that cannot be read

A file is read to its end before anything is written. If reading it fails, in whatever way and at
whatever place, the classes and the skipped names are as they were before (`extractFile_error`);
only events may have been recorded.

A walk stops at the first file that fails. What it leaves is what the requests in front of this file
leave, as if neither the file nor anything behind it were there (`walkNodes_error`).
-/

namespace JavaConstants

/-! ## Steps that fail before they write

The condition is kept behind steps that write nothing and in front of steps that cannot fail. An
adapter is made of the first kind up to its last step, which is of the second. -/

/-- A step that leaves the classes and the skipped names alone if it stops the run. -/
def FailsClean {α : Type} (m : Harvesting α) : Prop :=
  ∀ h e h', m h = .error e h' → h'.Agrees h

namespace FailsClean

variable {α β : Type}

theorem of_pure (a : α) : FailsClean (pure a : Harvesting α) := nofun

theorem of_throw (e : Error) : FailsClean (throw e : Harvesting α) := by
  rintro h _ _ ⟨⟩
  exact .refl h

theorem of_modify (f : Harvest → Harvest) : FailsClean (modify f) := nofun

theorem bind_liftFile {x : Except Error α} {k : α → Harvesting β} (hk : ∀ a, FailsClean (k a)) :
    FailsClean (liftFile x >>= k) := by
  cases x with
  | error e => exact of_throw e
  | ok a => exact hk a

theorem bind_log (event : Event) {k : Unit → Harvesting β} (hk : FailsClean (k ())) :
    FailsClean (modify (·.log event) >>= k) := by
  intro h e h' hrun
  exact (hk (h.log event) e h' hrun).trans ⟨rfl, rfl⟩

theorem returning {m : Harvesting α} (hm : FailsClean m) (b : β) :
    FailsClean (m >>= fun _ ↦ pure b) := by
  intro h e h' hrun
  change EStateM.bind m (fun _ ↦ pure b) h = _ at hrun
  rw [EStateM.bind] at hrun
  split at hrun
  · cases hrun
  · rename_i hfail
    cases hrun
    exact hm h _ _ hfail

end FailsClean

/-! ## One file -/

/-- An adapter writes behind everything that may fail. -/
theorem failsClean_extract (a : FormatAdapter) (o : ExtractOptions) (scope : List String)
    (f : ResourceFile) : FailsClean (a.extract o scope f) := by
  cases a with
  | css p =>
    refine .bind_liftFile fun charset ↦ .bind_liftFile fun bytes ↦ ?_
    refine .bind_log _ (.bind_liftFile fun members ↦ ?_)
    exact .of_modify _
  | json p =>
    refine .bind_liftFile fun bytes ↦ .bind_liftFile fun value ↦ ?_
    cases value with
    | object members => exact .of_modify _
    | _ => exact .of_throw _
  | properties p =>
    refine .bind_liftFile fun bytes ↦ .bind_liftFile fun entries ↦ ?_
    exact .of_modify _

theorem failsClean_extractWith (o : ExtractOptions) (scope : List String) (f : ResourceFile)
    (adapters : List FormatAdapter) : FailsClean (extractWith o scope f adapters) := by
  induction adapters with
  | nil => exact .of_pure false
  | cons a adapters ih =>
    rw [extractWith]
    split_ifs
    · exact .bind_log _ ((failsClean_extract a o scope f).returning true)
    · exact ih

/-- Extraction fails if and only if the keys cannot be read, and then it fails in the same way. -/
theorem exists_extractFile_error_iff (o : ExtractOptions) (scope : List String) (f : ResourceFile)
    (h : Harvest) (e : Error) : (∃ h', extractFile o scope f h = .error e h') ↔
      ∃ a, o.handler? f.name = some a ∧ a.keys f = .error e := by
  have hperforms := extractWith_performs o scope f o.adapters h
  rw [extractFile, ExtractOptions.handler?]
  cases hhandler : o.adapters.find? fun a ↦ extension f.name = a.format.extension with
  | none =>
    rw [hhandler] at hperforms
    obtain ⟨h', hrun, -⟩ := hperforms
    rw [hrun]
    exact iff_of_false nofun nofun
  | some a =>
    rw [hhandler] at hperforms
    simp only [Option.some.injEq, exists_eq_left']
    cases hkeys : a.keys f with
    | error cause =>
      simp only [hkeys] at hperforms
      obtain ⟨h', hrun⟩ := hperforms
      rw [hrun]
      simp
    | ok keys =>
      simp only [hkeys] at hperforms
      obtain ⟨h', hrun, -⟩ := hperforms
      rw [hrun]
      exact iff_of_false nofun nofun

/-- A file that fails leaves the classes and the skipped names as they were. It fails in its
adapter, as reading its keys does. -/
theorem extractFile_error {o : ExtractOptions} {scope : List String} {f : ResourceFile}
    {h h' : Harvest} {e : Error} (hrun : extractFile o scope f h = .error e h') :
    h'.root = h.root ∧ h'.skipped = h.skipped ∧
      ∃ a, o.handler? f.name = some a ∧ a.keys f = .error e := by
  have hclean : h'.Agrees h := failsClean_extractWith o scope f o.adapters h e h' hrun
  exact ⟨hclean.1, hclean.2, (exists_extractFile_error_iff o scope f h e).mp ⟨h', hrun⟩⟩

/-- An escape that breaks off in the second line of a bundle's file: neither the key in front of it
nor the class of the bundle is written. -/
theorem extractFile_error_brokenEscape :
    ∃ e h', extractFile { adapters := [.properties { writeResourceBundle := true }] } []
        ⟨⟨"/res/strings_en.properties"⟩, "strings_en.properties", .ok (utf8Bytes "k=v\nj=\\u12")⟩
        ((Harvest.start "R").add false [] "a" "/a.txt") = .error e h' ∧
      h'.root = ((Harvest.start "R").add false [] "a" "/a.txt").root ∧ h'.skipped = [] := by
  have hrun : ∃ h', extractFile { adapters := [.properties { writeResourceBundle := true }] } []
      ⟨⟨"/res/strings_en.properties"⟩, "strings_en.properties", .ok (utf8Bytes "k=v\nj=\\u12")⟩
      ((Harvest.start "R").add false [] "a" "/a.txt") =
        .error (.resource ⟨"/res/strings_en.properties"⟩ (.properties ⟨2⟩)) h' := ⟨_, by cbv⟩
  obtain ⟨h', hrun⟩ := hrun
  obtain ⟨hroot, hskipped, -⟩ := extractFile_error hrun
  exact ⟨_, h', hrun, hroot, hskipped⟩

/-! ## Walks that stop -/

/-- `c.StopsAt below scope nodes rs e`: the entries have the requests `rs` in front of a file that
fails with `e`. -/
inductive WalkContext.StopsAt (c : WalkContext) :
    List String → List String → List ResourceNode → List Request → Error → Prop where
  /-- At the file itself nothing has been asked for. -/
  | file {below scope : List String} {name : String} {content : Except OsError (List UInt8)}
    {nodes : List ResourceNode} {e : Error} (hvisits : c.visits below name = true)
    (hkeys : c.options.keyRequests scope ⟨c.path (below ++ [name]), name, content⟩ = .error e) :
    StopsAt c below scope (.file name content :: nodes) [] e
  /-- The class of a directory is asked for in front of its children. -/
  | inside {below scope : List String} {name n : String} {passed : List (String × PassedReason)}
    {children nodes : List ResourceNode} {rs : List Request} {e : Error}
    (hvisits : c.visits below name = true) (hclass : c.className? name = some n)
    (hchildren : StopsAt c (below ++ [name]) (scope ++ [n]) children rs e) :
    StopsAt c below scope (.directory name passed children :: nodes)
      (.directory scope name :: rs) e
  /-- An entry that does not fail is asked for whole. -/
  | behind {below scope : List String} {node : ResourceNode} {nodes : List ResourceNode}
    {first rs : List Request} {e : Error} (hnode : c.nodeRequests below scope node = .ok first)
    (hnodes : StopsAt c below scope nodes rs e) :
    StopsAt c below scope (node :: nodes) (first ++ rs) e

/-- A step that performs requests and then stops the run. -/
def FailsBehind {α : Type} (o : ExtractOptions) (m : Harvesting α) (rs : List Request) (e : Error) :
    Prop :=
  ∀ h, ∃ h', m h = .error e h' ∧ h'.Agrees (rs.foldl (Request.perform o) h)

namespace FailsBehind

variable {α β : Type} {o : ExtractOptions} {rs rs' : List Request} {e : Error}

theorem bind {m : Harvesting α} (hm : FailsBehind o m rs e) (k : α → Harvesting β) :
    FailsBehind o (m >>= k) rs e := by
  intro h
  obtain ⟨h', hrun, hagrees⟩ := hm h
  refine ⟨h', ?_, hagrees⟩
  change EStateM.bind m k h = _
  rw [EStateM.bind, hrun]

theorem behind {m : Harvesting α} {a : α} (hm : Performs o m a (.ok rs)) {k : α → Harvesting β}
    (hk : FailsBehind o (k a) rs' e) : FailsBehind o (m >>= k) (rs ++ rs') e := by
  intro h
  obtain ⟨h₁, hrun₁, hagrees₁⟩ := hm h
  obtain ⟨h₂, hrun₂, hagrees₂⟩ := hk h₁
  refine ⟨h₂, ?_, ?_⟩
  · change EStateM.bind m k h = _
    rw [EStateM.bind, hrun₁]
    exact hrun₂
  · rw [List.foldl_append]
    exact hagrees₂.trans (hagrees₁.foldl_perform o rs')

end FailsBehind

namespace WalkContext

variable {c : WalkContext} {below scope : List String} {nodes : List ResourceNode} {e : Error}

theorem StopsAt.failsBehind {rs : List Request} (hstops : c.StopsAt below scope nodes rs e) :
    FailsBehind c.options (walkNodes c below scope nodes) rs e := by
  induction hstops with
  | @file below scope name content nodes e hvisits hkeys =>
    obtain ⟨hhidden, hexcluded⟩ := of_visits hvisits
    rw [walkNodes, walkNode, if_neg hhidden, if_neg hexcluded]
    -- what comes behind the file is not run, whatever it is
    refine FailsBehind.bind (FailsBehind.bind ?_ _) _
    intro h
    have hperforms := extractWith_performs c.options scope
      ⟨c.path (below ++ [name]), name, content⟩ c.options.adapters h
    rw [ExtractOptions.keyRequests, ExtractOptions.handler?] at hkeys
    simp only [hkeys] at hperforms
    obtain ⟨h', hrun⟩ := hperforms
    exact ⟨h', hrun, failsClean_extractWith _ _ _ _ h e h' hrun⟩
  | @inside below scope name n passed children nodes rs e hvisits hclass _ ih =>
    obtain ⟨hhidden, hexcluded⟩ := of_visits hvisits
    -- what a walk writes when it enters a directory is what the request for its class writes
    have hopen (h : Harvest) : (Request.directory scope name).perform c.options h =
        (if h.root.hasNestedAt scope n then h.skip scope name .mergedClass else h).enter
          (scope ++ [n]) := by
      rw [Request.perform, ← className?_eq, hclass]
    rw [walkNodes, walkNode, if_neg hhidden, if_neg hexcluded, hclass]
    refine FailsBehind.bind ?_ _
    simp only [modify_bind_modify, ← hopen]
    have hdirectory : Performs c.options
        (modify fun h ↦ (Request.directory scope name).perform c.options h) ()
        (.ok [.directory scope name]) := Performs.of_modify fun h ↦ .refl _
    have hpassed : Performs c.options (logPassed c (below ++ [name]) passed) () (.ok []) :=
      Performs.of_modify (agrees_foldl_log c (below ++ [name]) passed)
    exact .behind hdirectory (.behind hpassed ih)
  | @behind below scope node nodes first rs e hnode _ ih =>
    have hperforms := walkNode_performs c below scope node
    rw [hnode] at hperforms
    rw [walkNodes]
    exact ih.behind hperforms

theorem exists_stopsAt_cons {node : ResourceNode}
    (hnode : c.nodeRequests below scope node = .error e →
      ∃ rs, c.StopsAt below scope (node :: nodes) rs e)
    (hnodes : c.nodesRequests below scope nodes = .error e → ∃ rs, c.StopsAt below scope nodes rs e)
    (hfails : c.nodesRequests below scope (node :: nodes) = .error e) :
    ∃ rs, c.StopsAt below scope (node :: nodes) rs e := by
  rw [nodesRequests] at hfails
  cases hfirst : c.nodeRequests below scope node with
  | error cause =>
    rw [hfirst] at hfails
    cases hfails
    exact hnode hfirst
  | ok first =>
    rw [hfirst] at hfails
    cases hrest : c.nodesRequests below scope nodes with
    | error cause =>
      rw [hrest] at hfails
      cases hfails
      obtain ⟨rs, hrs⟩ := hnodes hrest
      exact ⟨first ++ rs, .behind hfirst hrs⟩
    | ok rest =>
      rw [hrest] at hfails
      cases hfails

theorem exists_stopsAt (hfails : c.nodesRequests below scope nodes = .error e) :
    ∃ rs, c.StopsAt below scope nodes rs e := by
  induction nodes using ResourceNode.induction generalizing below scope with
  | nil => cases hfails
  | file name content nodes ih =>
    refine exists_stopsAt_cons (fun hnode ↦ ?_) ih hfails
    rw [nodeRequests, fileRequests] at hnode
    split_ifs at hnode with hvisits
    · cases hkeys : c.options.keyRequests scope ⟨c.path (below ++ [name]), name, content⟩ with
      | ok keys =>
        rw [hkeys] at hnode
        cases hnode
      | error cause =>
        rw [hkeys] at hnode
        cases hnode
        exact ⟨[], .file hvisits hkeys⟩
    · cases hnode
  | directory name passed children nodes ihc ih =>
    refine exists_stopsAt_cons (fun hnode ↦ ?_) ih hfails
    rw [nodeRequests] at hnode
    split_ifs at hnode with hvisits
    · cases hclass : c.className? name with
      | none =>
        rw [hclass] at hnode
        cases hnode
      | some n =>
        rw [hclass] at hnode
        cases hchildren : c.nodesRequests (below ++ [name]) (scope ++ [n]) children with
        | ok rs =>
          simp only [hchildren] at hnode
          cases hnode
        | error cause =>
          simp only [hchildren] at hnode
          cases hnode
          obtain ⟨rs, hrs⟩ := ihc hchildren
          exact ⟨_, .inside hvisits hclass hrs⟩
    · cases hnode
  | linkedDirectory name nodes ih =>
    refine exists_stopsAt_cons (fun hnode ↦ ?_) ih hfails
    rw [nodeRequests] at hnode
    split_ifs at hnode
    · cases hnode
    · cases hnode

/-- A walk that fails stops at a file. It leaves what the requests in front of this file leave, and
nothing of the file itself. -/
theorem walkNodes_error {h h' : Harvest} (hrun : walkNodes c below scope nodes h = .error e h') :
    ∃ rs, c.StopsAt below scope nodes rs e ∧
      h'.Agrees (rs.foldl (Request.perform c.options) h) := by
  have hperforms := walkNodes_performs c nodes below scope h
  cases hrequests : c.nodesRequests below scope nodes with
  | ok rs =>
    rw [hrequests] at hperforms
    obtain ⟨h₁, hok, -⟩ := hperforms
    cases hrun.symm.trans hok
  | error cause =>
    rw [hrequests] at hperforms
    obtain ⟨h₁, hfail⟩ := hperforms
    cases hrun.symm.trans hfail
    obtain ⟨rs, hstops⟩ := exists_stopsAt hrequests
    obtain ⟨h₂, hfail₂, hagrees⟩ := hstops.failsBehind h
    cases hrun.symm.trans hfail₂
    exact ⟨rs, hstops, hagrees⟩

end WalkContext

end JavaConstants
