import JavaConstants.Proofs.FirstWriter
import JavaConstants.Proofs.Results
import JavaConstants.Resource.Walk

/-!
# What a walk asks for

A walk never looks into the class tree to decide where it goes. What it asks of the tree is
therefore a list that the resource tree determines alone. The walk of some entries fails exactly as
the reading of their files does, and otherwise leaves the classes and the skipped names that
carrying out the requests in their order leaves (`walkNodes_performs`).

A request names what is found in the file system, before any repair. `Request.action?` is the
insertion it comes to, if its name has a repair; nothing else changes the tree
(`root_foldl_perform`).

Where all files can be read, the requests follow from rules with one case for each way an entry is
met (`WalkContext.AsksFor`), and facts about them are shown by induction on these rules.
-/

namespace JavaConstants

/-! ## Requests -/

namespace ExtractOptions

/-- The class that a directory or a bundle stands for: its name, in lower case if asked for,
repaired. -/
def className? (o : ExtractOptions) (name : String) : Option String :=
  identifier? (if o.lowercaseClasses then Unicode.lower name else name)

/-- The constant that a name stands for: the name, in upper case if asked for, repaired. -/
def fieldName? (o : ExtractOptions) (name : String) : Option String :=
  identifier? (if o.uppercaseFields then Unicode.upper name else name)

/-- The adapter that knows a file. -/
def handler? (o : ExtractOptions) (fileName : String) : Option FormatAdapter :=
  o.adapters.find? fun a ↦ extension fileName = a.format.extension

end ExtractOptions

theorem WalkContext.className?_eq (c : WalkContext) (directory : String) :
    c.className? directory = c.options.className? directory := rfl

/-- What a walk asks of the class at a scope. -/
inductive Request where
  /-- A class for a directory. -/
  | directory (scope : List String) (name : String)
  /-- Nothing, for a link to a directory. -/
  | linkedDirectory (scope : List String) (name : String)
  /-- A class for a bundle. -/
  | bundle (scope : List String) (name : String)
  /-- A constant with a value. -/
  | constant (scope : List String) (name value : String)
  deriving DecidableEq, Repr

namespace Request

/-- The insertion that a request comes to. -/
def action? (o : ExtractOptions) : Request → Option Action
  | directory scope name => (o.className? name).map (.opening scope)
  | linkedDirectory _ _ => none
  | bundle scope name => (o.className? name).map (.opening scope)
  | constant scope name value => (o.fieldName? name).map fun n ↦ .offering scope (.ofText n value)

/-- Carries out a request. -/
def perform (o : ExtractOptions) (h : Harvest) : Request → Harvest
  | directory scope name =>
    match o.className? name with
    | none => h.skip scope name .unsanitizable
    | some n =>
      (if h.root.hasNestedAt scope n then h.skip scope name .mergedClass else h).enter
        (scope ++ [n])
  | linkedDirectory scope name => h.skip scope name .linkedDirectory
  | bundle scope name =>
    match o.className? name with
    | none => h.skip scope (if o.lowercaseClasses then Unicode.lower name else name) .unsanitizable
    | some n => h.enter (scope ++ [n])
  | constant scope name value => h.add o.uppercaseFields scope name value

end Request

/-! ## The requests of a walk -/

namespace FormatAdapter

/-- The keys that an adapter reads from a file. -/
def keys (a : FormatAdapter) (f : ResourceFile) : Except Error (List String) :=
  match a with
  | .css o => do
    let charset ← o.charset?
    let bytes ← f.read
    let members ← (Stylesheet.selectorMembers (String.ofList (charset.decode bytes))).mapError
      (f.broken <| .css ·)
    pure (o.keys members)
  | .json o => do
    let bytes ← f.read
    let value ← (Json.parse bytes).mapError (f.broken <| .json ·)
    match value with
    | .object members => pure (Json.keysOfMembers o members)
    | _ => throw (f.broken .jsonRoot)
  | .properties _ => do
    let bytes ← f.read
    let entries ← (Properties.parse (String.ofList (Properties.decode bytes))).mapError
      (f.broken <| .properties ·)
    pure (entries.map (·.1))

/-- The bundle whose class the keys of a file go to. -/
def bundle? : FormatAdapter → String → Option String
  | .properties o, fileName => if o.writeResourceBundle then bundleName? fileName else none
  | _, _ => none

/-- The requests for the keys of a file: into the class at the scope or into that of a bundle. A
bundle without a class takes the keys with it. -/
def requests (a : FormatAdapter) (o : ExtractOptions) (scope : List String) (fileName : String)
    (keys : List String) : List Request :=
  match a.bundle? fileName with
  | none => keys.map fun key ↦ .constant scope key key
  | some bundle =>
    .bundle scope bundle ::
      match o.className? bundle with
      | none => []
      | some n => keys.map fun key ↦ .constant (scope ++ [n]) key key

end FormatAdapter

/-- The requests for the keys of a file that an adapter may know. -/
def ExtractOptions.keyRequests (o : ExtractOptions) (scope : List String) (f : ResourceFile) :
    Except Error (List Request) :=
  match o.handler? f.name with
  | none => pure []
  | some a => do
    let keys ← a.keys f
    pure (a.requests o scope f.name keys)

namespace WalkContext

/-- Whether an entry is neither hidden nor excluded. -/
def visits (c : WalkContext) (below : List String) (name : String) : Bool :=
  !isHidden name && !c.exclusions.excludes (c.path (below ++ [name]))

theorem of_visits {c : WalkContext} {below : List String} {name : String}
    (h : c.visits below name = true) :
    ¬ isHidden name = true ∧ ¬ c.exclusions.excludes (c.path (below ++ [name])) = true := by
  rw [visits, Bool.and_eq_true] at h
  exact ⟨by simpa using h.1, by simpa using h.2⟩

/-- The requests for a file: its keys, then its path. -/
def fileRequests (c : WalkContext) (below scope : List String) (name : String)
    (content : Except OsError (List UInt8)) : Except Error (List Request) := do
  let keys ← c.options.keyRequests scope ⟨c.path (below ++ [name]), name, content⟩
  pure (keys ++ [.constant scope (pathName (c.options.handler? name).isSome name)
    (pathValue (below ++ [name]))])

mutual

/-- The requests for an entry and everything below it. -/
def nodeRequests (c : WalkContext) (below scope : List String) :
    ResourceNode → Except Error (List Request)
  | .directory name _ children =>
    if c.visits below name then
      match c.className? name with
      | none => pure [.directory scope name]
      | some n => do
        let requests ← nodesRequests c (below ++ [name]) (scope ++ [n]) children
        pure (.directory scope name :: requests)
    else pure []
  | .linkedDirectory name =>
    if c.visits below name then pure [.linkedDirectory scope name] else pure []
  | .file name content =>
    if c.visits below name then c.fileRequests below scope name content else pure []

/-- The requests for entries in their order. -/
def nodesRequests (c : WalkContext) (below scope : List String) :
    List ResourceNode → Except Error (List Request)
  | [] => pure []
  | node :: nodes => do
    let first ← nodeRequests c below scope node
    let rest ← nodesRequests c below scope nodes
    pure (first ++ rest)

end

/-- `c.AsksFor below scope nodes rs`: all files that a walk of the entries meets can be read, and
the walk asks for `rs`. -/
inductive AsksFor (c : WalkContext) :
    List String → List String → List ResourceNode → List Request → Prop where
  | nil {below scope : List String} : AsksFor c below scope [] []
  /-- What is hidden or excluded is not asked for. -/
  | unvisited {below scope : List String} {node : ResourceNode} {nodes : List ResourceNode}
    {rs : List Request} (hvisits : c.visits below node.name = false)
    (hnodes : AsksFor c below scope nodes rs) : AsksFor c below scope (node :: nodes) rs
  | file {below scope : List String} {name : String} {content : Except OsError (List UInt8)}
    {nodes : List ResourceNode} {own rs : List Request} (hvisits : c.visits below name = true)
    (hfile : c.fileRequests below scope name content = .ok own)
    (hnodes : AsksFor c below scope nodes rs) :
    AsksFor c below scope (.file name content :: nodes) (own ++ rs)
  /-- A directory that stands for no class takes its children with it. -/
  | unnamed {below scope : List String} {name : String} {passed : List (String × PassedReason)}
    {children nodes : List ResourceNode} {rs : List Request}
    (hvisits : c.visits below name = true) (hclass : c.className? name = none)
    (hnodes : AsksFor c below scope nodes rs) :
    AsksFor c below scope (.directory name passed children :: nodes) (.directory scope name :: rs)
  /-- The class of a directory is asked for in front of its children. -/
  | directory {below scope : List String} {name n : String} {passed : List (String × PassedReason)}
    {children nodes : List ResourceNode} {inside rs : List Request}
    (hvisits : c.visits below name = true) (hclass : c.className? name = some n)
    (hchildren : AsksFor c (below ++ [name]) (scope ++ [n]) children inside)
    (hnodes : AsksFor c below scope nodes rs) :
    AsksFor c below scope (.directory name passed children :: nodes)
      (.directory scope name :: (inside ++ rs))
  | linkedDirectory {below scope : List String} {name : String} {nodes : List ResourceNode}
    {rs : List Request} (hvisits : c.visits below name = true)
    (hnodes : AsksFor c below scope nodes rs) :
    AsksFor c below scope (.linkedDirectory name :: nodes) (.linkedDirectory scope name :: rs)

end WalkContext

/-! ## Carrying out requests -/

/-- Harvests that differ in their events at most. -/
def Harvest.Agrees (h h' : Harvest) : Prop := h.root = h'.root ∧ h.skipped = h'.skipped

namespace Harvest.Agrees

theorem refl (h : Harvest) : h.Agrees h := ⟨rfl, rfl⟩

theorem trans {h₁ h₂ h₃ : Harvest} (h : h₁.Agrees h₂) (h' : h₂.Agrees h₃) : h₁.Agrees h₃ :=
  ⟨h.1.trans h'.1, h.2.trans h'.2⟩

theorem skip {h h' : Harvest} (hh : h.Agrees h') (scope : List String) (name : String)
    (reason : SkipReason) : (h.skip scope name reason).Agrees (h'.skip scope name reason) := by
  refine ⟨hh.1, ?_⟩
  rw [Harvest.skip, Harvest.skip, hh.1, hh.2]

theorem enter {h h' : Harvest} (hh : h.Agrees h') (scope : List String) :
    (h.enter scope).Agrees (h'.enter scope) := by
  refine ⟨?_, hh.2⟩
  rw [Harvest.enter, Harvest.enter, hh.1]

theorem add {h h' : Harvest} (hh : h.Agrees h') (uppercase : Bool) (scope : List String)
    (name value : String) :
    (h.add uppercase scope name value).Agrees (h'.add uppercase scope name value) := by
  rw [Harvest.add, Harvest.add, hh.1]
  cases identifier? (if uppercase then Unicode.upper name else name) with
  | none => exact hh.skip _ _ _
  | some field =>
    by_cases hfield : h'.root.hasFieldAt scope field
    · simp only [if_pos hfield]
      exact hh.skip _ _ _
    · simp only [if_neg hfield]
      exact ⟨rfl, hh.2⟩

theorem perform {h h' : Harvest} (hh : h.Agrees h') (o : ExtractOptions) (r : Request) :
    (r.perform o h).Agrees (r.perform o h') := by
  cases r with
  | directory scope name =>
    rw [Request.perform, Request.perform, hh.1]
    cases o.className? name with
    | none => exact hh.skip _ _ _
    | some n =>
      refine enter ?_ _
      split
      · exact hh.skip _ _ _
      · exact hh
  | linkedDirectory scope name => exact hh.skip _ _ _
  | bundle scope name =>
    rw [Request.perform, Request.perform]
    cases o.className? name with
    | none => exact hh.skip _ _ _
    | some n => exact hh.enter _
  | constant scope name value => exact hh.add _ _ _ _

theorem foldl_perform {h h' : Harvest} (hh : h.Agrees h') (o : ExtractOptions)
    (rs : List Request) :
    (rs.foldl (Request.perform o) h).Agrees (rs.foldl (Request.perform o) h') := by
  induction rs generalizing h h' with
  | nil => exact hh
  | cons r rs ih => exact ih (hh.perform o r)

end Harvest.Agrees

/-- A request changes the class tree by the insertion it comes to. -/
theorem Request.root_perform (o : ExtractOptions) (r : Request) (h : Harvest) :
    (r.perform o h).root = (r.action? o).elim h.root (·.apply h.root) := by
  cases r with
  | directory scope name =>
    rw [perform, action?]
    cases o.className? name with
    | none => rfl
    | some n => simp only; split <;> rfl
  | linkedDirectory scope name => rfl
  | bundle scope name =>
    rw [perform, action?]
    cases o.className? name <;> rfl
  | constant scope name value =>
    rw [perform, action?, Harvest.add, ExtractOptions.fieldName?]
    cases identifier? (if o.uppercaseFields then Unicode.upper name else name) with
    | none => rfl
    | some n =>
      by_cases hfield : h.root.hasFieldAt scope n
      · -- The name is taken and skipped, as the insertion leaves the tree alone.
        simp only [if_pos hfield]
        exact (ClassNode.addFieldAt_eq_self hfield).symm
      · simp only [if_neg hfield]
        rfl

theorem root_foldl_perform (o : ExtractOptions) (rs : List Request) (h : Harvest) :
    (rs.foldl (Request.perform o) h).root = replay (rs.filterMap (·.action? o)) h.root := by
  induction rs generalizing h with
  | nil => rfl
  | cons r rs ih =>
    rw [List.foldl_cons, ih, Request.root_perform, List.filterMap_cons]
    cases r.action? o <;> rfl

/-! ## Steps

A step performs some requests if it leaves what carrying them out leaves, and fails as the reading
does that they are known from (`Performs`). Steps in a row perform requests in a row, so each
function of a walk is taken apart once, along its own lines. -/

/-- `Performs o m a r`: the step `m` stops with the failure of `r`, or returns `a` and leaves what
carrying out the requests of `r` leaves. -/
def Performs {α : Type} (o : ExtractOptions) (m : Harvesting α) (a : α)
    (r : Except Error (List Request)) : Prop :=
  ∀ h, match r with
    | .ok rs => ∃ h', m h = .ok a h' ∧ h'.Agrees (rs.foldl (Request.perform o) h)
    | .error e => ∃ h', m h = .error e h'

namespace Performs

variable {α β : Type} {o : ExtractOptions}

theorem of_pure (a : α) : Performs o (pure a) a (.ok []) := fun h ↦ ⟨h, rfl, .refl h⟩

theorem of_modify {f : Harvest → Harvest} {rs : List Request}
    (hf : ∀ h, (f h).Agrees (rs.foldl (Request.perform o) h)) :
    Performs o (modify f) () (.ok rs) := fun h ↦ ⟨f h, rfl, hf h⟩

theorem of_throw (a : α) (e : Error) : Performs o (throw e) a (.error e) := fun h ↦ ⟨h, rfl⟩

theorem exists_of_ok {m : Harvesting α} {a b : α} {r : Except Error (List Request)}
    (hm : Performs o m a r) {h h' : Harvest} (hrun : m h = .ok b h') :
    ∃ rs, r = .ok rs ∧ b = a ∧ h'.Agrees (rs.foldl (Request.perform o) h) := by
  have hm := hm h
  cases r with
  | error e =>
    obtain ⟨h₁, hfail⟩ := hm
    cases hrun.symm.trans hfail
  | ok rs =>
    obtain ⟨h₁, hok, hagrees⟩ := hm
    cases hrun.symm.trans hok
    exact ⟨rs, rfl, rfl, hagrees⟩

theorem bind {m : Harvesting α} {k : α → Harvesting β} {a : α} {b : β}
    {r r' : Except Error (List Request)} (hm : Performs o m a r) (hk : Performs o (k a) b r') :
    Performs o (m >>= k) b (do let rs ← r; let rs' ← r'; pure (rs ++ rs')) := by
  intro h
  cases r with
  | error e =>
    obtain ⟨h₁, hm⟩ := hm h
    refine ⟨h₁, ?_⟩
    change EStateM.bind m k h = _
    rw [EStateM.bind, hm]
  | ok rs =>
    obtain ⟨h₁, hm, hrs⟩ := hm h
    have hrun : (m >>= k) h = k a h₁ := by
      change EStateM.bind m k h = _
      rw [EStateM.bind, hm]
    cases r' with
    | error e =>
      obtain ⟨h₂, hk⟩ := hk h₁
      exact ⟨h₂, hrun.trans hk⟩
    | ok rs' =>
      obtain ⟨h₂, hk, hrs'⟩ := hk h₁
      refine ⟨h₂, hrun.trans hk, hrs'.trans ?_⟩
      rw [List.foldl_append]
      exact hrs.foldl_perform o rs'

theorem silent {f : Harvest → Harvest} (hf : ∀ h, (f h).Agrees h) {k : Unit → Harvesting β} {b : β}
    {r : Except Error (List Request)} (hk : Performs o (k ()) b r) :
    Performs o (modify f >>= k) b r := by
  have hsilent : Performs o (modify f) () (.ok []) := of_modify hf
  have h := hsilent.bind hk
  cases r <;> exact h

theorem bind_log (e : Event) {k : Unit → Harvesting β} {b : β} {r : Except Error (List Request)}
    (hk : Performs o (k ()) b r) : Performs o (modify (·.log e) >>= k) b r :=
  silent (f := (·.log e)) (fun _ ↦ ⟨rfl, rfl⟩) hk

theorem returning {m : Harvesting α} {a : α} {r : Except Error (List Request)}
    (hm : Performs o m a r) (b : β) : Performs o (m >>= fun _ ↦ pure b) b r := by
  have h := hm.bind (k := fun _ ↦ pure b) (of_pure b)
  cases r with
  | error e => exact h
  | ok rs =>
    rw [← List.append_nil rs]
    exact h

theorem modify_bind {f : Harvest → Harvest} {q : Request} (hf : ∀ h, (f h).Agrees (q.perform o h))
    {m : Harvesting β} {b : β} {r : Except Error (List Request)} (hm : Performs o m b r) :
    Performs o (modify f >>= fun _ ↦ m) b (do let rs ← r; pure (q :: rs)) := by
  have hq : Performs o (modify f) () (.ok [q]) := of_modify hf
  have h := hq.bind (k := fun _ ↦ m) hm
  cases r <;> exact h

theorem bind_modify {m : Harvesting α} {a : α} {r : Except Error (List Request)}
    (hm : Performs o m a r) {f : α → Harvest → Harvest} {q : Request}
    (hf : ∀ h, (f a h).Agrees (q.perform o h)) :
    Performs o (m >>= fun a ↦ modify (f a)) () (do let rs ← r; pure (rs ++ [q])) := by
  have hq : Performs o (modify (f a)) () (.ok [q]) := of_modify hf
  have h := hm.bind (k := fun a ↦ modify (f a)) hq
  cases r <;> exact h

/-- What reading a file gives may decide on the requests. -/
theorem bind_liftFile {x : Except Error α} {k : α → Harvesting β} {b : β}
    {r : α → Except Error (List Request)} (hk : ∀ a, Performs o (k a) b (r a)) :
    Performs o (liftFile x >>= k) b (x >>= r) := by
  cases x with
  | error e => exact fun h ↦ ⟨h, rfl⟩
  | ok a => exact hk a

end Performs

/-! ## Files -/

theorem addKeys_eq_foldl_perform (o : ExtractOptions) (scope keys : List String) (h : Harvest) :
    h.addKeys o.uppercaseFields scope keys =
      (keys.map fun key ↦ Request.constant scope key key).foldl (Request.perform o) h := by
  rw [List.foldl_map]
  rfl

theorem addProperties_eq_foldl_perform (p : PropertiesOptions) (o : ExtractOptions)
    (scope : List String) (fileName : String) (keys : List String) (h : Harvest) :
    h.addProperties p o.uppercaseFields o.lowercaseClasses scope fileName keys =
      ((FormatAdapter.properties p).requests o scope fileName keys).foldl
        (Request.perform o) h := by
  rw [Harvest.addProperties, FormatAdapter.requests, FormatAdapter.bundle?]
  cases if p.writeResourceBundle then bundleName? fileName else none with
  | none => exact addKeys_eq_foldl_perform o scope keys h
  | some bundle =>
    simp only [List.foldl_cons, Request.perform, ExtractOptions.className?]
    cases identifier? (if o.lowercaseClasses then Unicode.lower bundle else bundle) with
    | none => rfl
    | some n => exact addKeys_eq_foldl_perform o (scope ++ [n]) keys (h.enter (scope ++ [n]))

/-- An adapter asks for the keys it reads, or fails as reading them does. -/
theorem extract_performs (a : FormatAdapter) (o : ExtractOptions) (scope : List String)
    (f : ResourceFile) :
    Performs o (a.extract o scope f) ()
      (do let keys ← a.keys f; pure (a.requests o scope f.name keys)) := by
  cases a with
  | css p =>
    simp only [FormatAdapter.extract, FormatAdapter.keys, bind_assoc, pure_bind]
    refine Performs.bind_liftFile fun charset ↦ Performs.bind_liftFile fun bytes ↦ ?_
    refine Performs.bind_log _ (Performs.bind_liftFile fun members ↦ ?_)
    refine Performs.of_modify fun h ↦ ?_
    rw [addKeys_eq_foldl_perform]
    exact .refl _
  | json p =>
    simp only [FormatAdapter.extract, FormatAdapter.keys, bind_assoc]
    refine Performs.bind_liftFile fun bytes ↦ Performs.bind_liftFile fun value ↦ ?_
    cases value with
    | object members =>
      refine Performs.of_modify fun h ↦ ?_
      rw [addKeys_eq_foldl_perform]
      exact .refl _
    | _ => exact Performs.of_throw () _
  | properties p =>
    simp only [FormatAdapter.extract, FormatAdapter.keys, bind_assoc, pure_bind]
    refine Performs.bind_liftFile fun bytes ↦ Performs.bind_liftFile fun entries ↦ ?_
    refine Performs.of_modify fun h ↦ ?_
    rw [addProperties_eq_foldl_perform]
    exact .refl _

theorem extractWith_performs (o : ExtractOptions) (scope : List String) (f : ResourceFile)
    (adapters : List FormatAdapter) :
    Performs o (extractWith o scope f adapters)
      (adapters.find? fun a ↦ extension f.name = a.format.extension).isSome
      (match adapters.find? fun a ↦ extension f.name = a.format.extension with
        | none => pure []
        | some a => do
          let keys ← a.keys f
          pure (a.requests o scope f.name keys)) := by
  induction adapters with
  | nil => exact Performs.of_pure false
  | cons a adapters ih =>
    rw [extractWith, List.find?_cons]
    by_cases ha : extension f.name = a.format.extension
    · simp only [if_pos ha, decide_eq_true ha]
      refine Performs.bind_log _ ?_
      exact (extract_performs a o scope f).returning true
    · simp only [if_neg ha, decide_eq_false ha]
      exact ih

/-! ## Rules for requests

`nodesRequests` is what a walk asks for as a function that may fail. Behind it, all facts about
requests are shown with the rules, which have no errors in them. -/

/-- Lists of entries, with the children of each directory ahead of what stands behind it. -/
@[elab_as_elim]
theorem ResourceNode.induction {P : List ResourceNode → Prop} (nil : P [])
    (file : ∀ name content nodes, P nodes → P (.file name content :: nodes))
    (directory : ∀ name passed children nodes, P children → P nodes →
      P (.directory name passed children :: nodes))
    (linkedDirectory : ∀ name nodes, P nodes → P (.linkedDirectory name :: nodes)) :
    ∀ nodes, P nodes
  | [] => nil
  | .file name content :: nodes =>
    file name content nodes (induction nil file directory linkedDirectory nodes)
  | .directory name passed children :: nodes =>
    directory name passed children nodes (induction nil file directory linkedDirectory children)
      (induction nil file directory linkedDirectory nodes)
  | .linkedDirectory name :: nodes =>
    linkedDirectory name nodes (induction nil file directory linkedDirectory nodes)

namespace WalkContext

variable {c : WalkContext} {below scope : List String} {nodes : List ResourceNode}
  {rs : List Request}

theorem nodeRequests_of_not_visits {node : ResourceNode} (h : c.visits below node.name = false) :
    c.nodeRequests below scope node = .ok [] := by
  have hnot : c.visits below node.name ≠ true := ne_true_of_eq_false h
  cases node with
  | file name content => exact if_neg hnot
  | directory name passed children => exact if_neg hnot
  | linkedDirectory name => exact if_neg hnot

theorem AsksFor.nodesRequests_eq (h : c.AsksFor below scope nodes rs) :
    c.nodesRequests below scope nodes = .ok rs := by
  induction h with
  | nil => rfl
  | unvisited hvisits _ ih =>
    rw [nodesRequests, nodeRequests_of_not_visits hvisits, ih]
    rfl
  | file hvisits hfile _ ih =>
    rw [nodesRequests, nodeRequests, if_pos hvisits, hfile, ih]
    rfl
  | unnamed hvisits hclass _ ih =>
    rw [nodesRequests, nodeRequests, if_pos hvisits, hclass, ih]
    rfl
  | directory hvisits hclass _ _ ihc ih =>
    rw [nodesRequests, nodeRequests, if_pos hvisits, hclass, ih]
    simp only [ihc]
    rfl
  | linkedDirectory hvisits _ ih =>
    rw [nodesRequests, nodeRequests, if_pos hvisits, ih]
    rfl

theorem asksFor_cons {node : ResourceNode}
    (hvisited : ∀ own rest, c.visits below node.name = true →
      c.nodeRequests below scope node = .ok own → c.AsksFor below scope nodes rest →
        c.AsksFor below scope (node :: nodes) (own ++ rest))
    (ih : ∀ rest, c.nodesRequests below scope nodes = .ok rest → c.AsksFor below scope nodes rest)
    (h : c.nodesRequests below scope (node :: nodes) = .ok rs) :
    c.AsksFor below scope (node :: nodes) rs := by
  obtain ⟨own, hown, h⟩ := bind_eq_ok h
  obtain ⟨rest, hrest, h⟩ := bind_eq_ok h
  cases h
  cases hvisits : c.visits below node.name with
  | false =>
    rw [nodeRequests_of_not_visits hvisits] at hown
    cases hown
    exact .unvisited hvisits (ih rest hrest)
  | true => exact hvisited own rest hvisits hown (ih rest hrest)

theorem asksFor_of_nodesRequests (h : c.nodesRequests below scope nodes = .ok rs) :
    c.AsksFor below scope nodes rs := by
  induction nodes using ResourceNode.induction generalizing below scope rs with
  | nil =>
    cases h
    exact .nil
  | file name content nodes ih =>
    refine asksFor_cons (fun own rest (hvisits : c.visits below name = true) hown hrest ↦ ?_)
      (fun _ ↦ ih) h
    rw [nodeRequests, if_pos hvisits] at hown
    exact .file hvisits hown hrest
  | directory name passed children nodes ihc ih =>
    refine asksFor_cons (fun own rest (hvisits : c.visits below name = true) hown hrest ↦ ?_)
      (fun _ ↦ ih) h
    rw [nodeRequests, if_pos hvisits] at hown
    cases hclass : c.className? name with
    | none =>
      rw [hclass] at hown
      cases hown
      exact .unnamed hvisits hclass hrest
    | some n =>
      rw [hclass] at hown
      obtain ⟨inside, hinside, hown⟩ := bind_eq_ok hown
      cases hown
      exact .directory hvisits hclass (ihc hinside) hrest
  | linkedDirectory name nodes ih =>
    refine asksFor_cons (fun own rest (hvisits : c.visits below name = true) hown hrest ↦ ?_)
      (fun _ ↦ ih) h
    rw [nodeRequests, if_pos hvisits] at hown
    cases hown
    exact .linkedDirectory hvisits hrest

/-- The rules give the requests of a walk, and no others. -/
theorem asksFor_iff :
    c.AsksFor below scope nodes rs ↔ c.nodesRequests below scope nodes = .ok rs :=
  ⟨AsksFor.nodesRequests_eq, asksFor_of_nodesRequests⟩

end WalkContext

/-! ## Walks -/

theorem agrees_foldl_log (c : WalkContext) (below : List String)
    (passed : List (String × PassedReason)) (h : Harvest) :
    (passed.foldl (fun h (name, reason) ↦ h.log (reason.event (c.path (below ++ [name])))) h).Agrees
      h := by
  induction passed generalizing h with
  | nil => exact .refl h
  | cons e passed ih => exact (ih _).trans ⟨rfl, rfl⟩

theorem performs_visits (c : WalkContext) (below : List String) (name : String)
    {m : Harvesting Unit} {r : Except Error (List Request)} (hm : Performs c.options m () r) :
    Performs c.options
      (if isHidden name then modify (·.log (.hiddenEntry (c.path (below ++ [name]))))
      else if c.exclusions.excludes (c.path (below ++ [name])) then
        modify (·.log (.excludedEntry (c.path (below ++ [name]))))
      else m) ()
      (if c.visits below name then r else pure []) := by
  have hlog (e : Event) : Performs c.options (modify (·.log e)) () (pure []) :=
    Performs.of_modify fun h ↦ ⟨rfl, rfl⟩
  rw [WalkContext.visits]
  cases isHidden name with
  | true => exact hlog _
  | false =>
    cases c.exclusions.excludes (c.path (below ++ [name])) with
    | true => exact hlog _
    | false => exact hm

theorem walkFile_performs (c : WalkContext) (below scope : List String) (name : String)
    (content : Except OsError (List UInt8)) :
    Performs c.options (walkNode c below scope (.file name content)) ()
      (c.nodeRequests below scope (.file name content)) := by
  rw [walkNode, WalkContext.nodeRequests]
  refine performs_visits c below name ?_
  have hkeys := extractWith_performs c.options scope ⟨c.path (below ++ [name]), name, content⟩
    c.options.adapters
  exact hkeys.bind_modify fun h ↦ .refl _

theorem modify_bind_modify {β : Type} (f g : Harvest → Harvest) (m : Harvesting β) :
    (modify f >>= fun _ ↦ modify g >>= fun _ ↦ m) = modify (fun h ↦ g (f h)) >>= fun _ ↦ m := rfl

theorem walkDirectory_performs (c : WalkContext) (below scope : List String) (name : String)
    (passed : List (String × PassedReason)) (children : List ResourceNode)
    (ih : ∀ below scope, Performs c.options (walkNodes c below scope children) ()
      (c.nodesRequests below scope children)) :
    Performs c.options (walkNode c below scope (.directory name passed children)) ()
      (c.nodeRequests below scope (.directory name passed children)) := by
  rw [walkNode, WalkContext.nodeRequests]
  refine performs_visits c below name ?_
  cases hn : c.className? name with
  | none =>
    refine Performs.of_modify fun h ↦ ?_
    have hskip : (Request.directory scope name).perform c.options h =
        h.skip scope name .unsanitizable := by
      rw [Request.perform, ← WalkContext.className?_eq, hn]
    rw [List.foldl_cons, List.foldl_nil, hskip]
    exact .refl _
  | some n =>
    have hpassed := Performs.silent (agrees_foldl_log c (below ++ [name]) passed)
      (k := fun _ ↦ walkNodes c (below ++ [name]) (scope ++ [n]) children)
      (ih (below ++ [name]) (scope ++ [n]))
    -- Recording a merge and opening the class answer to one request.
    simp only
    rw [modify_bind_modify]
    refine Performs.modify_bind (fun h ↦ ?_) hpassed
    rw [Request.perform, ← WalkContext.className?_eq, hn]
    exact .refl _

theorem walkLink_performs (c : WalkContext) (below scope : List String) (name : String) :
    Performs c.options (walkNode c below scope (.linkedDirectory name)) ()
      (c.nodeRequests below scope (.linkedDirectory name)) := by
  rw [walkNode, WalkContext.nodeRequests]
  exact performs_visits c below name (Performs.of_modify fun h ↦ .refl _)

/-- **A walk performs its requests**, whatever the harvest holds before. -/
theorem walkNodes_performs (c : WalkContext) (nodes : List ResourceNode) :
    ∀ below scope, Performs c.options (walkNodes c below scope nodes) ()
      (c.nodesRequests below scope nodes) := by
  induction nodes using ResourceNode.induction with
  | nil =>
    intro below scope
    exact Performs.of_pure ()
  | file name content nodes ih =>
    intro below scope
    exact (walkFile_performs c below scope name content).bind (ih below scope)
  | directory name passed children nodes ihc ih =>
    intro below scope
    exact (walkDirectory_performs c below scope name passed children ihc).bind (ih below scope)
  | linkedDirectory name nodes ih =>
    intro below scope
    exact (walkLink_performs c below scope name).bind (ih below scope)

theorem walkNode_performs (c : WalkContext) (below scope : List String) (node : ResourceNode) :
    Performs c.options (walkNode c below scope node) () (c.nodeRequests below scope node) := by
  cases node with
  | directory name passed children =>
    exact walkDirectory_performs c below scope name passed children (walkNodes_performs c children)
  | linkedDirectory name => exact walkLink_performs c below scope name
  | file name content => exact walkFile_performs c below scope name content

end JavaConstants
