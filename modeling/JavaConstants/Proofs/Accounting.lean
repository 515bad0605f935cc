import JavaConstants.Proofs.Rendering
import JavaConstants.Proofs.ResourceClass

/-!
# No name is lost

Where every name that a walk finds has gone when the build is over. A walk is a list of requests;
the ledger pairs each one with the way it ended: in a constant or a class that is new, in an entry
among the skipped names, or, for the files of a bundle, in a class that is there already.

The ledger is read off the harvest that each request meets. `Accounted` says what it comes to in the
finished class: an ending that declares something is seen there, and the skipped names are those the
endings record, no more and no fewer. An ending is settled as soon as its request is carried out,
since later requests take nothing away (`Request.EndsAs.perform`).
-/

namespace JavaConstants

/-! ## Endings -/

/-- How a request ends. -/
inductive Ending where
  /-- A constant is declared. -/
  | declared
  /-- A class is created. -/
  | created
  /-- The class of a bundle is there, and takes the keys of one more file. -/
  | reopened
  /-- An entry among the skipped names is made. -/
  | recorded (s : Skipped)
  deriving DecidableEq, Repr

/-- The entry made among the skipped names. -/
def Ending.skipped? : Ending → Option Skipped
  | recorded s => some s
  | _ => none

/-- Whether an entry is made for a reason. -/
def Ending.hasReason (reason : SkipReason) (e : Ending) : Bool :=
  e.skipped?.any (·.reason = reason)

namespace Request

/-- The scope that a request is made at. -/
def scope : Request → List String
  | directory scope _ => scope
  | linkedDirectory scope _ => scope
  | bundle scope _ => scope
  | constant scope _ _ => scope

/-- Whether a constant is asked for. -/
def isConstant : Request → Bool
  | constant _ _ _ => true
  | _ => false

theorem scope_of_action? {o : ExtractOptions} {r : Request} {a : Action}
    (h : r.action? o = some a) : r.scope = a.scope := by
  cases r with
  | linkedDirectory scope name => cases h
  | _ =>
    obtain ⟨n, _, rfl⟩ := Option.map_eq_some_iff.mp h
    rfl

/-- How a request ends that meets a class tree. -/
def ending (o : ExtractOptions) (root : ClassNode) : Request → Ending
  | directory scope name =>
    match o.className? name with
    | none => .recorded ⟨root.name :: scope, name, .unsanitizable⟩
    | some n =>
      if root.hasNestedAt scope n then .recorded ⟨root.name :: scope, name, .mergedClass⟩
      else .created
  | linkedDirectory scope name => .recorded ⟨root.name :: scope, name, .linkedDirectory⟩
  | bundle scope name =>
    match o.className? name with
    | none =>
      .recorded ⟨root.name :: scope, if o.lowercaseClasses then Unicode.lower name else name,
        .unsanitizable⟩
    | some n => if root.hasNestedAt scope n then .reopened else .created
  | constant scope name _ =>
    match o.fieldName? name with
    | none => .recorded ⟨root.name :: scope, name, .unsanitizable⟩
    | some n =>
      if root.hasFieldAt scope n then .recorded ⟨root.name :: scope, n, .duplicate⟩ else .declared

/-- The ways open to a request, as the finished class tree shows them. -/
inductive EndsAs (o : ExtractOptions) (root : ClassNode) : Request → Ending → Prop where
  /-- A constant stands under the repaired name with its value. -/
  | declared {scope : List String} {name value n : String} (hn : o.fieldName? name = some n)
    (hfield : (root.fieldsAt scope).lookup n = some (.ofText n value)) :
    EndsAs o root (.constant scope name value) .declared
  /-- The class has a constant under the repaired name, which the entry tells. -/
  | duplicate {scope : List String} {name value n : String} (hn : o.fieldName? name = some n)
    (hfield : root.hasFieldAt scope n = true) :
    EndsAs o root (.constant scope name value) (.recorded ⟨root.name :: scope, n, .duplicate⟩)
  /-- The name has no repair, and the entry tells it as it is. -/
  | unsanitizable {scope : List String} {name value : String} (hn : o.fieldName? name = none) :
    EndsAs o root (.constant scope name value)
      (.recorded ⟨root.name :: scope, name, .unsanitizable⟩)
  /-- A directory has a class of its own. -/
  | created {scope : List String} {name n : String} (hn : o.className? name = some n)
    (hclass : (root.find? (scope ++ [n])).isSome) : EndsAs o root (.directory scope name) .created
  /-- A directory shares the class of another one or of a bundle. -/
  | merged {scope : List String} {name n : String} (hn : o.className? name = some n)
    (hclass : (root.find? (scope ++ [n])).isSome) :
    EndsAs o root (.directory scope name) (.recorded ⟨root.name :: scope, name, .mergedClass⟩)
  /-- The name of a directory has no repair. -/
  | unnamed {scope : List String} {name : String} (hn : o.className? name = none) :
    EndsAs o root (.directory scope name) (.recorded ⟨root.name :: scope, name, .unsanitizable⟩)
  /-- A link to a directory is not entered. -/
  | linked (scope : List String) (name : String) :
    EndsAs o root (.linkedDirectory scope name)
      (.recorded ⟨root.name :: scope, name, .linkedDirectory⟩)
  /-- A bundle has a class, by its first file. -/
  | bundle {scope : List String} {name n : String} (hn : o.className? name = some n)
    (hclass : (root.find? (scope ++ [n])).isSome) : EndsAs o root (.bundle scope name) .created
  /-- A bundle has a class that was there before. -/
  | reopened {scope : List String} {name n : String} (hn : o.className? name = some n)
    (hclass : (root.find? (scope ++ [n])).isSome) : EndsAs o root (.bundle scope name) .reopened
  /-- The name of a bundle has no repair. -/
  | unnamedBundle {scope : List String} {name : String} (hn : o.className? name = none) :
    EndsAs o root (.bundle scope name)
      (.recorded ⟨root.name :: scope, if o.lowercaseClasses then Unicode.lower name else name,
        .unsanitizable⟩)

end Request

/-- Requests in their order, each with its ending. -/
def ledger (o : ExtractOptions) (h : Harvest) : List Request → List (Request × Ending)
  | [] => []
  | r :: rs => (r, r.ending o h.root) :: ledger o (r.perform o h) rs

/-- What the ledger of some requests comes to in the class they leave and in the names skipped. -/
structure Accounted (o : ExtractOptions) (rs : List Request) (root : ClassNode)
    (skipped : List Skipped) : Prop where
  /-- The class is what the requests leave. -/
  root_eq : root = (rs.foldl (Request.perform o) (.start root.name)).root
  /-- Every request ends in one of the ways open to it. -/
  endsAs : ∀ e ∈ ledger o (.start root.name) rs, e.1.EndsAs o root e.2
  /-- The skipped names are those recorded, in the order of the requests. -/
  skipped_eq : skipped = (ledger o (.start root.name) rs).filterMap (·.2.skipped?)
  /-- There are as many constants as were declared. -/
  totalFields_eq : root.totalFields = (ledger o (.start root.name) rs).countP (·.2 = .declared)
  /-- There are as many nested classes as were created. -/
  totalClasses_eq :
    root.totalClasses = 1 + (ledger o (.start root.name) rs).countP (·.2 = .created)
  /-- Every constant asked for is declared, a duplicate, or without a repair. -/
  constants_eq :
    root.totalFields + countSkipped skipped .duplicate +
        (ledger o (.start root.name) rs).countP
          (fun e ↦ e.1.isConstant && e.2.hasReason .unsanitizable) =
      rs.countP (·.isConstant)
  /-- Between the dots of every scope stand the names on the way to a class. -/
  scope : ∀ s ∈ skipped, ∃ path,
    (s.scopeText.toList.splitOn '.').map String.ofList = root.name :: path ∧
      (root.find? path).isSome

/-! ## One request -/

namespace Request

variable {o : ExtractOptions} {root : ClassNode}

/-- What a request leaves of the class tree it meets: one more constant, one more class, or the tree
as it is, where the way it ends can be seen at once. -/
inductive Leaves (o : ExtractOptions) (root : ClassNode) : Request → Ending → ClassNode → Prop where
  | declared {scope : List String} {name value n : String} (hn : o.fieldName? name = some n)
    (hnew : root.hasFieldAt scope n = false) :
    Leaves o root (.constant scope name value) .declared (root.addFieldAt scope (.ofText n value))
  | created {r : Request} {n : String} (hn : r.action? o = some (.opening r.scope n))
    (hnew : root.hasNestedAt r.scope n = false) :
    Leaves o root r .created (root.openAt (r.scope ++ [n]))
  | same {r : Request} {e : Ending} (hdeclared : e ≠ .declared) (hcreated : e ≠ .created)
    (he : r.EndsAs o root e) : Leaves o root r e root

theorem leaves_openAt {r : Request} {n : String} {e : Ending}
    (hn : r.action? o = some (.opening r.scope n)) (hdeclared : e ≠ .declared)
    (hcreated : e ≠ .created) (he : (root.find? (r.scope ++ [n])).isSome → r.EndsAs o root e) :
    Leaves o root r (if root.hasNestedAt r.scope n then e else .created)
      (root.openAt (r.scope ++ [n])) := by
  by_cases hclass : root.hasNestedAt r.scope n = true
  · rw [if_pos hclass, ClassNode.openAt_eq_self hclass]
    exact .same hdeclared hcreated (he (ClassNode.hasNestedAt_iff.mp hclass))
  · rw [if_neg hclass]
    exact .created hn (Bool.eq_false_iff.mpr hclass)

theorem leaves_perform (o : ExtractOptions) (r : Request) (h : Harvest) :
    Leaves o h.root r (r.ending o h.root) (r.perform o h).root := by
  rw [root_perform]
  cases r with
  | directory scope name =>
    rw [ending, action?]
    cases hn : o.className? name with
    | none => exact .same (by simp) (by simp) (.unnamed hn)
    | some n => exact leaves_openAt (by rw [action?, hn]; rfl) (by simp) (by simp) (.merged hn)
  | linkedDirectory scope name => exact .same (by rintro ⟨⟩) (by rintro ⟨⟩) (.linked scope name)
  | bundle scope name =>
    rw [ending, action?]
    cases hn : o.className? name with
    | none => exact .same (by simp) (by simp) (.unnamedBundle hn)
    | some n => exact leaves_openAt (by rw [action?, hn]; rfl) (by simp) (by simp) (.reopened hn)
  | constant scope name value =>
    rw [ending, action?]
    cases hn : o.fieldName? name with
    | none => exact .same (by simp) (by simp) (.unsanitizable hn)
    | some n =>
      simp only [Option.map_some, Option.elim_some, Action.apply]
      by_cases hfield : h.root.hasFieldAt scope n = true
      · have hsame : h.root.addFieldAt scope (.ofText n value) = h.root :=
          ClassNode.addFieldAt_eq_self hfield
        rw [if_pos hfield, hsame]
        exact .same (by simp) (by simp) (.duplicate hn hfield)
      · rw [if_neg hfield]
        exact .declared hn (Bool.eq_false_iff.mpr hfield)

theorem skipped_perform (o : ExtractOptions) (r : Request) (h : Harvest) :
    (r.perform o h).skipped = h.skipped ++ (r.ending o h.root).skipped?.toList := by
  have hsame : h.skipped = h.skipped ++ [] := (List.append_nil _).symm
  cases r with
  | directory scope name =>
    rw [perform, ending]
    cases o.className? name with
    | none => rfl
    | some n =>
      simp only
      split
      · rfl
      · exact hsame
  | linkedDirectory scope name => rfl
  | bundle scope name =>
    rw [perform, ending]
    cases o.className? name with
    | none => rfl
    | some n =>
      simp only
      split
      · exact hsame
      · exact hsame
  | constant scope name value =>
    rw [perform, Harvest.add, ending, ExtractOptions.fieldName?]
    cases identifier? (if o.uppercaseFields then Unicode.upper name else name) with
    | none => rfl
    | some n =>
      simp only
      split
      · rfl
      · exact hsame

theorem Leaves.totalFields {r : Request} {e : Ending} {root' : ClassNode}
    (h : Leaves o root r e root') :
    root'.totalFields = root.totalFields + if e = .declared then 1 else 0 := by
  cases h with
  | @declared scope name value n hn hnew =>
    have hfree : root.hasFieldAt scope (Field.ofText n value).name = false := hnew
    rw [ClassNode.totalFields_addFieldAt, hfree, if_pos rfl, if_neg Bool.false_ne_true]
  | created hn hnew =>
    rw [ClassNode.totalFields_openAt]
    rfl
  | same hdeclared hcreated he =>
    rw [if_neg hdeclared]
    rfl

theorem Leaves.totalClasses {r : Request} {e : Ending} {root' : ClassNode}
    (h : Leaves o root r e root') (hscope : r.action? o = none ∨ (root.find? r.scope).isSome) :
    root'.totalClasses = root.totalClasses + if e = .created then 1 else 0 := by
  cases h with
  | declared hn hnew =>
    rcases hscope with hnone | hscope
    · rw [action?, hn] at hnone
      cases hnone
    · obtain ⟨d, hd⟩ := Option.isSome_iff_exists.mp hscope
      exact ClassNode.totalClasses_addFieldAt hd _
  | created hn hnew =>
    rcases hscope with hnone | hscope
    · rw [hn] at hnone
      cases hnone
    · obtain ⟨d, hd⟩ := Option.isSome_iff_exists.mp hscope
      rw [ClassNode.totalClasses_openAt_concat hd, hnew, if_pos rfl, if_neg Bool.false_ne_true]
  | same hdeclared hcreated he =>
    rw [if_neg hcreated]
    rfl

theorem EndsAs.mono {r : Request} {e : Ending} {root' : ClassNode} (h : r.EndsAs o root e)
    (hgrows : root.Grows root') : r.EndsAs o root' e := by
  have hname := hgrows.name_eq
  cases h with
  | declared hn hfield => exact .declared hn (hgrows.lookup_fieldsAt _ _ _ hfield)
  | duplicate hn hfield => exact hname ▸ .duplicate hn (hgrows.hasFieldAt hfield)
  | unsanitizable hn => exact hname ▸ .unsanitizable hn
  | created hn hclass => exact .created hn (hgrows.isSome_find? _ _ hclass)
  | merged hn hclass => exact hname ▸ .merged hn (hgrows.isSome_find? _ _ hclass)
  | unnamed hn => exact hname ▸ .unnamed hn
  | linked scope name => exact hname ▸ .linked scope name
  | bundle hn hclass => exact .bundle hn (hgrows.isSome_find? _ _ hclass)
  | reopened hn hclass => exact .reopened hn (hgrows.isSome_find? _ _ hclass)
  | unnamedBundle hn => exact hname ▸ .unnamedBundle hn

/-- An entry among the skipped names tells the scope of its request. -/
theorem EndsAs.scope_eq {r : Request} {e : Ending} {s : Skipped} (h : r.EndsAs o root e)
    (hs : e.skipped? = some s) : s.scope = root.name :: r.scope := by
  cases h <;> cases hs <;> rfl

/-- The endings of a constant exclude each other, and a duplicate is a constant. -/
theorem EndsAs.ways {r : Request} {e : Ending} (h : r.EndsAs o root e) :
    (if e = .declared then 1 else 0) + (if e.hasReason .duplicate then 1 else 0) +
        (if (r.isConstant && e.hasReason .unsanitizable) = true then 1 else 0) =
      if r.isConstant then 1 else 0 := by
  cases h <;> rfl

theorem Leaves.endsAs {r : Request} {e : Ending} {root' : ClassNode}
    (h : Leaves o root r e root') : r.EndsAs o root' e := by
  cases h with
  | @declared scope name value n hn hnew =>
    refine .declared hn ?_
    have hfresh : (root.fieldsAt scope).lookup (Field.ofText n value).name = none := by
      rw [← Option.not_isSome_iff_eq_none, ← ClassNode.hasFieldAt_eq, Bool.not_eq_true]
      exact hnew
    have hput : (root.addFieldAt scope (.ofText n value)).fieldsAt scope =
        root.fieldsAt scope ++ [(n, .ofText n value)] := by
      have happly := fieldsAt_apply (.offering scope (.ofText n value)) root scope
      rw [Action.offered?, if_pos rfl] at happly
      simp only [ClassNode.putNew, hfresh] at happly
      exact happly
    have hlookup : (root.fieldsAt scope).lookup n = none := hfresh
    rw [hput, List.lookup_append, hlookup, Option.none_or, List.lookup_cons_self]
  | @created _ n hn hnew =>
    have hclass : ((root.openAt (r.scope ++ [n])).find? (r.scope ++ [n])).isSome := by
      rw [ClassNode.isSome_find?_concat]
      have happly := keysAt_apply (.opening r.scope n) root r.scope
      rw [Action.path, nextName_concat, if_pos rfl] at happly
      simp only [Action.apply] at happly
      rw [happly]
      split
      · assumption
      · exact List.mem_append_right _ List.mem_cons_self
    cases r with
    | directory scope name =>
      obtain ⟨m, hm, hopening⟩ := Option.map_eq_some_iff.mp hn
      cases hopening
      exact .created hm hclass
    | linkedDirectory scope name => cases hn
    | bundle scope name =>
      obtain ⟨m, hm, hopening⟩ := Option.map_eq_some_iff.mp hn
      cases hopening
      exact .bundle hm hclass
    | constant scope name value =>
      obtain ⟨m, _, hopening⟩ := Option.map_eq_some_iff.mp hn
      cases hopening
  | same hdeclared hcreated he => exact he

end Request

/-! ## Runs

An ending is settled by the harvest that its request meets, and nothing behind takes it back, so
most of a run follows request by request. The count of classes needs more: an insertion into a
class that is not there creates it, and no ending tells of that. So every class has to be opened
before it is written into. -/

section Ledger

variable {o : ExtractOptions}

theorem map_fst_ledger (o : ExtractOptions) (h : Harvest) (rs : List Request) :
    (ledger o h rs).map (·.1) = rs := by
  induction rs generalizing h with
  | nil => rfl
  | cons r rs ih => rw [ledger, List.map_cons, ih]

theorem skipped_foldl_perform (o : ExtractOptions) (h : Harvest) (rs : List Request) :
    (rs.foldl (Request.perform o) h).skipped =
      h.skipped ++ (ledger o h rs).filterMap (·.2.skipped?) := by
  induction rs generalizing h with
  | nil => exact (List.append_nil _).symm
  | cons r rs ih =>
    rw [List.foldl_cons, ih, Request.skipped_perform, ledger, List.append_assoc,
      List.filterMap_cons]
    congr 1
    simp only
    cases (r.ending o h.root).skipped? <;> rfl

theorem totalFields_foldl_perform (o : ExtractOptions) (h : Harvest) (rs : List Request) :
    (rs.foldl (Request.perform o) h).root.totalFields =
      h.root.totalFields + (ledger o h rs).countP (·.2 = .declared) := by
  induction rs generalizing h with
  | nil => rfl
  | cons r rs ih =>
    rw [List.foldl_cons, ih, (Request.leaves_perform o r h).totalFields, ledger, List.countP_cons]
    simp only [decide_eq_true_eq]
    omega

theorem grows_foldl_perform (o : ExtractOptions) (h : Harvest) (rs : List Request) :
    h.root.Grows (rs.foldl (Request.perform o) h).root := by
  rw [root_foldl_perform]
  exact grows_replay _ _

/-- **Every request ends in one of the ways open to it**, and it shows in the class that all of them
leave. -/
theorem endsAs_of_mem_ledger {h : Harvest} {rs : List Request} {e : Request × Ending}
    (he : e ∈ ledger o h rs) : e.1.EndsAs o (rs.foldl (Request.perform o) h).root e.2 := by
  induction rs generalizing h with
  | nil => cases he
  | cons r rs ih =>
    rcases List.mem_cons.mp he with rfl | he
    · exact (Request.leaves_perform o r h).endsAs.mono (grows_foldl_perform o _ rs)
    · exact ih he

theorem totalClasses_foldl_perform {known : List (List String)} {h : Harvest} {rs : List Request}
    (hgrounded : Grounded known (rs.filterMap (·.action? o)))
    (hknown : ∀ p ∈ known, (h.root.find? p).isSome) :
    (rs.foldl (Request.perform o) h).root.totalClasses =
      h.root.totalClasses + (ledger o h rs).countP (·.2 = .created) := by
  induction rs generalizing h known with
  | nil => rfl
  | cons r rs ih =>
    have hleaves := Request.leaves_perform o r h
    -- Either nothing is inserted, or the scope of the request is known.
    have hstep : (r.action? o = none ∨ (h.root.find? r.scope).isSome) ∧
        ∃ known', Grounded known' (rs.filterMap (·.action? o)) ∧
          ∀ p ∈ known', ((r.perform o h).root.find? p).isSome := by
      rw [List.filterMap_cons] at hgrounded
      rw [Request.root_perform]
      cases hr : r.action? o with
      | none =>
        rw [hr] at hgrounded
        exact ⟨.inl rfl, known, hgrounded, hknown⟩
      | some a =>
        rw [hr] at hgrounded
        rw [Request.scope_of_action? hr]
        exact (hgrounded.uncons hknown).imp_left .inr
    obtain ⟨hscope, known', hgrounded', hknown'⟩ := hstep
    rw [List.foldl_cons, ih hgrounded' hknown', hleaves.totalClasses hscope, ledger,
      List.countP_cons]
    simp only [decide_eq_true_eq]
    omega

theorem countP_isConstant {root : ClassNode} {l : List (Request × Ending)}
    (h : ∀ e ∈ l, e.1.EndsAs o root e.2) :
    l.countP (·.2 = .declared) + l.countP (·.2.hasReason .duplicate) +
        l.countP (fun e ↦ e.1.isConstant && e.2.hasReason .unsanitizable) =
      l.countP (·.1.isConstant) := by
  induction l with
  | nil => rfl
  | cons e l ih =>
    obtain ⟨he, hl⟩ := List.forall_mem_cons.mp h
    have hrest := ih hl
    have hways := he.ways
    simp only [List.countP_cons, decide_eq_true_eq]
    omega

theorem countSkipped_filterMap (l : List (Request × Ending)) (reason : SkipReason) :
    countSkipped (l.filterMap (·.2.skipped?)) reason = l.countP (·.2.hasReason reason) := by
  rw [countSkipped, List.countP_filterMap]
  refine List.countP_congr fun e _ ↦ ?_
  rw [Ending.hasReason]
  cases e.2.skipped? <;> rfl

end Ledger

/-! ## Scopes

An entry among the skipped names records its scope as one text. That this is the scope of a class
of the result has two parts: requests in a class stand behind the one that opens it (`Placed`),
and a name holds no dot, so that the names on the way can be told from the text. -/

/-- Requests at a scope, or at the scope of a class that one of them opens. -/
def Placed (o : ExtractOptions) (scope : List String) (rs : List Request) : Prop :=
  ∀ r ∈ rs, r.scope = scope ∨
    ∃ p n, r.scope = p ++ [n] ∧ .opening p n ∈ rs.filterMap (·.action? o)

namespace Placed

variable {o : ExtractOptions} {scope : List String} {rs rs' : List Request}

theorem nil (o : ExtractOptions) (scope : List String) : Placed o scope [] := nofun

theorem append (h : Placed o scope rs) (h' : Placed o scope rs') : Placed o scope (rs ++ rs') := by
  intro r hr
  rw [List.filterMap_append]
  rcases List.mem_append.mp hr with hr | hr
  · exact (h r hr).imp_right fun ⟨p, n, hp, hopening⟩ ↦
      ⟨p, n, hp, List.mem_append_left _ hopening⟩
  · exact (h' r hr).imp_right fun ⟨p, n, hp, hopening⟩ ↦
      ⟨p, n, hp, List.mem_append_right _ hopening⟩

theorem constants (o : ExtractOptions) (scope keys : List String) :
    Placed o scope (keys.map fun key ↦ .constant scope key key) := by
  intro r hr
  obtain ⟨key, _, rfl⟩ := List.mem_map.mp hr
  exact .inl rfl

theorem single {r : Request} (hr : r.scope = scope) : Placed o scope [r] := by
  intro q hq
  rw [List.mem_singleton.mp hq]
  exact .inl hr

theorem opening {r : Request} {n : String} (hr : r.scope = scope)
    (hn : r.action? o = some (.opening scope n)) (h : Placed o (scope ++ [n]) rs) :
    Placed o scope (r :: rs) := by
  have hlog : (r :: rs).filterMap (·.action? o) =
      .opening scope n :: rs.filterMap (·.action? o) := by
    rw [List.filterMap_cons, hn]
  intro q hq
  rw [hlog]
  rcases List.mem_cons.mp hq with rfl | hq
  · exact .inl hr
  · rcases h q hq with hat | ⟨p, m, hp, hopening⟩
    · exact .inr ⟨scope, n, hat, List.mem_cons_self⟩
    · exact .inr ⟨p, m, hp, List.mem_cons_of_mem _ hopening⟩

theorem requests (a : FormatAdapter) (o : ExtractOptions) (scope : List String) (fileName : String)
    (keys : List String) : Placed o scope (a.requests o scope fileName keys) := by
  rw [FormatAdapter.requests]
  cases a.bundle? fileName with
  | none => exact constants o scope keys
  | some bundle =>
    simp only
    cases hn : o.className? bundle with
    | none => exact single rfl
    | some n => exact opening rfl (by rw [Request.action?, hn]; rfl) (constants o _ keys)

theorem fileRequests {c : WalkContext} {below scope : List String} {name : String}
    {content : Except OsError (List UInt8)} {rs : List Request}
    (h : c.fileRequests below scope name content = .ok rs) : Placed c.options scope rs := by
  obtain ⟨keys, hkeys, hrs⟩ := bind_eq_ok h
  cases hrs
  refine append ?_ (single rfl)
  rw [ExtractOptions.keyRequests] at hkeys
  cases ha : c.options.handler? name with
  | none =>
    rw [ha] at hkeys
    cases hkeys
    exact nil _ _
  | some a =>
    rw [ha] at hkeys
    obtain ⟨read, _, hkeys⟩ := bind_eq_ok hkeys
    cases hkeys
    exact requests a c.options scope name read

end Placed

/-- A walk makes its requests where it starts and in the classes that it opens. -/
theorem WalkContext.AsksFor.placed {c : WalkContext} {below scope : List String}
    {nodes : List ResourceNode} {rs : List Request} (h : c.AsksFor below scope nodes rs) :
    Placed c.options scope rs := by
  induction h with
  | nil => exact .nil _ _
  | unvisited _ _ ih => exact ih
  | file _ hfile _ ih => exact (Placed.fileRequests hfile).append ih
  | unnamed _ _ _ ih => exact (Placed.single rfl).append ih
  | directory _ hclass _ _ ihc ih =>
    refine (Placed.opening rfl ?_ ihc).append ih
    rw [Request.action?, ← WalkContext.className?_eq, hclass]
    rfl
  | linkedDirectory _ _ ih => exact (Placed.single rfl).append ih

namespace FirstWriterWins

variable {log : List Action} {root : ClassNode}

theorem isName_of_mem_path (h : FirstWriterWins log root) (hlog : ∀ a ∈ log, a.Sound)
    {p : List String} (hp : (root.find? p).isSome) : ∀ n ∈ p, isName n = true := by
  induction p using List.reverseRecOn with
  | nil => exact nofun
  | append_singleton p m ih =>
    obtain ⟨c, hc⟩ := Option.isSome_iff_exists.mp hp
    intro n hn
    rcases List.mem_append.mp hn with hn | hn
    · rw [ClassNode.find?_append, Option.bind_eq_some_iff] at hc
      obtain ⟨d, hd, _⟩ := hc
      exact ih (by rw [hd]; rfl) n hn
    · rw [List.mem_singleton.mp hn]
      exact hlog _ (h.opening_of_find? hc).2

end FirstWriterWins

theorem Placed.isSome_find? {o : ExtractOptions} {rs : List Request} {root : ClassNode}
    (h : Placed o [] rs) (hwins : FirstWriterWins (rs.filterMap (·.action? o)) root)
    {r : Request} (hr : r ∈ rs) : (root.find? r.scope).isSome := by
  rcases h r hr with hnil | ⟨p, n, hp, hopening⟩
  · rw [hnil]
    rfl
  · rw [hp, hwins.isSome_find?_iff, mem_openings_iff]
    exact hopening

/-- Names without dots can be told from the text with dots between them. -/
theorem splitOn_scopeText {s : Skipped} (hne : s.scope ≠ [])
    (hnames : ∀ n ∈ s.scope, isName n = true) :
    (s.scopeText.toList.splitOn '.').map String.ofList = s.scope := by
  have hdot : isIdentifierPart '.' = false := by decide
  have htext : s.scopeText.toList = ['.'].intercalate (s.scope.map String.toList) := by
    rw [Skipped.scopeText, String.toList_intercalate]
    rfl
  rw [htext, List.splitOn_intercalate]
  · simp only [List.map_map, Function.comp_def, String.ofList_toList, List.map_id']
  · intro l hl
    obtain ⟨n, hn, rfl⟩ := List.mem_map.mp hl
    exact notMem_of_isName (hnames n hn) hdot
  · simpa using hne

theorem Request.EndsAs.splitOn_scopeText {o : ExtractOptions} {root : ClassNode} {r : Request}
    {e : Ending} {s : Skipped} (h : r.EndsAs o root e) (hs : e.skipped? = some s)
    (hroot : isName root.name = true) (hnames : ∀ n ∈ r.scope, isName n = true) :
    (s.scopeText.toList.splitOn '.').map String.ofList = root.name :: r.scope := by
  have hscope : s.scope = root.name :: r.scope := h.scope_eq hs
  rw [← hscope]
  refine JavaConstants.splitOn_scopeText ?_ ?_
  · rw [hscope]
    exact List.cons_ne_nil _ _
  · rw [hscope]
    exact List.forall_mem_cons.mpr ⟨hroot, hnames⟩

/-- Requests are accounted for if they open every class before they write into it. -/
theorem accounted_foldl_perform {o : ExtractOptions} {rs : List Request} {rootName : String}
    (hroot : isName rootName = true) (hgrounded : Grounded [[]] (rs.filterMap (·.action? o)))
    (hplaced : Placed o [] rs) :
    Accounted o rs (rs.foldl (Request.perform o) (.start rootName)).root
      (rs.foldl (Request.perform o) (.start rootName)).skipped := by
  have hreplay := root_foldl_perform o rs (.start rootName)
  have hname : (rs.foldl (Request.perform o) (.start rootName)).root.name = rootName := by
    rw [hreplay, name_replay]
    rfl
  have hwins : FirstWriterWins (rs.filterMap (·.action? o))
      (rs.foldl (Request.perform o) (.start rootName)).root := by
    rw [hreplay]
    exact hgrounded.firstWriterWins rootName
  have hsound : ∀ a ∈ rs.filterMap (·.action? o), a.Sound := by
    intro a ha
    obtain ⟨r, _, hr⟩ := List.mem_filterMap.mp ha
    exact Request.sound_of_action? hr
  have hends : ∀ e ∈ ledger o (.start rootName) rs,
      e.1.EndsAs o (rs.foldl (Request.perform o) (.start rootName)).root e.2 :=
    fun _ he ↦ endsAs_of_mem_ledger he
  have hskipped : (rs.foldl (Request.perform o) (.start rootName)).skipped =
      (ledger o (.start rootName) rs).filterMap (·.2.skipped?) :=
    skipped_foldl_perform o (.start rootName) rs
  have hfields : (rs.foldl (Request.perform o) (.start rootName)).root.totalFields =
      (ledger o (.start rootName) rs).countP (·.2 = .declared) :=
    (totalFields_foldl_perform o (.start rootName) rs).trans (Nat.zero_add _)
  have hconstants : rs.countP (·.isConstant) =
      (ledger o (.start rootName) rs).countP (·.1.isConstant) := by
    conv_lhs => rw [← map_fst_ledger o (.start rootName) rs, List.countP_map]
    rfl
  constructor
  case root_eq => rw [hname]
  case endsAs => rwa [hname]
  case skipped_eq => rwa [hname]
  case totalFields_eq => rwa [hname]
  case totalClasses_eq =>
    rw [hname]
    exact totalClasses_foldl_perform hgrounded fun p hp ↦ by rw [List.mem_singleton.mp hp]; rfl
  case constants_eq =>
    rw [hname, hconstants, hfields, hskipped, countSkipped_filterMap]
    exact countP_isConstant hends
  case scope =>
    intro s hs
    rw [hskipped] at hs
    obtain ⟨e, he, hsome⟩ := List.mem_filterMap.mp hs
    have hmem : e.1 ∈ rs := by
      rw [← map_fst_ledger o (.start rootName) rs]
      exact List.mem_map_of_mem he
    have hclass := hplaced.isSome_find? hwins hmem
    have hnames := hwins.isName_of_mem_path hsound hclass
    exact ⟨e.1.scope, (hends e he).splitOn_scopeText hsome (by rwa [hname]) hnames, hclass⟩

/-! ## The entries met

What a walk meets is said without requests. The requests are then those of the entries one after
another, so no entry is passed over and none asks twice. -/

/-- An entry that a walk meets, with the directories and the classes on the way to it. -/
structure MetEntry where
  /-- The directories on the way. -/
  below : List String
  /-- The classes on the way. -/
  scope : List String
  /-- The entry. -/
  node : ResourceNode

namespace WalkContext

mutual

/-- The entries that a walk meets below an entry: those in a directory that is neither hidden nor
excluded and that stands for a class. -/
def metInside (c : WalkContext) (below scope : List String) : ResourceNode → List MetEntry
  | .directory name _ children =>
    if c.visits below name then
      match c.className? name with
      | none => []
      | some n => met c (below ++ [name]) (scope ++ [n]) children
    else []
  | .linkedDirectory _ => []
  | .file _ _ => []

/-- The entries that a walk of some entries meets, in its order. -/
def met (c : WalkContext) (below scope : List String) : List ResourceNode → List MetEntry
  | [] => []
  | node :: nodes =>
    ⟨below, scope, node⟩ :: (metInside c below scope node ++ met c below scope nodes)

end

/-- The requests for an entry itself: one for a directory or a link to one, those of a file, and
none for what is hidden or excluded. -/
def ownRequests (c : WalkContext) (m : MetEntry) : Except Error (List Request) :=
  if c.visits m.below m.node.name then
    match m.node with
    | .directory name _ _ => pure [.directory m.scope name]
    | .linkedDirectory name => pure [.linkedDirectory m.scope name]
    | .file name content => c.fileRequests m.below m.scope name content
  else pure []

section Met

variable {c : WalkContext} {below scope : List String} {node : ResourceNode}

theorem metInside_of_not_visits (h : c.visits below node.name = false) :
    c.metInside below scope node = [] := by
  cases node with
  | directory name passed children => exact if_neg (ne_true_of_eq_false h)
  | linkedDirectory name => rfl
  | file name content => rfl

theorem metInside_directory {name : String} {passed : List (String × PassedReason)}
    {children : List ResourceNode} (h : c.visits below name = true) :
    c.metInside below scope (.directory name passed children) =
      match c.className? name with
      | none => []
      | some n => c.met (below ++ [name]) (scope ++ [n]) children := if_pos h

theorem AsksFor.exists_parts {nodes : List ResourceNode} {rs : List Request}
    (h : c.AsksFor below scope nodes rs) :
    ∃ parts, List.Forall₂ (fun m part ↦ c.ownRequests m = .ok part) (c.met below scope nodes)
      parts ∧ rs = parts.flatten := by
  induction h with
  | nil => exact ⟨[], .nil, rfl⟩
  | unvisited hvisits _ ih =>
    obtain ⟨parts, hparts, rfl⟩ := ih
    rw [met, metInside_of_not_visits hvisits]
    exact ⟨[] :: parts, .cons (if_neg (ne_true_of_eq_false hvisits)) hparts, rfl⟩
  | file hvisits hfile _ ih =>
    obtain ⟨parts, hparts, rfl⟩ := ih
    exact ⟨_ :: parts, .cons ((if_pos hvisits).trans hfile) hparts, rfl⟩
  | unnamed hvisits hclass _ ih =>
    obtain ⟨parts, hparts, rfl⟩ := ih
    rw [met, metInside_directory hvisits, hclass]
    exact ⟨[_] :: parts, .cons (if_pos hvisits) hparts, rfl⟩
  | directory hvisits hclass _ _ ihc ih =>
    obtain ⟨inner, hinner, rfl⟩ := ihc
    obtain ⟨parts, hparts, rfl⟩ := ih
    rw [met, metInside_directory hvisits, hclass]
    -- What the entries inside ask for stands between the request for the class and the rest.
    refine ⟨[_] :: (inner ++ parts), .cons (if_pos hvisits) (List.rel_append hinner hparts), ?_⟩
    rw [List.flatten_cons, List.flatten_append]
    rfl
  | linkedDirectory hvisits _ ih =>
    obtain ⟨parts, hparts, rfl⟩ := ih
    exact ⟨[_] :: parts, .cons (if_pos hvisits) hparts, rfl⟩

end Met

end WalkContext

/-! ## Builds -/

/-- A walk that succeeds is accounted for. -/
theorem accounted_of_walk {fs : FileSystem} {o : ExtractOptions} {exclusions : Exclusions}
    {resources : Path} {rootName : String} {h : Harvest} (hroot : isName rootName = true)
    (hwalk : walkResources fs o exclusions resources (.start rootName) = .ok () h) :
    ∃ root nodes parts, resourceNodes fs resources = .ok (root, nodes) ∧
      List.Forall₂ (fun m part ↦ WalkContext.ownRequests ⟨o, exclusions, root⟩ m = .ok part)
        (WalkContext.met ⟨o, exclusions, root⟩ [] [] nodes) parts ∧
      Accounted o parts.flatten h.root h.skipped := by
  obtain ⟨rs, hrs, _, hagrees⟩ :=
    (walkResources_performs fs o exclusions resources).exists_of_ok hwalk
  obtain ⟨⟨root, nodes⟩, hnodes, hrequests⟩ := bind_eq_ok hrs
  have hasks := WalkContext.asksFor_iff.mpr hrequests
  obtain ⟨parts, hparts, rfl⟩ := hasks.exists_parts
  refine ⟨root, nodes, parts, hnodes, hparts, ?_⟩
  rw [hagrees.1, hagrees.2]
  exact accounted_foldl_perform hroot (hasks.grounded List.mem_cons_self) hasks.placed

namespace ResourceSettings

/-- **No name is lost.** In a build that succeeds every entry that the walk meets has its requests,
and every request is accounted for: each directory that is neither hidden nor excluded by one entry
of the ledger, each constant by one, and every skipped name stands in the scope of a class of the
result. -/
theorem accounted_of_build {s : ResourceSettings} {guarded : List Path} {clock : Clock}
    {w w' : Workspace} {file : SourceFile} {skipped : List Skipped}
    (hbuild : s.build guarded clock w = .ok (file, skipped) w') :
    ∃ root nodes parts, resourceNodes w.files s.resourcesDir = .ok (root, nodes) ∧
      List.Forall₂
        (fun m part ↦ WalkContext.ownRequests
          ⟨s.extractOptions, .ofPaths w.files s.exclusions, root⟩ m = .ok part)
        (WalkContext.met ⟨s.extractOptions, .ofPaths w.files s.exclusions, root⟩ [] [] nodes)
        parts ∧
      Accounted s.extractOptions parts.flatten file.root skipped := by
  obtain ⟨hcheck, h, hharvest, rfl, rfl, _⟩ := build_eq_ok_iff.mp hbuild
  exact accounted_of_walk (isName_rootName_of_check hcheck) hharvest

/-- Files below `/r` with two that stand for one constant, and a link to their directory. -/
def crowded : Workspace where
  files := { root := .directory [("r", .directory [
    ("a", .directory [("x.txt", .file []), ("x.md", .file [])]), ("l", .link "/r/a")])] }

/-- The class built from `crowded`. -/
def crowdedClass : ClassNode := .mk "R" [] [("a", .mk "a" [("x", .ofText "x" "/a/x.md")] [])]

/-- The file built from `crowded`. -/
def crowdedFile : SourceFile := ⟨"p", some newYear.here.comment, crowdedClass⟩

/-- The names left out of `crowdedClass`. -/
def crowdedSkipped : List Skipped :=
  [⟨["R", "a"], "x", .duplicate⟩, ⟨["R"], "l", .linkedDirectory⟩]

theorem accounted_of_build_crowded :
    ofR.build [] newYear crowded =
        .ok (crowdedFile, crowdedSkipped)
          { crowded with events := crowdedSkipped.map .nameSkipped } ∧
      ∃ root nodes parts, resourceNodes crowded.files ofR.resourcesDir = .ok (root, nodes) ∧
        List.Forall₂
          (fun m part ↦ WalkContext.ownRequests
            ⟨ofR.extractOptions, .ofPaths crowded.files ofR.exclusions, root⟩ m = .ok part)
          (WalkContext.met ⟨ofR.extractOptions, .ofPaths crowded.files ofR.exclusions, root⟩ [] []
            nodes)
          parts ∧
        Accounted ofR.extractOptions parts.flatten crowdedClass crowdedSkipped := by
  have hcheck : ofR.check [] crowded.files = .ok () := check_ofR (by cbv) (by cbv) (by cbv)
  have hharvest : ofR.harvest crowded.files =
      .ok () ⟨crowdedClass, crowdedSkipped, crowdedSkipped.map .nameSkipped⟩ := by cbv
  have hbuild : ofR.build [] newYear crowded =
      .ok (crowdedFile, crowdedSkipped)
        { crowded with events := crowdedSkipped.map .nameSkipped } :=
    build_eq_ok_iff.mpr ⟨hcheck, _, hharvest, rfl, rfl, rfl⟩
  exact ⟨hbuild, accounted_of_build hbuild⟩

end ResourceSettings

end JavaConstants
