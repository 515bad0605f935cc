import JavaConstants.Generate.Resources
import JavaConstants.Proofs.WalkLog

/-!
# Resource classes

What holds of every class that a successful build returns. Its names are names, its members have
distinct names and stand under them, and its constants are texts (`sound_of_build`).

Java asks for more: a class may not have the name of a class around it, and the type of the
constants must mean what it says. A build does not see to either; `wellScoped_build_iff` tells from
the names of directories and bundles when the result obeys.
-/

namespace JavaConstants

namespace ClassNode

/-- What a generated class keeps at every depth. -/
structure Sound (c : ClassNode) : Prop where
  /-- The name is one. -/
  isName_name : isName c.name = true
  /-- Constants are texts with names, each under its own. -/
  field : ∀ k f, (k, f) ∈ c.fieldMap →
    f.name = k ∧ isName f.name = true ∧ f.type = .string ∧ f.kind = .text
  /-- Classes stand under their names. -/
  nested : ∀ k d, (k, d) ∈ c.classMap → d.name = k
  /-- No two constants have one name. -/
  nodup_fields : (c.fields.map (·.name)).Nodup
  /-- No two classes have one name. -/
  nodup_nested : (c.nested.map (·.name)).Nodup

/-- The scoping rules for a class inside classes of the names `enclosing`: neither it nor any class
below has the name of a class around it, and none is named `String`. -/
inductive WellScoped : (enclosing : List String) → ClassNode → Prop where
  /-- A class adds its name to those around the classes below. -/
  | mk {enclosing : List String} {c : ClassNode} (hfresh : c.name ∉ enclosing)
    (hstring : c.name ≠ "String")
    (hnested : ∀ k d, (k, d) ∈ c.classMap → WellScoped (c.name :: enclosing) d) :
    WellScoped enclosing c

theorem wellScoped_iff {enclosing : List String} {c : ClassNode} :
    WellScoped enclosing c ↔ c.name ∉ enclosing ∧ c.name ≠ "String" ∧
      ∀ k d, (k, d) ∈ c.classMap → WellScoped (c.name :: enclosing) d := by
  constructor
  · rintro ⟨hfresh, hstring, hnested⟩
    exact ⟨hfresh, hstring, hnested⟩
  · rintro ⟨hfresh, hstring, hnested⟩
    exact ⟨hfresh, hstring, hnested⟩

/-- The scoping rules in terms of paths: the names around the class at a path are those on the way
to it. -/
theorem wellScoped_iff_find? {c : ClassNode} (hkeyed : c.Keyed)
    (hkeys : ∀ p, (c.keysAt p).Nodup) (enclosing : List String) :
    WellScoped enclosing c ↔ ∀ p d, c.find? p = some d →
      d.name ≠ "String" ∧ d.name ∉ enclosing ∧ d.name ∉ (c.name :: p).dropLast := by
  induction c using ClassNode.induction generalizing enclosing with
  | h c ih =>
    rw [keyed_iff] at hkeyed
    -- On the way down the name of `c` joins those around, and the path loses its first name.
    have hbelow {k : String} {d : ClassNode} (hd : (k, d) ∈ c.classMap) : c.nested? k = some d ∧
        (WellScoped (c.name :: enclosing) d ↔ ∀ p e, d.find? p = some e →
          e.name ≠ "String" ∧ e.name ∉ c.name :: enclosing ∧ e.name ∉ (k :: p).dropLast) := by
      have hlookup : c.nested? k = some d := lookup_of_mem (hkeys []) hd
      obtain ⟨hname, hd'⟩ := hkeyed k d hd
      have hkeys' (p : List String) : (d.keysAt p).Nodup := by
        have hp := hkeys (k :: p)
        rwa [keysAt_cons, hlookup] at hp
      refine ⟨hlookup, ?_⟩
      rw [ih k d hd hd' hkeys', hname]
    rw [wellScoped_iff]
    constructor
    · rintro ⟨hfresh, hstring, hnested⟩ p d hp
      cases p with
      | nil =>
        rw [find?, Option.some.injEq] at hp
        rw [← hp]
        exact ⟨hstring, hfresh, List.not_mem_nil⟩
      | cons k p =>
        rw [find?, Option.bind_eq_some_iff] at hp
        obtain ⟨e, he, hp⟩ := hp
        have hmem : (k, e) ∈ c.classMap := mem_of_lookup he
        obtain ⟨hstring', hfresh', haround⟩ := (hbelow hmem).2.mp (hnested k e hmem) p d hp
        rw [List.mem_cons, not_or] at hfresh'
        refine ⟨hstring', hfresh'.2, ?_⟩
        rw [List.dropLast_cons_of_ne_nil (List.cons_ne_nil _ _), List.mem_cons, not_or]
        exact ⟨hfresh'.1, haround⟩
    · intro h
      obtain ⟨hstring, hfresh, _⟩ := h [] c rfl
      refine ⟨hfresh, hstring, fun k d hd ↦ ?_⟩
      obtain ⟨hlookup, hiff⟩ := hbelow hd
      refine hiff.mpr fun p e he ↦ ?_
      have hpath : c.find? (k :: p) = some e := by
        rw [find?, hlookup]
        exact he
      obtain ⟨hstring', hfresh', haround⟩ := h (k :: p) e hpath
      rw [List.dropLast_cons_of_ne_nil (List.cons_ne_nil _ _), List.mem_cons, not_or] at haround
      exact ⟨hstring', fun hmem ↦ (List.mem_cons.mp hmem).elim haround.1 hfresh', haround.2⟩

end ClassNode

/-! ## What a log tells

A class tree that the first writers of a log leave has nothing in it but what the log put there.
So conditions on its classes come down to conditions on single insertions. -/

/-- An insertion under a name, of a text if of a constant. -/
def Action.Sound : Action → Prop
  | opening _ name => isName name = true
  | offering _ f => isName f.name = true ∧ f.type = .string ∧ f.kind = .text

theorem Request.sound_of_action? {o : ExtractOptions} {r : Request} {a : Action}
    (h : r.action? o = some a) : a.Sound := by
  cases r with
  | directory scope name =>
    obtain ⟨n, hn, rfl⟩ := Option.map_eq_some_iff.mp h
    exact isName_of_identifier? hn
  | linkedDirectory scope name => cases h
  | bundle scope name =>
    obtain ⟨n, hn, rfl⟩ := Option.map_eq_some_iff.mp h
    exact isName_of_identifier? hn
  | constant scope name value =>
    obtain ⟨n, hn, rfl⟩ := Option.map_eq_some_iff.mp h
    exact ⟨isName_of_identifier? hn, rfl, rfl⟩

theorem sound_of_mem_resourceLog {fs : FileSystem} {o : ExtractOptions} {exclusions : Exclusions}
    {resources : Path} {log : List Action} (h : resourceLog fs o exclusions resources = .ok log)
    {a : Action} (ha : a ∈ log) : a.Sound := by
  obtain ⟨rs, _, hlog⟩ := bind_eq_ok h
  cases hlog
  obtain ⟨r, _, hr⟩ := List.mem_filterMap.mp ha
  exact Request.sound_of_action? hr

namespace FirstWriterWins

variable {log : List Action} {root : ClassNode}

theorem sound (h : FirstWriterWins log root) (hroot : isName root.name = true)
    (hlog : ∀ a ∈ log, a.Sound) : ∀ c, root.Holds c → c.Sound := by
  intro c hc
  obtain ⟨p, hp⟩ := hc.exists_find? h.nodup_keysAt
  have hfields : root.fieldsAt p = c.fieldMap := by rw [ClassNode.fieldsAt, hp, Option.elim_some]
  have hkeys : root.keysAt p = c.classMap.map (·.1) := by
    rw [ClassNode.keysAt, hp, Option.elim_some]
  have hname : isName c.name = true := by
    rcases List.eq_nil_or_concat p with rfl | ⟨scope, n, rfl⟩
    · rw [ClassNode.find?, Option.some.injEq] at hp
      rwa [← hp]
    · rw [List.concat_eq_append] at hp
      obtain ⟨hn, hopening⟩ := h.opening_of_find? hp
      rw [hn]
      exact hlog _ hopening
  have hfield (k : String) (f : Field) (hf : (k, f) ∈ c.fieldMap) :
      f.name = k ∧ isName f.name = true ∧ f.type = .string ∧ f.kind = .text := by
    rw [← hfields] at hf
    obtain ⟨hk, hoffering⟩ := h.offering_of_mem hf
    exact ⟨hk, hlog _ hoffering⟩
  have hnested : ∀ k d, (k, d) ∈ c.classMap → d.name = k := h.keyed c hc
  refine ⟨hname, hfield, hnested, ?_, ?_⟩
  · have hmap : c.fields.map (·.name) = c.fieldMap.map (·.1) := by
      rw [ClassNode.fields, List.map_map]
      exact List.map_congr_left fun e he ↦ (hfield e.1 e.2 he).1
    rw [hmap, ← hfields]
    exact h.nodup_map_fst_fieldsAt p
  · have hmap : c.nested.map (·.name) = c.classMap.map (·.1) := by
      rw [ClassNode.nested, List.map_map]
      exact List.map_congr_left fun e he ↦ hnested e.1 e.2 he
    rw [hmap, ← hkeys]
    exact h.nodup_keysAt p

theorem wellScoped_iff (h : FirstWriterWins log root) :
    root.WellScoped [] ↔ root.name ≠ "String" ∧ ∀ scope name, .opening scope name ∈ log →
      name ≠ "String" ∧ name ∉ root.name :: scope := by
  rw [ClassNode.wellScoped_iff_find? h.keyed h.nodup_keysAt]
  constructor
  · intro hpaths
    refine ⟨(hpaths [] root rfl).1, fun scope name hopening ↦ ?_⟩
    have hsome := (h.isSome_find?_iff scope name).mpr (mem_openings_iff.mpr hopening)
    obtain ⟨c, hc⟩ := Option.isSome_iff_exists.mp hsome
    obtain ⟨hstring, _, haround⟩ := hpaths _ c hc
    rw [(h.opening_of_find? hc).1] at hstring haround
    rw [← List.cons_append, List.dropLast_concat] at haround
    exact ⟨hstring, haround⟩
  · rintro ⟨hroot, hopenings⟩ p c hc
    rcases List.eq_nil_or_concat p with rfl | ⟨scope, name, rfl⟩
    · rw [ClassNode.find?, Option.some.injEq] at hc
      rw [← hc]
      exact ⟨hroot, List.not_mem_nil, List.not_mem_nil⟩
    · rw [List.concat_eq_append] at hc ⊢
      obtain ⟨hname, hopening⟩ := h.opening_of_find? hc
      rw [hname, ← List.cons_append, List.dropLast_concat]
      exact ⟨(hopenings scope name hopening).1, List.not_mem_nil, (hopenings scope name hopening).2⟩

end FirstWriterWins

/-! ## Builds -/

theorem isName_of_checkClassName {name : String} (h : checkClassName name = .ok ()) :
    isName name = true := by
  unfold checkClassName at h
  split_ifs at h with hblank hname
  exact hname

namespace ResourceSettings

/-- What settings must meet to pass the check. -/
theorem check_eq_ok_iff {s : ResourceSettings} {guarded : List Path} {fs : FileSystem} :
    s.check guarded fs = .ok () ↔ checkPackageName s.packageName = .ok () ∧
      isBlankText s.className = false ∧ checkClassName s.rootName = .ok () ∧
      fs.isDirectory s.resourcesDir = true ∧ fs.isWithin s.outputDir s.resourcesDir = false ∧
      checkOutput fs s.outputDir (s.resourcesDir :: guarded) = .ok () := by
  constructor
  · intro h
    obtain ⟨_, hpackage, h⟩ := bind_eq_ok h
    cases hblank : isBlankText s.className with
    | true =>
      rw [hblank] at h
      cases h
    | false =>
      rw [hblank] at h
      obtain ⟨_, hclass, h⟩ := bind_eq_ok h
      cases hdirectory : fs.isDirectory s.resourcesDir with
      | false =>
        rw [hdirectory] at h
        cases h
      | true =>
        cases hwithin : fs.isWithin s.outputDir s.resourcesDir with
        | true =>
          rw [hdirectory, hwithin] at h
          cases h
        | false =>
          rw [hdirectory, hwithin] at h
          exact ⟨hpackage, rfl, hclass, rfl, rfl, h⟩
  · rintro ⟨hpackage, hblank, hclass, hdirectory, hwithin, houtput⟩
    rw [check, hpackage, hblank, hclass, hdirectory, hwithin]
    exact houtput

theorem check_of_resolved {s : ResourceSettings} {fs : FileSystem} {r o : Path}
    (hpackage : checkPackageName s.packageName = .ok ()) (hblank : isBlankText s.className = false)
    (hclass : checkClassName s.rootName = .ok ())
    (hdirectory : fs.isDirectory s.resourcesDir = true)
    (hresources : fs.resolved s.resourcesDir = r) (houtput : fs.resolved s.outputDir = o)
    (hinside : o.startsWith r = false) (haround : r.startsWith o = false) :
    s.check [] fs = .ok () := by
  refine check_eq_ok_iff.mpr ⟨hpackage, hblank, hclass, hdirectory, ?_, ?_⟩
  · rwa [FileSystem.isWithin, houtput, hresources]
  · rw [checkOutput, houtput, hresources, haround]
    rfl

theorem isName_rootName_of_check {s : ResourceSettings} {guarded : List Path} {fs : FileSystem}
    (h : s.check guarded fs = .ok ()) : isName s.rootName = true :=
  isName_of_checkClassName (check_eq_ok_iff.mp h).2.2.1

/-- A build succeeds if the settings pass the check and the walk succeeds, and returns what the walk
has gathered. -/
theorem build_eq_ok_iff {s : ResourceSettings} {guarded : List Path} {clock : Clock}
    {w w' : Workspace} {file : SourceFile} {skipped : List Skipped} :
    s.build guarded clock w = .ok (file, skipped) w' ↔ s.check guarded w.files = .ok () ∧
      ∃ h, s.harvest w.files = .ok () h ∧
        file = ⟨s.packageName, some clock.here.comment, h.root⟩ ∧ skipped = h.skipped ∧
        w' = { w with events := w.events ++ h.events } := by
  have hget : (get : Generating Workspace) w = .ok w w := rfl
  unfold build
  simp only [bind, EStateM.bind, hget]
  cases s.check guarded w.files with
  | error e =>
    constructor
    · rintro ⟨⟩
    · rintro ⟨⟨⟩, _⟩
  | ok u =>
    cases s.harvest w.files with
    | error e h =>
      constructor
      · rintro ⟨⟩
      · rintro ⟨_, _, ⟨⟩, _⟩
    | ok u h =>
      constructor
      · rintro ⟨⟩
        exact ⟨rfl, h, rfl, rfl, rfl, rfl⟩
      · rintro ⟨_, _, ⟨⟩, rfl, rfl, rfl⟩
        rfl

/-- A build whose settings pass the check and whose files can be read returns what the requests of
its walk leave. -/
theorem exists_build_of_requests {s : ResourceSettings} {guarded : List Path} (clock : Clock)
    {w : Workspace} {rs : List Request} (hcheck : s.check guarded w.files = .ok ())
    (hrequests : resourceRequests w.files s.extractOptions (.ofPaths w.files s.exclusions)
      s.resourcesDir = .ok rs) :
    ∃ w', s.build guarded clock w =
      .ok (⟨s.packageName, some clock.here.comment,
          (rs.foldl (Request.perform s.extractOptions) (.start s.rootName)).root⟩,
        (rs.foldl (Request.perform s.extractOptions) (.start s.rootName)).skipped) w' := by
  have hperforms := walkResources_performs w.files s.extractOptions
    (.ofPaths w.files s.exclusions) s.resourcesDir (.start s.rootName)
  rw [hrequests] at hperforms
  obtain ⟨h, hwalk, hroot, hskipped⟩ := hperforms
  exact ⟨_, build_eq_ok_iff.mpr ⟨hcheck, h, hwalk, by rw [hroot], hskipped.symm, rfl⟩⟩

/-! ## A directory with the name of the root class -/

/-- Settings for the directory `/r`. -/
def ofR : ResourceSettings where
  packageName := "p"
  resourcesDir := ⟨"/r"⟩
  outputDir := ⟨"/o"⟩

/-- Files with a directory below `/r` that has the name of the root class. -/
def shadowing : Workspace where
  files := { root := .directory [("r", .directory [("R", .directory [("a.txt", .file [])])])] }

/-- The first moment of a year. -/
def newYear : Clock where
  now := ⟨2026, 1, 1, 0, 0, 0, 0⟩

/-- The class built from `shadowing`: one `R` in another. -/
def shadowingClass : ClassNode := .mk "R" [] [("R", .mk "R" [("a", .ofText "a" "/R/a.txt")] [])]

/-- The file built from `shadowing`. -/
def shadowingFile : SourceFile := ⟨"p", some newYear.here.comment, shadowingClass⟩

theorem check_ofR {fs : FileSystem} (hdirectory : fs.isDirectory ⟨"/r"⟩ = true)
    (hresources : fs.resolved ⟨"/r"⟩ = ⟨"/r"⟩) (houtput : fs.resolved ⟨"/o"⟩ = ⟨"/o"⟩) :
    ofR.check [] fs = .ok () :=
  check_of_resolved (by decide) (by decide) (by decide) hdirectory hresources houtput (by decide)
    (by decide)

theorem check_shadowing : ofR.check [] shadowing.files = .ok () :=
  check_ofR (by cbv) (by cbv) (by cbv)

theorem build_shadowing :
    ofR.build [] newYear shadowing = .ok (shadowingFile, []) shadowing := by
  have hharvest : ofR.harvest shadowing.files = .ok () ⟨shadowingClass, [], []⟩ := by cbv
  exact build_eq_ok_iff.mpr ⟨check_shadowing, _, hharvest, rfl, rfl, rfl⟩

/-! ## What a build returns -/

section Build

variable {s : ResourceSettings} {guarded : List Path} {clock : Clock} {w w' : Workspace}
  {file : SourceFile} {skipped : List Skipped}

/-- A build that succeeds has a log, and its class is what the first writers of the log leave. -/
theorem exists_log_of_build (hbuild : s.build guarded clock w = .ok (file, skipped) w') :
    ∃ log, resourceLog w.files s.extractOptions (.ofPaths w.files s.exclusions) s.resourcesDir =
        .ok log ∧ file.root.name = s.rootName ∧ FirstWriterWins log file.root := by
  obtain ⟨_, h, hharvest, rfl, _⟩ := build_eq_ok_iff.mp hbuild
  exact exists_log_of_walk hharvest

/-- **Sound classes.** Whatever the resources directory holds, every class of a successful build has
a name, distinct members under names of their own, and texts for constants. -/
theorem sound_of_build (hbuild : s.build guarded clock w = .ok (file, skipped) w') :
    ∀ c, file.root.Holds c → c.Sound := by
  obtain ⟨log, hlog, hname, hwins⟩ := exists_log_of_build hbuild
  have hroot : isName file.root.name = true := by
    rw [hname]
    exact isName_rootName_of_check (build_eq_ok_iff.mp hbuild).1
  exact hwins.sound hroot fun a ha ↦ sound_of_mem_resourceLog hlog ha

theorem sound_of_build_shadowing :
    ofR.build [] newYear shadowing = .ok (shadowingFile, []) shadowing ∧
      ∀ c, shadowingClass.Holds c → c.Sound :=
  ⟨build_shadowing, sound_of_build build_shadowing⟩

/-- **Scoping.** The class of a successful build obeys the scoping rules if and only if neither the
root nor any directory or bundle comes to the name `String` and none comes to the name of a class
around it. -/
theorem wellScoped_build_iff (hbuild : s.build guarded clock w = .ok (file, skipped) w') :
    ∃ log, resourceLog w.files s.extractOptions (.ofPaths w.files s.exclusions) s.resourcesDir =
        .ok log ∧
      (file.root.WellScoped [] ↔ s.rootName ≠ "String" ∧ ∀ scope name, .opening scope name ∈ log →
        name ≠ "String" ∧ name ∉ s.rootName :: scope) := by
  obtain ⟨log, hlog, hname, hwins⟩ := exists_log_of_build hbuild
  refine ⟨log, hlog, ?_⟩
  rw [hwins.wellScoped_iff, hname]

theorem wellScoped_build_shadowing_iff :
    ∃ log, resourceLog shadowing.files ofR.extractOptions
        (.ofPaths shadowing.files ofR.exclusions) ofR.resourcesDir = .ok log ∧
      (shadowingClass.WellScoped [] ↔ ofR.rootName ≠ "String" ∧
        ∀ scope name, .opening scope name ∈ log → name ≠ "String" ∧ name ∉ ofR.rootName :: scope) :=
  wellScoped_build_iff build_shadowing

/-- A build can succeed with a class that has the name of the class around it. -/
theorem not_wellScoped_shadowing :
    ofR.build [] newYear shadowing = .ok (shadowingFile, []) shadowing ∧
      ¬ shadowingClass.WellScoped [] := by
  refine ⟨build_shadowing, fun h ↦ ?_⟩
  obtain ⟨_, _, hnested⟩ := ClassNode.wellScoped_iff.mp h
  obtain ⟨hfresh, _⟩ := ClassNode.wellScoped_iff.mp (hnested "R" _ List.mem_cons_self)
  exact hfresh List.mem_cons_self

end Build

end ResourceSettings

end JavaConstants
