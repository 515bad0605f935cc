import JavaConstants.Proofs.Accounting

/-!
# Which merges are reported

A directory or a bundle opens a class, and another one before it may have opened the same. An entry
among the skipped names is made if the later one is a directory, whatever the earlier one is; a
bundle makes none, be it the first file of the bundle or another one. So the entries of a build are
told by its requests: one for each directory whose class was opened before it, in their order, and
no others (`mergedEntries_of_build`).

A directory looks for its class in the tree. The log of a walk is grounded up to every request, so
a class is in the tree if and only if it was opened (`hasNestedAt_foldl_perform_iff`).
-/

namespace JavaConstants

/-! ## What was opened -/

theorem filterMap_cons_eq_append {α β : Type} (f : α → Option β) (a : α) (l : List α) :
    (a :: l).filterMap f = (f a).toList ++ l.filterMap f := by
  rw [List.filterMap_cons]
  cases f a <;> rfl

section Merged

variable {o : ExtractOptions} {rootName : String}

/-- Requests leave a class in the tree if and only if one of them opens it. -/
theorem hasNestedAt_foldl_perform_iff (rootName : String) {rs : List Request}
    (h : Grounded [[]] (rs.filterMap (·.action? o))) (scope : List String) (n : String) :
    (rs.foldl (Request.perform o) (.start rootName)).root.hasNestedAt scope n = true ↔
      .opening scope n ∈ rs.filterMap (·.action? o) := by
  rw [ClassNode.hasNestedAt_iff, root_foldl_perform, ← mem_openings_iff]
  exact (h.firstWriterWins rootName).isSome_find?_iff scope n

/-! ## The entries

Whether a class is there when a request is carried out is told by the log in front of it, if the
log is grounded. So entries can be listed without the tree (`mergedEntries`). -/

/-- The entry for a directory whose class was opened before. -/
def Request.merge? (o : ExtractOptions) (rootName : String) (log : List Action) :
    Request → Option Skipped
  | directory scope name => (o.className? name).bind fun n ↦
      if .opening scope n ∈ log then some ⟨rootName :: scope, name, .mergedClass⟩ else none
  | _ => none

/-- The entries for directories whose class was opened before, by the requests of a log or by an
earlier one of the list. -/
def mergedEntries (o : ExtractOptions) (rootName : String) (log : List Action) :
    List Request → List Skipped
  | [] => []
  | r :: rs => (r.merge? o rootName log).toList ++
      mergedEntries o rootName (log ++ (r.action? o).toList) rs

theorem Request.merge?_eq_some_iff {log : List Action} {r : Request} {e : Skipped} :
    r.merge? o rootName log = some e ↔ ∃ scope name n, r = .directory scope name ∧
      o.className? name = some n ∧ .opening scope n ∈ log ∧
        e = ⟨rootName :: scope, name, .mergedClass⟩ := by
  constructor
  · intro h
    cases r with
    | directory scope name =>
      obtain ⟨n, hn, h⟩ := Option.bind_eq_some_iff.mp h
      rw [Option.ite_none_right_eq_some, Option.some.injEq] at h
      exact ⟨scope, name, n, rfl, hn, h.1, h.2.symm⟩
    | linkedDirectory scope name => cases h
    | bundle scope name => cases h
    | constant scope name value => cases h
  · rintro ⟨scope, name, n, rfl, hn, hopened, rfl⟩
    rw [merge?, hn, Option.bind_some, if_pos hopened]

theorem mem_mergedEntries_iff {log : List Action} {rs : List Request} {e : Skipped} :
    e ∈ mergedEntries o rootName log rs ↔ ∃ before r after, rs = before ++ r :: after ∧
      r.merge? o rootName (log ++ before.filterMap (·.action? o)) = some e := by
  induction rs generalizing log with
  | nil => simp [mergedEntries]
  | cons r rs ih =>
    rw [mergedEntries, List.mem_append, ih, Option.mem_toList]
    constructor
    · rintro (h | ⟨before, r', after, rfl, h⟩)
      · exact ⟨[], r, rs, rfl, by simpa using h⟩
      · refine ⟨r :: before, r', after, rfl, ?_⟩
        rwa [filterMap_cons_eq_append, ← List.append_assoc]
    · rintro ⟨_ | ⟨_, before⟩, r', after, hrs, h⟩
      · cases hrs
        exact .inl (by simpa using h)
      · cases hrs
        refine .inr ⟨before, r', after, rfl, ?_⟩
        rwa [filterMap_cons_eq_append, ← List.append_assoc] at h

theorem filter_skipped?_ending (rootName : String) {rs : List Request}
    (h : Grounded [[]] (rs.filterMap (·.action? o))) (r : Request) :
    (r.ending o (rs.foldl (Request.perform o) (.start rootName)).root).skipped?.toList.filter
        (·.reason = .mergedClass) =
      (r.merge? o rootName (rs.filterMap (·.action? o))).toList := by
  have hname := (grows_foldl_perform o (.start rootName) rs).name_eq
  have hopened := hasNestedAt_foldl_perform_iff rootName h
  generalize (rs.foldl (Request.perform o) (.start rootName)).root = root at hname hopened ⊢
  cases r with
  | directory scope name =>
    rw [Request.ending, Request.merge?]
    cases o.className? name with
    | none => rfl
    | some n =>
      simp only [hopened scope n, hname, Option.bind_some]
      split_ifs <;> rfl
  | linkedDirectory scope name => rfl
  | bundle scope name =>
    rw [Request.ending]
    cases o.className? name with
    | none => rfl
    | some n =>
      dsimp only
      split_ifs <;> rfl
  | constant scope name value =>
    rw [Request.ending]
    cases o.fieldName? name with
    | none => rfl
    | some n =>
      dsimp only
      split_ifs <;> rfl

/-- The entries for merges that requests make, by induction on them: `before` has been carried out,
and its log is grounded. -/
theorem filter_skipped?_ledger (before : List Request) {rs : List Request}
    (h : Grounded [[]] ((before ++ rs).filterMap (·.action? o))) :
    ((ledger o (before.foldl (Request.perform o) (.start rootName)) rs).filterMap
        (·.2.skipped?)).filter (·.reason = .mergedClass) =
      mergedEntries o rootName (before.filterMap (·.action? o)) rs := by
  induction rs generalizing before with
  | nil => rfl
  | cons r rs ih =>
    have hbefore := h
    rw [List.filterMap_append] at hbefore
    have hfirst := filter_skipped?_ending rootName hbefore.of_append r
    rw [List.append_cons] at h
    have hrest := ih (before ++ [r]) h
    rw [List.foldl_append, filterMap_concat] at hrest
    rw [ledger, filterMap_cons_eq_append, List.filter_append, mergedEntries, ← hfirst, ← hrest]
    rfl

end Merged

/-! ## Builds -/

namespace ResourceSettings

/-- **Reported merges.** The entries for merges that a build makes are told by its requests. There
is one for each directory whose class an earlier directory or bundle of the same scope has opened,
in the scope of the class around it, and there are no others. -/
theorem mergedEntries_of_build {s : ResourceSettings} {guarded : List Path} {clock : Clock}
    {w w' : Workspace} {file : SourceFile} {skipped : List Skipped}
    (hbuild : s.build guarded clock w = .ok (file, skipped) w') :
    ∃ rs, resourceRequests w.files s.extractOptions (.ofPaths w.files s.exclusions)
        s.resourcesDir = .ok rs ∧
      skipped.filter (·.reason = .mergedClass) =
        mergedEntries s.extractOptions s.rootName [] rs ∧
      ∀ e, e ∈ skipped ∧ e.reason = .mergedClass ↔ ∃ before scope name n after,
        rs = before ++ .directory scope name :: after ∧
        s.extractOptions.className? name = some n ∧
        .opening scope n ∈ before.filterMap (·.action? s.extractOptions) ∧
        e = ⟨s.rootName :: scope, name, .mergedClass⟩ := by
  obtain ⟨_, h, hharvest, _, rfl, _⟩ := build_eq_ok_iff.mp hbuild
  obtain ⟨rs, hrs, _, _, hskipped⟩ := (walkResources_performs w.files s.extractOptions
    (.ofPaths w.files s.exclusions) s.resourcesDir).exists_of_ok hharvest
  obtain ⟨⟨root, nodes⟩, _, hrequests⟩ := bind_eq_ok hrs
  have hgrounded : Grounded [[]] (rs.filterMap (·.action? s.extractOptions)) :=
    groundedLog_nodesRequests ⟨s.extractOptions, .ofPaths w.files s.exclusions, root⟩ nodes [] []
      [[]] List.mem_cons_self rs hrequests
  have hentries : h.skipped.filter (·.reason = .mergedClass) =
      mergedEntries s.extractOptions s.rootName [] rs := by
    rw [hskipped, skipped_foldl_perform]
    exact filter_skipped?_ledger [] hgrounded
  refine ⟨rs, hrs, hentries, fun e ↦ ?_⟩
  have hmem : e ∈ h.skipped ∧ e.reason = .mergedClass ↔
      e ∈ mergedEntries s.extractOptions s.rootName [] rs := by
    rw [← hentries, List.mem_filter, decide_eq_true_iff]
  rw [hmem, mem_mergedEntries_iff]
  simp only [List.nil_append, Request.merge?_eq_some_iff]
  constructor
  · rintro ⟨before, r, after, rfl, scope, name, n, rfl, hn, hopened, rfl⟩
    exact ⟨before, scope, name, n, after, rfl, hn, hopened, rfl⟩
  · rintro ⟨before, scope, name, n, after, rfl, hn, hopened, rfl⟩
    exact ⟨before, _, after, rfl, scope, name, n, rfl, hn, hopened, rfl⟩

/-- Settings for the directory `/r`, with a class for each bundle and classes in lower case. -/
def withBundles : ResourceSettings :=
  { ofR with
    lowercaseClasses := true
    enableProperties := true
    properties := { writeResourceBundle := true } }

theorem check_withBundles {fs : FileSystem} (h : ofR.check [] fs = .ok ()) :
    withBundles.check [] fs = .ok () := by
  have hroot : withBundles.rootName = "r" := by cbv
  have hname : checkClassName withBundles.rootName = checkClassName ofR.rootName := by
    rw [hroot]
    decide
  rw [check, hname]
  exact h

/-- Files with a bundle below `/r` and a directory of the same class behind it. -/
def bundleFirst : Workspace where
  files := { root := .directory [("r", .directory [
    ("S_en.properties", .file [107]), ("s", .directory [("a.txt", .file [])])])] }

/-- The requests of `bundleFirst`. -/
def bundleFirstRequests : List Request :=
  [.bundle [] "S", .constant ["s"] "k" "k", .constant [] "_S_en" "/S_en.properties",
    .directory [] "s", .constant ["s"] "a" "/s/a.txt"]

theorem mergedEntries_of_build_bundleFirst : ∃ file w',
    withBundles.build [] newYear bundleFirst = .ok (file, [⟨["r"], "s", .mergedClass⟩]) w' ∧
      ∃ rs, resourceRequests bundleFirst.files withBundles.extractOptions
          (.ofPaths bundleFirst.files withBundles.exclusions) withBundles.resourcesDir = .ok rs ∧
        mergedEntries withBundles.extractOptions withBundles.rootName [] rs =
          [⟨["r"], "s", .mergedClass⟩] := by
  have hofR : ofR.check [] bundleFirst.files = .ok () := check_ofR (by cbv) (by cbv) (by cbv)
  have hnodes : resourceNodes bundleFirst.files withBundles.resourcesDir =
      .ok (["r"], [.file "S_en.properties" (.ok [107]),
        .directory "s" [] [.file "a.txt" (.ok [])]]) := by cbv
  have hrequests : resourceRequests bundleFirst.files withBundles.extractOptions
      (.ofPaths bundleFirst.files withBundles.exclusions) withBundles.resourcesDir =
      .ok bundleFirstRequests := by
    rw [resourceRequests, hnodes]
    decide +kernel
  have hskipped : (bundleFirstRequests.foldl (Request.perform withBundles.extractOptions)
      (.start withBundles.rootName)).skipped = [⟨["r"], "s", .mergedClass⟩] := by decide +kernel
  obtain ⟨w', hbuild⟩ := exists_build_of_requests newYear (check_withBundles hofR) hrequests
  rw [hskipped] at hbuild
  obtain ⟨rs, hrs, hentries, _⟩ := mergedEntries_of_build hbuild
  exact ⟨_, w', hbuild, rs, hrs, hentries.symm⟩

/-- Files with a directory below `/r` and a bundle of the same class behind it. -/
def directoryFirst : Workspace where
  files := { root := .directory [("r", .directory [
    ("s", .directory [("a.txt", .file [])]), ("s_en.properties", .file [107])])] }

/-- The requests of `directoryFirst`. -/
def directoryFirstRequests : List Request :=
  [.directory [] "s", .constant ["s"] "a" "/s/a.txt", .bundle [] "s", .constant ["s"] "k" "k",
    .constant [] "_s_en" "/s_en.properties"]

/-- The class built from `directoryFirst`, with one class for the directory and the bundle. -/
def directoryFirstClass : ClassNode :=
  .mk "r" [("_s_en", .ofText "_s_en" "/s_en.properties")]
    [("s", .mk "s" [("a", .ofText "a" "/s/a.txt"), ("k", .ofText "k" "k")] [])]

/-- A bundle can come to the class of a directory without an entry. -/
theorem merge_unreported_directoryFirst :
    resourceRequests directoryFirst.files withBundles.extractOptions
        (.ofPaths directoryFirst.files withBundles.exclusions) withBundles.resourcesDir =
      .ok directoryFirstRequests ∧
    ∃ w', withBundles.build [] newYear directoryFirst =
      .ok (⟨"p", some newYear.here.comment, directoryFirstClass⟩, []) w' := by
  have hofR : ofR.check [] directoryFirst.files = .ok () := check_ofR (by cbv) (by cbv) (by cbv)
  have hnodes : resourceNodes directoryFirst.files withBundles.resourcesDir =
      .ok (["r"], [.directory "s" [] [.file "a.txt" (.ok [])],
        .file "s_en.properties" (.ok [107])]) := by cbv
  have hrequests : resourceRequests directoryFirst.files withBundles.extractOptions
      (.ofPaths directoryFirst.files withBundles.exclusions) withBundles.resourcesDir =
      .ok directoryFirstRequests := by
    rw [resourceRequests, hnodes]
    decide +kernel
  have hharvest : directoryFirstRequests.foldl (Request.perform withBundles.extractOptions)
      (.start withBundles.rootName) = { root := directoryFirstClass } := by cbv
  obtain ⟨w', hbuild⟩ := exists_build_of_requests newYear (check_withBundles hofR) hrequests
  rw [hharvest] at hbuild
  exact ⟨hrequests, w', hbuild⟩

end ResourceSettings

end JavaConstants
