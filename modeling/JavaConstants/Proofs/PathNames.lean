import JavaConstants.Proofs.Accounting
import JavaConstants.Proofs.Repair

/-!
# The names of path constants

A file that an adapter knew gets an underscore in front of the name of its path constant, so that
the constant stands apart from one for a key of the same name. The underscore is added before the
repair, and the repair may take it in: it puts one in front of its own accord, and collapses two to
one (`LosesPrefix`). The names differ in all other cases, and the path is left out for the key's
constant just if they do not (`walkFile_prefixed_iff`). The keys of a bundle go to a class of their
own, so the path is never lost to them (`walkFile_bundled`).

An underscore composes with nothing behind it, so the composed form of a name goes on behind it as
it was (`composed_underscore_append`). This is read off the pairs that compose, one line at a time.
-/

namespace JavaConstants

theorem toList_underscore_append (s : String) : ("_" ++ s).toList = '_' :: s.toList := by simp

/-! ## Composition behind an underscore -/

namespace Unicode

theorem SortedTable.mem_of_bisect {α : Type} {a : Array (Nat × α)} {n lo hi : Nat}
    {best : Option (Nat × α)} {e : Nat × α} (h : bisect a n lo hi best = some e) :
    best = some e ∨ e ∈ a := by
  fun_induction bisect a n lo hi best with
  | case1 => exact .inl h
  | case2 lo hi best _ d hd _ ih =>
    rcases ih h with hd' | he
    · cases hd'
      exact .inr (Array.mem_of_getElem? hd)
    · exact .inr he
  | case3 lo hi best _ d hd _ ih => exact ih h
  | case4 => exact .inl h

theorem SortedTable.get?_eq_none {α : Type} {t : SortedTable α} {n : Nat}
    (h : ∀ e ∈ t.entries, e.1 ≠ n) : t.get? n = none := by
  rw [get?]
  split
  · rename_i k v hfloor
    have hmem : (k, v) ∈ t.entries := (mem_of_bisect hfloor).resolve_left (by simp)
    exact if_neg (h _ hmem)
  · rfl

theorem tableWords_ofList (cs : List Char) : tableWords (String.ofList cs) =
    (cs.splitOnP fun c ↦ c == ' ' || c == '\n').filter (!·.isEmpty) := by
  rw [tableWords, String.toList_ofList]

theorem tableWords_intercalate (lines : List String) :
    tableWords ("\n".intercalate lines) = lines.flatMap tableWords := by
  have hline (s t : String) : tableWords (s ++ "\n" ++ t) = tableWords s ++ tableWords t := by
    have hlist : (s ++ "\n" ++ t).toList = s.toList ++ '\n' :: t.toList := by simp
    rw [tableWords, hlist, List.splitOnP_append_cons _ _ (by decide), List.filter_append]
    rfl
  induction lines with
  | nil => rfl
  | cons line lines ih =>
    rcases lines with _ | ⟨next, lines⟩
    · rw [String.intercalate_singleton, List.flatMap_singleton]
    · rw [String.intercalate_cons_cons, hline, ih, List.flatMap_cons]
      rfl

theorem ne_underscore_of_mem_compositions {e : Nat × Nat} (he : e ∈ compositions.entries) :
    e.1 / 0x110000 ≠ '_'.toNat := by
  have hall : ∀ w ∈ tableWords compositionText,
      PairTable.key (ofHexDigits (splitWord '+' (splitWord '=' w).1).1)
        (ofHexDigits (splitWord '+' (splitWord '=' w).1).2) / 0x110000 ≠ '_'.toNat := by
    rw [compositionText, tableWords_intercalate]
    simp only [List.forall_mem_flatMap, List.forall_mem_cons, List.not_mem_nil, false_imp_iff,
      implies_true, and_true]
    and_intros
    all_goals
      rw [tableWords_ofList]
      decide +kernel
  rw [compositions, PairTable.ofText, List.mem_toArray, List.mem_map] at he
  obtain ⟨w, hw, rfl⟩ := he
  exact hall w hw

theorem composePair?_underscore (c : Char) : composePair? '_' c = none := by
  have hhangul : composeHangul? '_'.toNat c.toNat = none := by
    rw [composeHangul?, if_neg (by simp), if_neg (by simp [hangulBase])]
  have htable : compositions.get? (PairTable.key '_'.toNat c.toNat) = none := by
    refine SortedTable.get?_eq_none fun e he heq ↦ ne_underscore_of_mem_compositions he ?_
    have hvalid : c.toNat < 0xD800 ∨ 0xDFFF < c.toNat ∧ c.toNat < 0x110000 := c.valid
    rw [heq, PairTable.key]
    omega
  rw [composePair?, hhangul, htable]
  rfl

theorem combiningClass_underscore : combiningClass '_' = 0 := rfl

theorem composeAfter_underscore (kept cs : List Char) :
    composeAfter '_' kept cs = '_' :: (kept.reverse ++ compose cs) := by
  induction cs generalizing kept with
  | nil => rw [composeAfter, compose, List.append_nil]
  | cons c cs ih =>
    rw [composeAfter.eq_def]
    simp only [composePair?_underscore, ite_self]
    rw [compose]
    split_ifs with hclass
    · rfl
    · rw [ih, List.reverse_cons, List.append_assoc, List.singleton_append]

/-- Composition goes on behind an underscore as without it. -/
theorem composed_underscore_append (s : String) : composed ("_" ++ s) = "_" ++ composed s := by
  have hdecompose : decomposeChar '_' = ['_'] := rfl
  have horder (ds : List Char) : insertMark '_' ds = '_' :: ds := by
    cases ds with
    | nil => rfl
    | cons d ds => rw [insertMark, if_neg (by simp [combiningClass_underscore])]
  rw [composed, composed, toList_underscore_append, List.flatMap_cons, hdecompose,
    List.singleton_append, canonicalOrder, List.foldr_cons, horder, compose,
    if_pos combiningClass_underscore, composeAfter_underscore, List.reverse_nil, List.nil_append,
    ← canonicalOrder, underscore_append_ofList]

theorem upper_underscore_append (s : String) : upper ("_" ++ s) = "_" ++ upper s := by
  have hchar : upperChar '_' = ['_'] := rfl
  rw [upper, upper, toList_underscore_append, List.flatMap_cons, hchar, List.singleton_append,
    underscore_append_ofList]

end Unicode

/-! ## Repair behind an underscore

The repair puts an underscore in front where a name cannot start, and collapses underscores to
one. With an underscore in front of a text it has nothing to put there, and it collapses this one
with those that follow; so two names can come to one identifier. -/

theorem isReserved_underscore_append (s : String) : isReserved ("_" ++ s) = false := by
  rw [Bool.eq_false_iff]
  intro h
  exact (of_isReserved_underscore h).2 (by rw [toList_underscore_append, List.head?_cons])

theorem isName_underscore_append {s : String} (h : isName s = true) : isName ("_" ++ s) = true := by
  have hlist : s = String.ofList s.toList := String.ofList_toList.symm
  rw [hlist] at h ⊢
  have hreserved := isReserved_underscore_append (String.ofList s.toList)
  generalize s.toList = cs at h hreserved ⊢
  rcases cs with _ | ⟨c, cs⟩
  · exact absurd h (by decide)
  · rw [underscore_append_ofList] at hreserved ⊢
    obtain ⟨_, _, hstart, hparts⟩ := isName_ofList_cons_iff.mp h
    refine isName_ofList_cons_iff.mpr ⟨by simp, hreserved, isIdentifierStart_underscore, ?_⟩
    rw [List.forall_mem_cons]
    exact ⟨isIdentifierPart_of_isIdentifierStart hstart, hparts⟩

theorem squeeze_underscore_cons (cs : List Char) : squeeze ('_' :: cs) =
    if cs.head? = some '_' then squeeze cs else '_' :: squeeze cs := by
  rcases cs with _ | ⟨c, cs⟩
  · rfl
  · rw [squeeze, squeeze, List.destutter_cons', List.destutter_cons', List.destutter',
      List.head?_cons]
    by_cases hc : c = '_'
    · rw [if_neg (by simp [Separate, hc]), if_pos (by rw [hc]), hc]
    · rw [if_pos (by simp [Separate, hc]), if_neg (by simpa using hc)]

theorem isReserved_of_head? {cs : List Char} (h : cs.head? = some '_') :
    isReserved (String.ofList cs) = false := by
  obtain ⟨rest, rfl⟩ := List.head?_eq_some_iff.mp h
  rw [← underscore_append_ofList]
  exact isReserved_underscore_append _

theorem repair_underscore_append_eq (raw : String) : repair ("_" ++ raw) =
    String.ofList (squeeze ('_' :: masked (startable (Unicode.composed raw).toList))) := by
  rw [repair, Unicode.composed_underscore_append, toList_underscore_append]
  generalize (Unicode.composed raw).toList = cs
  have hmasked : masked (startable ('_' :: cs)) = '_' :: masked cs := by
    rw [startable, if_pos (by simp [isIdentifierStart_underscore])]
    rfl
  have hsqueeze : squeeze ('_' :: masked (startable cs)) = squeeze ('_' :: masked cs) := by
    rw [startable]
    split_ifs
    · rfl
    · have htwice : masked ('_' :: cs) = '_' :: masked cs := rfl
      rw [htwice, squeeze_underscore_cons, List.head?_cons, if_pos rfl]
  rw [hmasked, hsqueeze]
  exact if_neg (by rw [isReserved_of_head? (by rw [head?_squeeze, List.head?_cons])]; simp)

/-- The repair of a name with an underscore in front: the repair of the name, with an underscore
unless it begins with one. -/
theorem repair_underscore_append (raw : String) : repair ("_" ++ raw) =
    if (repair raw).toList.head? = some '_' then repair raw else "_" ++ repair raw := by
  rw [repair_underscore_append_eq, squeeze_underscore_cons, repair]
  generalize masked (startable (Unicode.composed raw).toList) = cs
  rw [← head?_squeeze]
  generalize squeeze cs = name
  by_cases hhead : name.head? = some '_'
  · simp only [isReserved_of_head? hhead, hhead, Bool.false_eq_true, if_false, if_true,
      String.toList_ofList]
  · -- A reserved word gets the underscore by itself.
    by_cases hreserved : isReserved (String.ofList name) = true
    · rw [if_pos hreserved, toList_underscore_append, if_neg hhead, List.head?_cons, if_pos rfl,
        underscore_append_ofList]
    · rw [if_neg hreserved, String.toList_ofList, if_neg hhead, if_neg hhead,
        underscore_append_ofList]

theorem unrepairable_underscore_append_iff {raw : String} :
    Unrepairable ("_" ++ raw) ↔ Unrepairable raw := by
  rw [Unrepairable, Unicode.composed_underscore_append, toList_underscore_append,
    List.forall_mem_cons, ← Unrepairable]
  exact and_iff_right fun _ ↦ rfl

theorem exists_identifier?_underscore_append {raw n : String} (hn : identifier? raw = some n) :
    ∃ m, identifier? ("_" ++ raw) = some m := by
  by_cases hprefixed : isName ("_" ++ raw) = true
  · exact ⟨_, if_pos hprefixed⟩
  · have hraw : isName raw = false := by
      rw [Bool.eq_false_iff]
      exact fun h ↦ hprefixed (isName_underscore_append h)
    rw [identifier?_of_not_isName hraw, Option.ite_none_left_eq_some] at hn
    rw [Bool.not_eq_true] at hprefixed
    rw [identifier?_of_not_isName hprefixed,
      if_neg fun h ↦ hn.1 (unrepairable_underscore_append_iff.mp h)]
    exact ⟨_, rfl⟩

/-- Whether the repair of a name takes in an underscore in front of it: it begins with one, and
where the underscore and the name are a name as they stand, it is that name. -/
def LosesPrefix (raw : String) : Prop :=
  isName raw = false ∧ (repair raw).toList.head? = some '_' ∧
    (isName ("_" ++ raw) = true → repair raw = "_" ++ raw)

instance (raw : String) : Decidable (LosesPrefix raw) := inferInstanceAs (Decidable (_ ∧ _))

/-- An underscore in front of a name makes no difference to the identifier if and only if it is
lost. -/
theorem eq_iff_losesPrefix {raw n m : String} (hn : identifier? raw = some n)
    (hm : identifier? ("_" ++ raw) = some m) : n = m ↔ LosesPrefix raw := by
  have hlonger (s : String) : s ≠ "_" ++ s := by
    intro h
    have hlength := congrArg (fun s : String ↦ s.toList.length) h
    simp at hlength
  have hname {s : String} (h : isName s = true) : identifier? s = some s := if_pos h
  by_cases hraw : isName raw = true
  · cases (hname hraw).symm.trans hn
    cases (hname (isName_underscore_append hraw)).symm.trans hm
    exact iff_of_false (hlonger raw) fun h ↦ by rw [LosesPrefix, hraw] at h; cases h.1
  · rw [Bool.not_eq_true] at hraw
    rw [identifier?_of_not_isName hraw, Option.ite_none_left_eq_some, Option.some.injEq] at hn
    obtain ⟨hrepairable, rfl⟩ := hn
    by_cases hprefixed : isName ("_" ++ raw) = true
    · cases (hname hprefixed).symm.trans hm
      refine ⟨fun h ↦ ⟨hraw, ?_, fun _ ↦ h⟩, fun h ↦ h.2.2 hprefixed⟩
      rw [h, toList_underscore_append, List.head?_cons]
    · rw [Bool.not_eq_true] at hprefixed
      rw [identifier?_of_not_isName hprefixed, Option.ite_none_left_eq_some, Option.some.injEq,
        repair_underscore_append] at hm
      obtain ⟨_, rfl⟩ := hm
      split_ifs with hhead
      · exact iff_of_true rfl ⟨hraw, hhead, fun h ↦ absurd h (by simp [hprefixed])⟩
      · exact iff_of_false (hlonger _) fun h ↦ hhead h.2.1

/-! ## The path of a file that an adapter knew

The keys of a file come before its path, so a key whose identifier is that of the path takes the
name. A file of a bundle has its keys in another class, where they do no harm to it. -/

/-- A name as a constant takes it, before the repair. -/
def ExtractOptions.cased (o : ExtractOptions) (name : String) : String :=
  if o.uppercaseFields then Unicode.upper name else name

theorem ExtractOptions.fieldName?_eq (o : ExtractOptions) (name : String) :
    o.fieldName? name = identifier? (o.cased name) := rfl

theorem ExtractOptions.cased_underscore_append (o : ExtractOptions) (name : String) :
    o.cased ("_" ++ name) = "_" ++ o.cased name := by
  rw [cased, cased]
  split_ifs
  · exact Unicode.upper_underscore_append name
  · rfl

theorem hasFieldAt_foldl_perform {o : ExtractOptions} {h : Harvest} {rs : List Request}
    {scope : List String} {name value n : String} (hmem : .constant scope name value ∈ rs)
    (hn : o.fieldName? name = some n) :
    (rs.foldl (Request.perform o) h).root.hasFieldAt scope n = true := by
  rw [← map_fst_ledger o h rs, List.mem_map] at hmem
  obtain ⟨⟨r, e⟩, he, rfl⟩ := hmem
  have hends := endsAs_of_mem_ledger he
  cases hends with
  | declared hn' hfield =>
    cases hn.symm.trans hn'
    rw [ClassNode.hasFieldAt_eq, hfield]
    rfl
  | duplicate hn' hfield =>
    cases hn.symm.trans hn'
    exact hfield
  | unsanitizable hn' => cases hn.symm.trans hn'

section Prefixed

variable {c : WalkContext} {below : List String} {name : String}
  {content : Except OsError (List UInt8)} {a : FormatAdapter} {keys : List String} {n : String}

theorem exists_walkFile (scope : List String) (hvisits : c.visits below name = true)
    (hhandler : c.options.handler? name = some a)
    (hkeys : a.keys ⟨c.path (below ++ [name]), name, content⟩ = .ok keys) (h : Harvest) :
    ∃ after, walkNode c below scope (.file name content) h = .ok () after ∧
      after.Agrees ((Request.constant scope (pathName true name)
        (pathValue (below ++ [name]))).perform c.options
          ((a.requests c.options scope name keys).foldl (Request.perform c.options) h)) := by
  have hrequests : c.nodeRequests below scope (.file name content) =
      .ok (a.requests c.options scope name keys ++
        [.constant scope (pathName true name) (pathValue (below ++ [name]))]) := by
    rw [WalkContext.nodeRequests, if_pos hvisits, WalkContext.fileRequests,
      ExtractOptions.keyRequests, hhandler]
    simp only [hkeys, Option.isSome_some]
    rfl
  have hperforms := walkFile_performs c below scope name content h
  rw [hrequests] at hperforms
  obtain ⟨after, hwalk, hagrees⟩ := hperforms
  rw [List.foldl_append] at hagrees
  exact ⟨after, hwalk, hagrees⟩

/-- A constant that is asked for is left out as a duplicate if its name is taken, and is declared
otherwise. -/
theorem perform_constant {o : ExtractOptions} {path m : String} (scope : List String)
    (value : String) (h : Harvest) (hm : o.fieldName? path = some m) :
    if h.root.hasFieldAt scope m then
      ((Request.constant scope path value).perform o h).skipped =
        h.skipped ++ [⟨h.root.name :: scope, m, .duplicate⟩]
    else ((Request.constant scope path value).perform o h).skipped = h.skipped ∧
      (((Request.constant scope path value).perform o h).root.fieldsAt scope).lookup m =
        some (.ofText m value) := by
  have hskipped := Request.skipped_perform o (.constant scope path value) h
  have hends := (Request.leaves_perform o (.constant scope path value) h).endsAs
  have hending : (Request.constant scope path value).ending o h.root =
      if h.root.hasFieldAt scope m then .recorded ⟨h.root.name :: scope, m, .duplicate⟩
      else .declared := by
    rw [Request.ending, hm]
  rw [hending] at hskipped hends
  split_ifs at hskipped hends ⊢ with htaken
  · exact hskipped
  · refine ⟨hskipped.trans (List.append_nil _), ?_⟩
    cases hends with
    | declared hn hfield =>
      cases hm.symm.trans hn
      exact hfield

/-- **The path of a file with a key of its name.** Whatever has been gathered before the walk comes
to the file, its key has a constant when it comes to the path. The constant of the path has another
name unless the repair takes in the underscore; it is left out for the key's then, and only then. -/
theorem walkFile_prefixed_iff (scope : List String) (hvisits : c.visits below name = true)
    (hhandler : c.options.handler? name = some a) (hbundle : a.bundle? name = none)
    (hkeys : a.keys ⟨c.path (below ++ [name]), name, content⟩ = .ok keys)
    (hkey : baseName name ∈ keys) (hn : c.options.fieldName? (baseName name) = some n) :
    ∃ m, c.options.fieldName? (pathName true name) = some m ∧
      (n = m ↔ LosesPrefix (c.options.cased (baseName name))) ∧
      ∀ h : Harvest, ∃ before after, before = h.addKeys c.options.uppercaseFields scope keys ∧
        before.root.hasFieldAt scope n = true ∧
        walkNode c below scope (.file name content) h = .ok () after ∧
        (after.skipped = before.skipped ++ [⟨h.root.name :: scope, n, .duplicate⟩] ↔ n = m) ∧
        (before.root.hasFieldAt scope m = false →
          (after.root.fieldsAt scope).lookup m =
            some (.ofText m (pathValue (below ++ [name])))) := by
  have hraw := c.options.fieldName?_eq (baseName name) ▸ hn
  obtain ⟨m, hm⟩ := exists_identifier?_underscore_append hraw
  have hpath : c.options.fieldName? (pathName true name) = some m := by
    rw [pathName, if_pos rfl, ExtractOptions.fieldName?_eq, ExtractOptions.cased_underscore_append,
      hm]
  refine ⟨m, hpath, eq_iff_losesPrefix hraw hm, fun h ↦ ?_⟩
  obtain ⟨after, hwalk, hroot, hskipped⟩ := exists_walkFile scope hvisits hhandler hkeys h
  have hrequests : a.requests c.options scope name keys =
      keys.map fun key ↦ .constant scope key key := by
    rw [FormatAdapter.requests, hbundle]
  rw [hrequests, ← addKeys_eq_foldl_perform] at hroot hskipped
  have htaken :
      (h.addKeys c.options.uppercaseFields scope keys).root.hasFieldAt scope n = true := by
    rw [addKeys_eq_foldl_perform]
    exact hasFieldAt_foldl_perform (List.mem_map_of_mem hkey) hn
  have hname : (h.addKeys c.options.uppercaseFields scope keys).root.name = h.root.name := by
    rw [addKeys_eq_foldl_perform]
    exact (grows_foldl_perform c.options h _).name_eq
  generalize h.addKeys c.options.uppercaseFields scope keys = before at *
  have hlast := perform_constant scope (pathValue (below ++ [name])) before hpath
  refine ⟨before, after, rfl, htaken, hwalk, ?_, fun hfree ↦ ?_⟩
  · rw [hskipped]
    split_ifs at hlast with hfield
    · rw [hlast, hname, List.append_cancel_left_eq]
      constructor
      · rintro ⟨⟩
        rfl
      · rintro rfl
        rfl
    · rw [hlast.1]
      refine iff_of_false (fun h ↦ ?_) fun h ↦ hfield (h ▸ htaken)
      exact absurd h.symm (by simp)
  · rw [if_neg (by simp [hfree])] at hlast
    rw [hroot]
    exact hlast.2

theorem fieldsAt_bundled {bundle : String} (o : ExtractOptions) (scope keys : List String)
    (hbundle : a.bundle? name = some bundle) (h : Harvest) :
    ((a.requests o scope name keys).foldl (Request.perform o) h).root.fieldsAt scope =
      h.root.fieldsAt scope := by
  rw [root_foldl_perform]
  refine fieldsAt_replay_of_offers (List.filterMap_eq_nil_iff.mpr fun action haction ↦ ?_) _
  obtain ⟨r, hr, haction⟩ := List.mem_filterMap.mp haction
  rw [FormatAdapter.requests, hbundle] at hr
  rcases List.mem_cons.mp hr with rfl | hr
  · obtain ⟨n, _, rfl⟩ := Option.map_eq_some_iff.mp haction
    rfl
  · cases hn : o.className? bundle with
    | none =>
      rw [hn] at hr
      cases hr
    | some n =>
      rw [hn] at hr
      obtain ⟨key, _, rfl⟩ := List.mem_map.mp hr
      obtain ⟨k, _, rfl⟩ := Option.map_eq_some_iff.mp haction
      exact if_neg (by simp)

/-- The path of a file whose keys go to the class of a bundle is not lost to any of them: if its
name was free before the walk came to the file, it has its constant. -/
theorem walkFile_bundled {bundle m : String} (scope : List String)
    (hvisits : c.visits below name = true) (hhandler : c.options.handler? name = some a)
    (hbundle : a.bundle? name = some bundle)
    (hkeys : a.keys ⟨c.path (below ++ [name]), name, content⟩ = .ok keys)
    (hm : c.options.fieldName? (pathName true name) = some m) {h : Harvest}
    (hfree : h.root.hasFieldAt scope m = false) :
    ∃ after, walkNode c below scope (.file name content) h = .ok () after ∧
      (after.root.fieldsAt scope).lookup m = some (.ofText m (pathValue (below ++ [name]))) := by
  obtain ⟨after, hwalk, hroot, _⟩ := exists_walkFile scope hvisits hhandler hkeys h
  have hfields := fieldsAt_bundled c.options scope keys hbundle h
  generalize (a.requests c.options scope name keys).foldl (Request.perform c.options) h = before
    at hroot hfields
  have hlast := perform_constant scope (pathValue (below ++ [name])) before hm
  rw [ClassNode.hasFieldAt_eq, hfields, ← ClassNode.hasFieldAt_eq, hfree,
    if_neg Bool.false_ne_true] at hlast
  exact ⟨after, hwalk, hroot ▸ hlast.2⟩

end Prefixed

/-! ## A number -/

theorem identifier?_one : identifier? "1" = some "_1" := by
  rw [identifier?_of_not_isName (by decide), if_neg not_unrepairable_one, repair_one]

theorem identifier?_underscoreOne : identifier? "_1" = some "_1" := if_pos (by decide)

/-- The walk of `/r` with properties files read. -/
def propertiesWalk : WalkContext := ⟨⟨[.properties {}], false, false⟩, ⟨[]⟩, ["r"]⟩

/-- The path of a file named by a number is lost to a key with that number. -/
theorem walkFile_prefixed_iff_one :
    propertiesWalk.visits [] "1.properties" = true ∧
      propertiesWalk.options.handler? "1.properties" = some (.properties {}) ∧
      (FormatAdapter.properties {}).bundle? "1.properties" = none ∧
      (FormatAdapter.properties {}).keys
        ⟨propertiesWalk.path ["1.properties"], "1.properties", .ok [49]⟩ = .ok ["1"] ∧
      baseName "1.properties" ∈ ["1"] ∧
      propertiesWalk.options.fieldName? (baseName "1.properties") = some "_1" ∧
      ∃ m, propertiesWalk.options.fieldName? (pathName true "1.properties") = some m ∧
        ("_1" = m ↔ LosesPrefix (propertiesWalk.options.cased (baseName "1.properties"))) := by
  have hvisits : propertiesWalk.visits [] "1.properties" = true := by cbv
  have hhandler : propertiesWalk.options.handler? "1.properties" = some (.properties {}) := by cbv
  have hkeys : (FormatAdapter.properties {}).keys
      ⟨propertiesWalk.path ["1.properties"], "1.properties", .ok [49]⟩ = .ok ["1"] := by cbv
  have hbase : baseName "1.properties" = "1" := by cbv
  have hkey : baseName "1.properties" ∈ ["1"] := by simp [hbase]
  have hn : propertiesWalk.options.fieldName? (baseName "1.properties") = some "_1" := by
    rw [hbase]
    exact identifier?_one
  obtain ⟨m, hm, hiff, _⟩ := walkFile_prefixed_iff [] hvisits hhandler rfl hkeys hkey hn
  exact ⟨hvisits, hhandler, rfl, hkeys, hkey, hn, m, hm, hiff⟩

namespace ResourceSettings

/-- Settings for the directory `/r` with properties files read. -/
def withProperties : ResourceSettings := { ofR with enableProperties := true }

/-- Files with a properties file below `/r` that has its own name for a key. -/
def numbered : Workspace where
  files := { root := .directory [("r", .directory [("1.properties", .file [49])])] }

/-- The class built from `numbered`, without a constant for the path of the file. -/
def numberedClass : ClassNode := .mk "R" [("_1", .ofText "_1" "1")] []

/-- The two names can be one, and a build can leave the path of a file out for one of its keys. -/
theorem path_lost_numbered : identifier? "1" = some "_1" ∧ identifier? ("_" ++ "1") = some "_1" ∧
    ∃ w', withProperties.build [] newYear numbered =
      .ok (⟨"p", some newYear.here.comment, numberedClass⟩, [⟨["R"], "_1", .duplicate⟩]) w' := by
  refine ⟨identifier?_one, identifier?_underscoreOne, ?_⟩
  have hcheck : withProperties.check [] numbered.files = .ok () :=
    check_ofR (by cbv) (by cbv) (by cbv)
  have hrequests : resourceRequests numbered.files withProperties.extractOptions
      (.ofPaths numbered.files withProperties.exclusions) withProperties.resourcesDir =
      .ok [.constant [] "1" "1", .constant [] "_1" "/1.properties"] := by cbv
  obtain ⟨w', hbuild⟩ := exists_build_of_requests newYear hcheck hrequests
  have hfirst : (Request.constant [] "1" "1").perform withProperties.extractOptions (.start "R") =
      { root := numberedClass } := by
    have hupper : withProperties.extractOptions.uppercaseFields = false := rfl
    rw [Request.perform, Harvest.add, hupper, if_neg Bool.false_ne_true, identifier?_one]
    rfl
  have hsecond : ((Request.constant [] "_1" "/1.properties").perform withProperties.extractOptions
      { root := numberedClass }) = Harvest.skip { root := numberedClass } [] "_1" .duplicate := by
    have hupper : withProperties.extractOptions.uppercaseFields = false := rfl
    rw [Request.perform, Harvest.add, hupper, if_neg Bool.false_ne_true, identifier?_underscoreOne]
    rfl
  refine ⟨w', hbuild.trans ?_⟩
  have hroot : withProperties.rootName = "R" := by cbv
  rw [hroot, List.foldl_cons, List.foldl_cons, List.foldl_nil, hfirst, hsecond]
  rfl

end ResourceSettings

end JavaConstants
