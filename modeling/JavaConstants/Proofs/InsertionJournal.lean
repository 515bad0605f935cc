import JavaConstants.Proofs.FirstWriter

/-!
# The journal of a class tree

A class tree is the flat log of what was put into it. An insertion may go to any path; it opens the
classes on its way one by one, so it comes to a list of calls, each on a class that is there by then
(`replay_calls`, `grounded_flatMap_calls`). The journal has the calls of a log in their order, each
with its answer: whether the name was free and something was put under it.

`FirstWriterLog` says what journal and tree have to do with each other. A call is answered with
`true` if and only if it is the first of its kind with its path and its name, and the tree shows the
calls so answered and nothing else: at every path their constants and their classes in the order of
the journal, and in its two counts their number.

One call is enough for that: a call that is granted adds itself to the views of its own path and to
the counts, any other one changes nothing (`gains_apply`). At other paths nothing is added, because
the class that is called is there; for this an insertion is taken apart first.
-/

namespace JavaConstants

open ClassNode

/-! ## Calls -/

namespace Action

/-- Whether a constant is offered. -/
def isOffering : Action → Bool
  | opening _ _ => false
  | offering _ _ => true

/-- Whether a class is opened. -/
def isOpening : Action → Bool
  | opening _ _ => true
  | offering _ _ => false

/-- The answer to an insertion: whether the constant offered is added, or the class opened is
created. -/
def isNew (c : ClassNode) : Action → Bool
  | opening scope name => !c.hasNestedAt scope name
  | offering scope f => (c.offerAt scope f).1

/-- The openings on the way down a path from the class at a scope. -/
def walk (scope : List String) : List String → List Action
  | [] => []
  | n :: path => .opening scope n :: walk (scope ++ [n]) path

/-- The calls that an insertion comes to: the classes on its way are opened, one below the other,
and a constant is then offered to the last of them. -/
def calls : Action → List Action
  | opening scope name => walk [] (scope ++ [name])
  | offering scope f => walk [] scope ++ [.offering scope f]

end Action

theorem replay_walk (scope path : List String) (c : ClassNode) :
    replay (Action.walk scope path) (c.openAt scope) = c.openAt (scope ++ path) := by
  induction path generalizing scope with
  | nil =>
    rw [List.append_nil]
    rfl
  | cons n path ih =>
    have hopen : (Action.opening scope n).apply (c.openAt scope) = c.openAt (scope ++ [n]) :=
      modify_openAt id scope [n] c
    rw [List.append_cons, ← ih, ← hopen]
    rfl

theorem replay_calls (a : Action) (c : ClassNode) : replay a.calls c = a.apply c := by
  have hwalk (path : List String) : replay (Action.walk [] path) c = c.openAt path :=
    replay_walk [] path c
  cases a with
  | opening scope name => exact hwalk _
  | offering scope f =>
    have hoffer := modify_openAt (·.addField f) scope [] c
    rw [List.append_nil] at hoffer
    rw [Action.calls, replay_concat, hwalk]
    exact hoffer

theorem replay_flatMap_calls (log : List Action) (c : ClassNode) :
    replay (log.flatMap Action.calls) c = replay log c := by
  induction log generalizing c with
  | nil => rfl
  | cons a log ih =>
    rw [List.flatMap_cons, replay_append, replay_calls, ih]
    rfl

/-- What comes behind a walk meets the class that the walk has led to. -/
theorem Grounded.walk_append {known : List (List String)} {scope path : List String}
    {log : List Action} (hscope : scope ∈ known)
    (hlog : ∀ known', known ⊆ known' → scope ++ path ∈ known' → Grounded known' log) :
    Grounded known (Action.walk scope path ++ log) := by
  induction path generalizing scope known with
  | nil =>
    rw [List.append_nil] at hlog
    exact hlog known (List.Subset.refl _) hscope
  | cons n path ih =>
    refine .opening hscope (ih List.mem_cons_self fun known' hsub hmem ↦ ?_)
    rw [← List.append_cons] at hmem
    exact hlog known' (List.subset_of_cons_subset hsub) hmem

theorem grounded_calls (a : Action) : Grounded [[]] a.calls := by
  cases a with
  | opening scope name =>
    rw [Action.calls, ← List.append_nil (Action.walk _ _)]
    exact .walk_append List.mem_cons_self fun known' _ _ ↦ .nil known'
  | offering scope f =>
    exact .walk_append List.mem_cons_self fun known' _ hmem ↦ .offering hmem (.nil known')

theorem grounded_flatMap_calls (log : List Action) : Grounded [[]] (log.flatMap Action.calls) := by
  induction log with
  | nil => exact .nil _
  | cons a log ih =>
    rw [List.flatMap_cons]
    exact (grounded_calls a).append ih

/-! ## Journals -/

/-- Calls in their order, each with its answer in the tree that those before it have left. -/
def journal (c : ClassNode) : List Action → List (Action × Bool)
  | [] => []
  | a :: log => (a, a.isNew c) :: journal (a.apply c) log

/-- The calls answered with `true`. -/
def granted (entries : List (Action × Bool)) : List Action := (entries.filter (·.2)).map (·.1)

theorem map_fst_journal (c : ClassNode) (log : List Action) :
    (journal c log).map (·.1) = log := by
  induction log generalizing c with
  | nil => rfl
  | cons a log ih => rw [journal, List.map_cons, ih]

/-- Every answer is given by the tree that the calls before it have left. -/
theorem eq_isNew_of_journal_eq {c : ClassNode} {log : List Action}
    {before after : List (Action × Bool)} {a : Action} {b : Bool}
    (h : journal c log = before ++ (a, b) :: after) :
    b = a.isNew (replay (before.map (·.1)) c) := by
  induction before generalizing c log with
  | nil =>
    cases log with
    | nil => cases h
    | cons a' log =>
      obtain ⟨rfl, rfl⟩ := Prod.mk.inj (List.cons.inj h).1
      rfl
  | cons e before ih =>
    cases log with
    | nil => cases h
    | cons a' log =>
      obtain ⟨rfl, hrest⟩ := List.cons.inj h
      exact ih hrest

/-! ## Answers -/

theorem isNew_offering_replay_iff (n : String) (log : List Action) (p : List String) (f : Field) :
    (Action.offering p f).isNew (replay log (.empty n)) = true ↔
      ∀ g, .offering p g ∈ log → g.name ≠ f.name := by
  have htaken : (replay log (.empty n)).hasFieldAt p f.name = true ↔
      ∃ g, .offering p g ∈ log ∧ g.name = f.name := by
    rw [hasFieldAt_eq, isSome_lookup_iff, map_fst_fieldsAt_replay, List.mem_eraseDups, List.mem_map]
    simp only [mem_offers_iff]
  rw [Action.isNew, offerAt_eq, Bool.not_eq_true', ← Bool.not_eq_true, htaken]
  simp only [not_exists, not_and, ne_eq]

theorem isNew_opening_replay_iff (n : String) {log : List Action} (h : Grounded [[]] log)
    (p : List String) (m : String) :
    (Action.opening p m).isNew (replay log (.empty n)) = true ↔ .opening p m ∉ log := by
  rw [Action.isNew, Bool.not_eq_true', ← Bool.not_eq_true, hasNestedAt_iff,
    (h.firstWriterWins n).isSome_find?_iff, mem_openings_iff]

/-! ## What calls add

Tree and journal grow alike: `Gains` says what some granted calls add to a tree, at all paths at
once and to both counts, and it can be put together call by call. -/

/-- `Gains added c c'`: the tree `c'` is `c` with what the calls `added` put into it, behind what
was there. -/
structure Gains (added : List Action) (c c' : ClassNode) : Prop where
  /-- Every path gains the constants offered there, under their names. -/
  fieldsAt_eq : ∀ p, c'.fieldsAt p = c.fieldsAt p ++ (offers added p).map fun f ↦ (f.name, f)
  /-- Every path gains the classes opened there. -/
  keysAt_eq : ∀ p, c'.keysAt p = c.keysAt p ++ openings added p
  /-- The constants grow by the number of offers. -/
  totalFields_eq : c'.totalFields = c.totalFields + added.countP (·.isOffering)
  /-- The classes grow by the number of openings. -/
  totalClasses_eq : c'.totalClasses = c.totalClasses + added.countP (·.isOpening)

namespace Gains

theorem refl (c : ClassNode) : Gains [] c c :=
  ⟨fun _ ↦ (List.append_nil _).symm, fun _ ↦ (List.append_nil _).symm, rfl, rfl⟩

theorem trans {added added' : List Action} {c c' c'' : ClassNode} (h : Gains added c c')
    (h' : Gains added' c' c'') : Gains (added ++ added') c c'' where
  fieldsAt_eq p := by
    rw [h'.fieldsAt_eq, h.fieldsAt_eq, offers_append, List.map_append, List.append_assoc]
  keysAt_eq p := by
    rw [h'.keysAt_eq, h.keysAt_eq, openings_append, List.append_assoc]
  totalFields_eq := by rw [h'.totalFields_eq, h.totalFields_eq, List.countP_append, Nat.add_assoc]
  totalClasses_eq := by
    rw [h'.totalClasses_eq, h.totalClasses_eq, List.countP_append, Nat.add_assoc]

end Gains

theorem keysAt_apply_of_isSome {a : Action} {c : ClassNode} (hscope : (c.find? a.scope).isSome)
    (p : List String) :
    (a.apply c).keysAt p =
      match a.opened? p with
      | none => c.keysAt p
      | some n => if n ∈ c.keysAt p then c.keysAt p else c.keysAt p ++ [n] := by
  -- Whatever stands on the way to the class is in the tree already.
  have hway : (match nextName p a.scope with
      | none => c.keysAt p
      | some n => if n ∈ c.keysAt p then c.keysAt p else c.keysAt p ++ [n]) = c.keysAt p := by
    cases hn : nextName p a.scope with
    | none => rfl
    | some n => exact if_pos (mem_keysAt_of_nextName hscope hn)
  rw [keysAt_apply]
  cases a with
  | opening scope name =>
    rw [Action.path, nextName_concat, Action.opened?]
    by_cases hp : scope = p
    · rw [if_pos hp, if_pos hp]
    · rw [if_neg hp, if_neg hp]
      exact hway
  | offering scope f => exact hway

theorem gains_opening {c : ClassNode} {scope : List String} {name : String}
    (hscope : (c.find? scope).isSome) (hnew : c.hasNestedAt scope name = false) :
    Gains [.opening scope name] c ((Action.opening scope name).apply c) where
  fieldsAt_eq p := by
    rw [fieldsAt_apply]
    exact (List.append_nil _).symm
  keysAt_eq p := by
    rw [keysAt_apply_of_isSome hscope, openings, List.filterMap_cons, List.filterMap_nil,
      Action.opened?]
    by_cases hp : scope = p
    · rw [if_pos hp]
      rw [hp, ← Bool.not_eq_true, hasNestedAt_iff_mem_keysAt] at hnew
      exact if_neg hnew
    · rw [if_neg hp]
      exact (List.append_nil _).symm
  totalFields_eq := totalFields_openAt _ c
  totalClasses_eq := by
    obtain ⟨d, hd⟩ := Option.isSome_iff_exists.mp hscope
    have htotal := totalClasses_openAt_concat hd name
    rwa [hnew, if_neg Bool.false_ne_true] at htotal

theorem gains_offering {c : ClassNode} {scope : List String} {f : Field}
    (hscope : (c.find? scope).isSome) (hnew : c.hasFieldAt scope f.name = false) :
    Gains [.offering scope f] c ((Action.offering scope f).apply c) where
  fieldsAt_eq p := by
    rw [fieldsAt_apply, offers, List.filterMap_cons, List.filterMap_nil, Action.offered?]
    by_cases hp : scope = p
    · rw [if_pos hp]
      rw [hp, ← Bool.not_eq_true, hasFieldAt_eq] at hnew
      exact if_neg hnew
    · rw [if_neg hp]
      exact (List.append_nil _).symm
  keysAt_eq p := by
    rw [keysAt_apply_of_isSome hscope]
    exact (List.append_nil _).symm
  totalFields_eq := by
    have htotal := totalFields_addFieldAt scope f c
    rwa [hnew, if_neg Bool.false_ne_true] at htotal
  totalClasses_eq := by
    obtain ⟨d, hd⟩ := Option.isSome_iff_exists.mp hscope
    exact totalClasses_addFieldAt hd f

theorem apply_eq_self {a : Action} {c : ClassNode} (h : a.isNew c = false) : a.apply c = c := by
  cases a with
  | opening scope name => exact openAt_eq_self (by simpa [Action.isNew] using h)
  | offering scope f => exact addFieldAt_eq_self (by simpa [Action.isNew, offerAt_eq] using h)

/-- **One call.** A call adds itself if it is granted, and nothing otherwise. -/
theorem gains_apply {a : Action} {c : ClassNode} (hscope : (c.find? a.scope).isSome) :
    Gains (granted [(a, a.isNew c)]) c (a.apply c) := by
  cases hnew : a.isNew c with
  | false =>
    rw [apply_eq_self hnew]
    exact .refl c
  | true =>
    cases a with
    | opening scope name => exact gains_opening hscope (by simpa [Action.isNew] using hnew)
    | offering scope f =>
      exact gains_offering hscope (by simpa [Action.isNew, offerAt_eq] using hnew)

/-- **A run of calls** adds those that are granted, in their order. -/
theorem gains_replay {known : List (List String)} {log : List Action} (h : Grounded known log)
    {c : ClassNode} (hknown : ∀ p ∈ known, (c.find? p).isSome) :
    Gains (granted (journal c log)) c (replay log c) := by
  induction log generalizing known c with
  | nil => exact .refl c
  | cons a log ih =>
    obtain ⟨hscope, known', hlog, hknown'⟩ := h.uncons hknown
    have hall := (gains_apply hscope).trans (ih hlog hknown')
    rw [granted, granted, ← List.map_append, ← List.filter_append] at hall
    exact hall

/-! ## The log of a tree -/

/-- The keys of a class are the names of what stands under them, and none stands there twice. -/
structure ClassNode.WellKeyed (c : ClassNode) : Prop where
  /-- Every constant stands under its name. -/
  map_fst_fieldMap : c.fieldMap.map (·.1) = c.fields.map (·.name)
  /-- Every nested class stands under its name. -/
  map_fst_classMap : c.classMap.map (·.1) = c.nested.map (·.name)
  /-- No two constants have one name. -/
  nodup_fields : (c.fields.map (·.name)).Nodup
  /-- No two nested classes have one name. -/
  nodup_nested : (c.nested.map (·.name)).Nodup

/-- The entries are the journal of a log in which the first writer wins, and the tree is what they
tell. -/
structure FirstWriterLog (log : List Action) (entries : List (Action × Bool)) (root : ClassNode) :
    Prop where
  /-- The entries are the calls of the insertions, in their order. -/
  map_fst_entries : entries.map (·.1) = log.flatMap Action.calls
  /-- A constant is added just if it is the first that is offered at its path under its name. -/
  offering_iff : ∀ before p f b after, entries = before ++ (.offering p f, b) :: after →
    (b = true ↔ ∀ g, .offering p g ∈ before.map (·.1) → g.name ≠ f.name)
  /-- A class is created just if it is opened for the first time. -/
  opening_iff : ∀ before p n b after, entries = before ++ (.opening p n, b) :: after →
    (b = true ↔ .opening p n ∉ before.map (·.1))
  /-- At every path stand the constants that were added there, as they were offered and in that
  order, each under its name. -/
  fieldsAt_eq : ∀ p, root.fieldsAt p = (offers (granted entries) p).map fun f ↦ (f.name, f)
  /-- Below every path stand the classes that were created there, in that order. -/
  keysAt_eq : ∀ p, root.keysAt p = openings (granted entries) p
  /-- Every class of the tree has names for keys, each once. -/
  wellKeyed : ∀ c, root.Holds c → c.WellKeyed
  /-- There are as many constants as were added. -/
  totalFields_eq : root.totalFields = (granted entries).countP (·.isOffering)
  /-- There are as many classes below the root as were created. -/
  totalClasses_eq : root.totalClasses = 1 + (granted entries).countP (·.isOpening)

theorem FirstWriterWins.wellKeyed {log : List Action} {root : ClassNode}
    (h : FirstWriterWins log root) {c : ClassNode} (hc : root.Holds c) : c.WellKeyed := by
  obtain ⟨p, hp⟩ := hc.exists_find? h.nodup_keysAt
  have hfields : root.fieldsAt p = c.fieldMap := by rw [fieldsAt, hp, Option.elim_some]
  have hclasses : root.keysAt p = c.classMap.map (·.1) := by rw [keysAt, hp, Option.elim_some]
  have hfieldKeys : c.fieldMap.map (·.1) = c.fields.map (·.name) := by
    rw [fields, List.map_map]
    refine List.map_congr_left fun e he ↦ ?_
    rw [← hfields] at he
    exact (h.offering_of_mem he).1.symm
  have hclassKeys : c.classMap.map (·.1) = c.nested.map (·.name) := by
    rw [nested, List.map_map]
    exact List.map_congr_left fun e he ↦ (h.keyed c hc e.1 e.2 he).symm
  refine ⟨hfieldKeys, hclassKeys, ?_, ?_⟩
  · rw [← hfieldKeys, ← hfields]
    exact h.nodup_map_fst_fieldsAt p
  · rw [← hclassKeys, ← hclasses]
    exact h.nodup_keysAt p

/-- **A class tree is a log in which the first writer wins**, whatever is inserted at whatever paths
from an empty root on. -/
theorem firstWriterLog_journal (name : String) (log : List Action) :
    FirstWriterLog log (journal (.empty name) (log.flatMap Action.calls))
      (replay log (.empty name)) := by
  have hgrounded := grounded_flatMap_calls log
  have hroot : ∀ p ∈ [([] : List String)], ((empty name).find? p).isSome := fun p hp ↦ by
    rw [List.mem_singleton.mp hp]
    rfl
  have hgains := gains_replay hgrounded hroot
  have hwins := hgrounded.firstWriterWins name
  rw [replay_flatMap_calls] at hgains hwins
  have hcalls := map_fst_journal (.empty name) (log.flatMap Action.calls)
  refine ⟨hcalls, fun before p f b after h ↦ ?_, fun before p n b after h ↦ ?_, fun p ↦ ?_,
    fun p ↦ ?_, fun c hc ↦ hwins.wellKeyed hc, ?_, ?_⟩
  · rw [eq_isNew_of_journal_eq h]
    exact isNew_offering_replay_iff _ _ _ _
  · rw [eq_isNew_of_journal_eq h]
    rw [h, List.map_append] at hcalls
    rw [← hcalls] at hgrounded
    exact isNew_opening_replay_iff _ hgrounded.of_append _ _
  · have hnone : (empty name).fieldsAt p = [] := by cases p <;> rfl
    rw [hgains.fieldsAt_eq, hnone, List.nil_append]
  · have hnone : (empty name).keysAt p = [] := by cases p <;> rfl
    rw [hgains.keysAt_eq, hnone, List.nil_append]
  · rw [hgains.totalFields_eq, totalFields_empty, Nat.zero_add]
  · rw [hgains.totalClasses_eq, totalClasses_empty]

end JavaConstants
