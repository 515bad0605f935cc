import Mathlib.Data.List.Induction
import JavaConstants.Proofs.ClassTree
import JavaConstants.Proofs.Lists

/-!
# The first writer wins

What a class tree is after any number of insertions, in whatever order they come: at every path the
constants offered there, each under the first value offered, and the nested classes opened there,
both in the order of their first insertion.

## Two readings of a log

An insertion creates the classes missing on its way, so the classes below a path come from all
insertions that pass by there (`keysAt_replay`). Where every insertion goes into a class that was
opened before, the openings alone account for them (`Grounded.eraseDups_passing`). A walk of
resources writes logs of that kind.
-/

namespace JavaConstants

/-- An insertion into a class tree. -/
inductive Action where
  /-- Opens the class under a name in the class at a scope. -/
  | opening (scope : List String) (name : String)
  /-- Offers a constant to the class at a scope. -/
  | offering (scope : List String) (f : Field)
  deriving DecidableEq, Repr

namespace Action

/-- The path of the class that an insertion makes sure of. -/
def path : Action → List String
  | opening scope name => scope ++ [name]
  | offering scope _ => scope

/-- The scope that an insertion is made at. -/
def scope : Action → List String
  | opening scope _ => scope
  | offering scope _ => scope

/-- The name opened in the class at a path. -/
def opened? (p : List String) : Action → Option String
  | opening scope name => if scope = p then some name else none
  | offering _ _ => none

/-- The constant offered to the class at a path. -/
def offered? (p : List String) : Action → Option Field
  | opening _ _ => none
  | offering scope f => if scope = p then some f else none

/-- Carries out an insertion. -/
def apply (c : ClassNode) : Action → ClassNode
  | opening scope name => c.openAt (scope ++ [name])
  | offering scope f => c.addFieldAt scope f

end Action

/-- Carries out insertions in their order. -/
def replay (log : List Action) (c : ClassNode) : ClassNode := log.foldl Action.apply c

/-- The names opened in the class at a path, in the order of a log. -/
def openings (log : List Action) (p : List String) : List String := log.filterMap (·.opened? p)

/-- The constants offered to the class at a path, in the order of a log. -/
def offers (log : List Action) (p : List String) : List Field := log.filterMap (·.offered? p)

/-- The names right behind a path on the ways of the insertions. -/
def passing (log : List Action) (p : List String) : List String :=
  log.filterMap fun a ↦ ClassNode.nextName p a.path

theorem mem_openings_iff {log : List Action} {p : List String} {n : String} :
    n ∈ openings log p ↔ .opening p n ∈ log := by
  rw [openings, List.mem_filterMap]
  constructor
  · rintro ⟨a, ha, hn⟩
    cases a with
    | opening scope name =>
      rw [Action.opened?, Option.ite_none_right_eq_some, Option.some.injEq] at hn
      rwa [← hn.1, ← hn.2]
    | offering scope f => cases hn
  · intro h
    exact ⟨_, h, if_pos rfl⟩

theorem mem_offers_iff {log : List Action} {p : List String} {f : Field} :
    f ∈ offers log p ↔ .offering p f ∈ log := by
  rw [offers, List.mem_filterMap]
  constructor
  · rintro ⟨a, ha, hf⟩
    cases a with
    | opening scope name => cases hf
    | offering scope g =>
      rw [Action.offered?, Option.ite_none_right_eq_some, Option.some.injEq] at hf
      rwa [← hf.1, ← hf.2]
  · intro h
    exact ⟨_, h, if_pos rfl⟩

theorem offers_append (log log' : List Action) (p : List String) :
    offers (log ++ log') p = offers log p ++ offers log' p := List.filterMap_append

theorem openings_append (log log' : List Action) (p : List String) :
    openings (log ++ log') p = openings log p ++ openings log' p := List.filterMap_append

theorem replay_append (log log' : List Action) (c : ClassNode) :
    replay (log ++ log') c = replay log' (replay log c) := List.foldl_append

theorem replay_concat (log : List Action) (a : Action) (c : ClassNode) :
    replay (log ++ [a]) c = a.apply (replay log c) := replay_append log [a] c

/-! ## One insertion -/

namespace ClassNode

/-- Constants under their keys with one more at the end, unless its name is taken. -/
def putNew (f : Field) (fs : List (String × Field)) : List (String × Field) :=
  if (fs.lookup f.name).isSome then fs else fs ++ [(f.name, f)]

theorem fieldMap_addField (c : ClassNode) (f : Field) :
    (c.addField f).fieldMap = putNew f c.fieldMap := by
  rw [addField, hasField, field?, putNew]
  split <;> rfl

@[simp] theorem classMap_addField (c : ClassNode) (f : Field) :
    (c.addField f).classMap = c.classMap := by
  rw [addField]
  split <;> rfl

@[simp] theorem name_addField (c : ClassNode) (f : Field) : (c.addField f).name = c.name := by
  rw [addField]
  split <;> rfl

theorem addFieldAt_eq_self {c : ClassNode} {p : List String} {f : Field}
    (h : c.hasFieldAt p f.name = true) : c.addFieldAt p f = c := by
  obtain ⟨d, hd, hf⟩ := (Option.any_eq_true _ _).mp h
  exact modify_eq_self hd (by rw [addField, if_pos hf])

end ClassNode

open ClassNode

theorem keysAt_apply (a : Action) (c : ClassNode) (p : List String) :
    (a.apply c).keysAt p =
      match nextName p a.path with
      | none => c.keysAt p
      | some n => if n ∈ c.keysAt p then c.keysAt p else c.keysAt p ++ [n] := by
  cases a with
  | opening scope name => exact keysAt_modify (fun _ ↦ rfl) _ _ _
  | offering scope f => exact keysAt_modify (classMap_addField · f) _ _ _

theorem fieldsAt_apply (a : Action) (c : ClassNode) (p : List String) :
    (a.apply c).fieldsAt p =
      match a.offered? p with
      | none => c.fieldsAt p
      | some f => putNew f (c.fieldsAt p) := by
  cases a with
  | opening scope name => exact fieldsAt_openAt _ p c
  | offering scope f =>
    rw [Action.apply, addFieldAt, fieldsAt_modify (classMap_addField · f) (fieldMap_addField · f),
      Action.offered?]
    by_cases hp : scope = p
    · rw [if_pos hp, if_pos hp]
    · rw [if_neg hp, if_neg hp]

@[simp] theorem name_apply (a : Action) (c : ClassNode) : (a.apply c).name = c.name := by
  cases a with
  | opening scope name => exact name_modify (fun _ ↦ rfl) _ _
  | offering scope f => exact name_modify (name_addField · f) _ _

theorem keyed_apply (a : Action) {c : ClassNode} (h : c.Keyed) : (a.apply c).Keyed := by
  cases a with
  | opening scope name => exact h.modify (fun _ ↦ rfl) (fun _ ↦ rfl) _
  | offering scope f => exact h.modify (name_addField · f) (classMap_addField · f) _

namespace ClassNode

/-- What a class tree shows at every path stays: the name, the classes and the constants. -/
structure Grows (c c' : ClassNode) : Prop where
  name_eq : c'.name = c.name
  lookup_fieldsAt : ∀ p k f, (c.fieldsAt p).lookup k = some f → (c'.fieldsAt p).lookup k = some f
  isSome_find? : ∀ p n, (c.find? (p ++ [n])).isSome → (c'.find? (p ++ [n])).isSome

theorem Grows.refl (c : ClassNode) : c.Grows c := ⟨rfl, fun _ _ _ ↦ id, fun _ _ ↦ id⟩

theorem Grows.trans {c c' c'' : ClassNode} (h : c.Grows c') (h' : c'.Grows c'') : c.Grows c'' :=
  ⟨h'.name_eq.trans h.name_eq, fun p k f ↦ h'.lookup_fieldsAt p k f ∘ h.lookup_fieldsAt p k f,
    fun p n ↦ h'.isSome_find? p n ∘ h.isSome_find? p n⟩

theorem Grows.hasFieldAt {c c' : ClassNode} (h : c.Grows c') {p : List String} {k : String}
    (hk : c.hasFieldAt p k = true) : c'.hasFieldAt p k = true := by
  rw [hasFieldAt_eq] at hk ⊢
  obtain ⟨f, hf⟩ := Option.isSome_iff_exists.mp hk
  rw [h.lookup_fieldsAt p k f hf]
  rfl

theorem Grows.find? {c c' : ClassNode} (h : c.Grows c') {p : List String}
    (hp : (c.find? p).isSome) : (c'.find? p).isSome := by
  rcases List.eq_nil_or_concat p with rfl | ⟨q, n, rfl⟩
  · rfl
  · rw [List.concat_eq_append] at hp ⊢
    exact h.isSome_find? q n hp

theorem grows_apply (a : Action) (c : ClassNode) : c.Grows (a.apply c) := by
  refine ⟨name_apply a c, fun p k f hf ↦ ?_, fun p n hn ↦ ?_⟩
  · rw [fieldsAt_apply]
    cases a.offered? p with
    | none => exact hf
    | some g =>
      simp only [putNew]
      split
      · exact hf
      · rw [List.lookup_append, hf]
        rfl
  · rw [isSome_find?_concat] at hn ⊢
    rw [keysAt_apply]
    cases nextName p a.path with
    | none => exact hn
    | some m =>
      simp only
      split
      · exact hn
      · exact List.mem_append_left _ hn

end ClassNode

/-! ## Replays

What is in a tree after a log is read off the log: the keys below a path from the names passed by,
and the constants from the offers. Each insertion stands at the end of the log in the inductions,
as the log in front of it is what decides whether it is the first. -/

theorem filterMap_concat {α β : Type} (f : α → Option β) (l : List α) (a : α) :
    (l ++ [a]).filterMap f = l.filterMap f ++ (f a).toList := by
  rw [List.filterMap_append, List.filterMap_cons]
  cases f a <;> rfl

theorem offers_concat (log : List Action) (a : Action) (p : List String) :
    offers (log ++ [a]) p = offers log p ++ (a.offered? p).toList := filterMap_concat _ _ _

theorem fieldsAt_replay_of_offers {log : List Action} {p : List String} (h : offers log p = [])
    (c : ClassNode) : (replay log c).fieldsAt p = c.fieldsAt p := by
  induction log using List.reverseRecOn with
  | nil => rfl
  | append_singleton log a ih =>
    rw [offers_concat, List.append_eq_nil_iff, Option.toList_eq_nil_iff] at h
    rw [replay_concat, fieldsAt_apply, h.2]
    exact ih h.1

theorem passing_concat (log : List Action) (a : Action) (p : List String) :
    passing (log ++ [a]) p = passing log p ++ (nextName p a.path).toList := filterMap_concat _ _ _

theorem grows_replay (log : List Action) (c : ClassNode) : c.Grows (replay log c) := by
  induction log generalizing c with
  | nil => exact .refl c
  | cons a log ih => exact (grows_apply a c).trans (ih _)

section Replay

variable (n : String) (log : List Action) (p : List String)

theorem name_replay (c : ClassNode) : (replay log c).name = c.name := by
  induction log generalizing c with
  | nil => rfl
  | cons a log ih => exact (ih _).trans (name_apply a c)

theorem keyed_replay {c : ClassNode} (h : c.Keyed) : (replay log c).Keyed := by
  induction log generalizing c with
  | nil => exact h
  | cons a log ih => exact ih (keyed_apply a h)

/-- **Classes.** The classes below a path are those that the insertions pass by, in the order in
which they first do. -/
theorem keysAt_replay : (replay log (.empty n)).keysAt p = (passing log p).eraseDups := by
  -- The log grows at its end: the last insertion meets the tree that all others have left.
  induction log using List.reverseRecOn with
  | nil => cases p <;> rfl
  | append_singleton log a ih =>
    rw [replay_concat, keysAt_apply, ih, passing_concat]
    cases nextName p a.path with
    | none => rw [Option.toList_none, List.append_nil]
    | some m =>
      simp only [List.mem_eraseDups]
      exact (eraseDups_concat _ _).symm

/-- **Constants.** The constants at a path stand in the order in which their names are first
offered. -/
theorem map_fst_fieldsAt_replay :
    ((replay log (.empty n)).fieldsAt p).map (·.1) =
      ((offers log p).map (·.name)).eraseDups := by
  induction log using List.reverseRecOn with
  | nil => cases p <;> rfl
  | append_singleton log a ih =>
    rw [replay_concat, fieldsAt_apply, offers_concat]
    cases a.offered? p with
    | none =>
      rw [Option.toList_none, List.append_nil]
      exact ih
    | some f =>
      have hmem : (((replay log (.empty n)).fieldsAt p).lookup f.name).isSome ↔
          f.name ∈ (offers log p).map (·.name) := by
        rw [← List.mem_eraseDups, ← ih, isSome_lookup_iff]
      simp only [Option.toList_some, List.map_append, List.map_cons, List.map_nil]
      rw [eraseDups_concat, ← ih]
      rw [putNew]
      by_cases hf : f.name ∈ (offers log p).map (·.name)
      · rw [if_pos (hmem.mpr hf), if_pos hf]
      · rw [if_neg (hf ∘ hmem.mp), if_neg hf, List.map_append]
        rfl

/-- **Values.** Under each name stands the constant that was offered first. -/
theorem lookup_fieldsAt_replay (k : String) :
    ((replay log (.empty n)).fieldsAt p).lookup k = (offers log p).find? (·.name = k) := by
  induction log using List.reverseRecOn with
  | nil => cases p <;> rfl
  | append_singleton log a ih =>
    rw [replay_concat, fieldsAt_apply, offers_concat, List.find?_append, ← ih]
    cases a.offered? p with
    | none => exact (Option.or_none).symm
    | some f =>
      simp only [putNew]
      by_cases hold : (((replay log (.empty n)).fieldsAt p).lookup f.name).isSome
      · rw [if_pos hold]
        by_cases hk : f.name = k
        · rw [hk] at hold
          exact (Option.or_of_isSome hold).symm
        · rw [Option.toList_some, List.find?_singleton, if_neg (by simpa using hk), Option.or_none]
      · rw [if_neg hold, List.lookup_append]
        congr 1
        rw [Option.toList_some, List.find?_singleton]
        by_cases hk : f.name = k
        · rw [hk, List.lookup_cons_self, if_pos (decide_eq_true rfl)]
        · rw [List.lookup_cons, beq_eq_false_iff_ne.mpr (Ne.symm hk), if_neg (by simpa using hk)]
          rfl

end Replay

/-! ## Grounded logs

In a grounded log every insertion goes into a class that is known by then: one that is there from
the start, or one that was opened. -/

/-- `Grounded known log`: every class that is written into is one of those at the paths `known` or
was opened before. -/
inductive Grounded : List (List String) → List Action → Prop where
  /-- The empty log writes nowhere. -/
  | nil (known : List (List String)) : Grounded known []
  /-- An opening makes a class known. -/
  | opening {known : List (List String)} {scope : List String} {name : String} {log : List Action}
    (hscope : scope ∈ known) (hlog : Grounded ((scope ++ [name]) :: known) log) :
    Grounded known (.opening scope name :: log)
  /-- An offer makes none known. -/
  | offering {known : List (List String)} {scope : List String} {f : Field} {log : List Action}
    (hscope : scope ∈ known) (hlog : Grounded known log) :
    Grounded known (.offering scope f :: log)

namespace Grounded

theorem mono {known known' : List (List String)} {log : List Action} (h : Grounded known log)
    (hsub : known ⊆ known') : Grounded known' log := by
  induction h generalizing known' with
  | nil => exact .nil known'
  | opening hscope _ ih => exact .opening (hsub hscope) (ih (List.cons_subset_cons _ hsub))
  | offering hscope _ ih => exact .offering (hsub hscope) (ih hsub)

theorem append {known : List (List String)} {log log' : List Action} (h : Grounded known log)
    (h' : Grounded known log') : Grounded known (log ++ log') := by
  induction h with
  | nil => exact h'
  | opening hscope _ ih => exact .opening hscope (ih (h'.mono (List.subset_cons_self _ _)))
  | offering hscope _ ih => exact .offering hscope (ih h')

theorem of_append {known : List (List String)} {log log' : List Action}
    (h : Grounded known (log ++ log')) : Grounded known log := by
  induction log generalizing known with
  | nil => exact .nil known
  | cons a log ih =>
    cases h with
    | opening hscope hlog => exact .opening hscope (ih hlog)
    | offering hscope hlog => exact .offering hscope (ih hlog)

theorem uncons {known : List (List String)} {a : Action} {log : List Action}
    (h : Grounded known (a :: log)) {c : ClassNode} (hknown : ∀ p ∈ known, (c.find? p).isSome) :
    (c.find? a.scope).isSome ∧
      ∃ known', Grounded known' log ∧ ∀ p ∈ known', ((a.apply c).find? p).isSome := by
  have hstays : ∀ p ∈ known, ((a.apply c).find? p).isSome := fun p hp ↦
    (grows_apply a c).find? (hknown p hp)
  cases h with
  | @opening _ scope name _ hscope hlog =>
    refine ⟨hknown scope hscope, _, hlog, fun p hp ↦ ?_⟩
    rcases List.mem_cons.mp hp with rfl | hp
    · exact isSome_find?_openAt _ c
    · exact hstays p hp
  | @offering _ scope _ _ hscope hlog => exact ⟨hknown scope hscope, known, hlog, hstays⟩

end Grounded

theorem nextName_concat (p scope : List String) (name : String) :
    nextName p (scope ++ [name]) = if scope = p then some name else nextName p scope := by
  induction p generalizing scope with
  | nil =>
    cases scope with
    | nil => rfl
    | cons m scope => rw [if_neg (List.cons_ne_nil _ _)]; rfl
  | cons m p ih =>
    cases scope with
    | nil =>
      have hnil : nextName p [] = none := by cases p <;> rfl
      rw [List.nil_append, nextName, hnil, ite_self, if_neg (List.cons_ne_nil _ _).symm]
      rfl
    | cons m' scope =>
      rw [List.cons_append, nextName, nextName, ih]
      by_cases hm : m = m'
      · simp only [hm, if_true, List.cons.injEq, true_and]
      · rw [if_neg hm, if_neg hm, if_neg fun h ↦ hm (List.cons.inj h).1.symm]

/-- In a grounded log a name is passed by only behind its opening. The names `seen` are those on the
ways to known classes; the induction adds each opening to both. -/
theorem Grounded.eraseDups_passing {known : List (List String)} {log : List Action}
    (h : Grounded known log) (p : List String) {seen : List String}
    (hseen : ∀ q ∈ known, ∀ n, nextName p q = some n → n ∈ seen) :
    (seen ++ passing log p).eraseDups = (seen ++ openings log p).eraseDups := by
  induction h generalizing seen with
  | nil => rfl
  | @opening known scope name log hscope _ ih =>
    rw [passing, openings, List.filterMap_cons, List.filterMap_cons, Action.opened?, Action.path,
      nextName_concat, ← passing, ← openings]
    by_cases hp : scope = p
    · rw [if_pos hp, if_pos hp]
      simp only
      rw [List.append_cons seen name (passing log p), List.append_cons seen name (openings log p)]
      refine ih fun q hq n hn ↦ ?_
      rcases List.mem_cons.mp hq with rfl | hq
      · rw [nextName_concat, if_pos hp, Option.some.injEq] at hn
        exact List.mem_append_right _ (List.mem_singleton.mpr hn.symm)
      · exact List.mem_append_left _ (hseen q hq n hn)
    · -- The way to the class opened elsewhere passes `p` as the way to its scope does.
      have hknown : ∀ q ∈ (scope ++ [name]) :: known, ∀ n, nextName p q = some n → n ∈ seen := by
        intro q hq n hn
        rcases List.mem_cons.mp hq with rfl | hq
        · rw [nextName_concat, if_neg hp] at hn
          exact hseen scope hscope n hn
        · exact hseen q hq n hn
      rw [if_neg hp, if_neg hp]
      cases hn : nextName p scope with
      | none => exact ih hknown
      | some n => exact (eraseDups_append_cons (hseen scope hscope n hn) _).trans (ih hknown)
  | @offering known scope f log hscope _ ih =>
    rw [passing, openings, List.filterMap_cons, List.filterMap_cons, Action.opened?, Action.path,
      ← passing, ← openings]
    cases hn : nextName p scope with
    | none => exact ih hseen
    | some n => exact (eraseDups_append_cons (hseen scope hscope n hn) _).trans (ih hseen)

/-- A tree is what the first writers of a log leave: at every path the classes opened there and the
constants offered there, in the order of their first occurrence, each constant with the value first
offered under its name, and every class under its name. -/
structure FirstWriterWins (log : List Action) (root : ClassNode) : Prop where
  /-- A class stands below a path if it was opened there. -/
  isSome_find?_iff : ∀ p n, (root.find? (p ++ [n])).isSome ↔ n ∈ openings log p
  /-- Classes stand in the order of their first opening. -/
  keysAt_eq : ∀ p, root.keysAt p = (openings log p).eraseDups
  /-- Constants stand in the order in which their names were first offered. -/
  map_fst_fieldsAt : ∀ p, (root.fieldsAt p).map (·.1) = ((offers log p).map (·.name)).eraseDups
  /-- The first offer under a name stays. -/
  lookup_fieldsAt : ∀ p k, (root.fieldsAt p).lookup k = (offers log p).find? (·.name = k)
  /-- Every class stands under its name. -/
  keyed : root.Keyed

namespace FirstWriterWins

variable {log : List Action} {root : ClassNode}

theorem nodup_keysAt (h : FirstWriterWins log root) (p : List String) : (root.keysAt p).Nodup := by
  rw [h.keysAt_eq]
  exact nodup_eraseDups _

theorem nodup_map_fst_fieldsAt (h : FirstWriterWins log root) (p : List String) :
    ((root.fieldsAt p).map (·.1)).Nodup := by
  rw [h.map_fst_fieldsAt]
  exact nodup_eraseDups _

theorem offering_of_mem (h : FirstWriterWins log root) {p : List String} {k : String} {f : Field}
    (hf : (k, f) ∈ root.fieldsAt p) : f.name = k ∧ .offering p f ∈ log := by
  have hfirst : (offers log p).find? (·.name = k) = some f := by
    rw [← h.lookup_fieldsAt]
    exact lookup_of_mem (h.nodup_map_fst_fieldsAt p) hf
  refine ⟨?_, mem_offers_iff.mp (List.mem_of_find?_eq_some hfirst)⟩
  simpa using List.find?_some hfirst

theorem opening_of_find? (h : FirstWriterWins log root) {p : List String} {n : String}
    {c : ClassNode} (hc : root.find? (p ++ [n]) = some c) : c.name = n ∧ .opening p n ∈ log := by
  refine ⟨h.keyed.name_of_find? hc, mem_openings_iff.mp ((h.isSome_find?_iff p n).mp ?_)⟩
  rw [hc]
  rfl

end FirstWriterWins

/-- **The first writer wins** in the replay of a grounded log. -/
theorem Grounded.firstWriterWins {log : List Action} (h : Grounded [[]] log) (n : String) :
    FirstWriterWins log (replay log (.empty n)) := by
  have hroot : ∀ p, ∀ q ∈ [([] : List String)], ∀ m, nextName p q = some m → m ∈ [] := by
    intro p q hq m hm
    rw [List.mem_singleton.mp hq] at hm
    cases p <;> cases hm
  have hkeys (p : List String) :
      (replay log (.empty n)).keysAt p = (openings log p).eraseDups := by
    rw [keysAt_replay]
    exact h.eraseDups_passing p (hroot p)
  refine ⟨fun p m ↦ ?_, hkeys, map_fst_fieldsAt_replay n log, lookup_fieldsAt_replay n log,
    keyed_replay log (keyed_empty n)⟩
  rw [isSome_find?_concat, hkeys, List.mem_eraseDups]

end JavaConstants
