import Mathlib
import JavaConstants.Source.ClassNode

/-!
# The shape of class trees

The classes of a tree, the induction that reaches them all, and what an insertion at a path does to
every other path.

A tree is seen through two views, both of which are total: `keysAt`, the keys of the classes right
below a path, and `fieldsAt`, the constants under their keys at a path. Where there is no class both
are empty, so that creating a class on the way leaves no trace but its key. `keysAt_modify` and
`fieldsAt_modify` say what a change at one path does to these views at any path; nothing after them
looks into `upsert`.
-/

namespace JavaConstants

/-! ## Lists under keys -/

theorem isSome_lookup_iff {α : Type} {l : List (String × α)} {k : String} :
    (l.lookup k).isSome ↔ k ∈ l.map (·.1) := by
  rw [List.lookup_isSome_iff, List.mem_map]
  constructor
  · rintro ⟨e, he, hk⟩
    exact ⟨e, he, (eq_of_beq hk).symm⟩
  · rintro ⟨e, he, rfl⟩
    exact ⟨e, he, beq_self_eq_true _⟩

theorem lookup_of_mem {α : Type} {l : List (String × α)} (hl : (l.map (·.1)).Nodup) {k : String}
    {a : α} (h : (k, a) ∈ l) : l.lookup k = some a := by
  obtain ⟨before, after, rfl⟩ := List.append_of_mem h
  rw [List.map_append, List.map_cons, List.nodup_middle, List.nodup_cons] at hl
  refine List.lookup_eq_some_iff.mpr ⟨before, after, rfl, fun e he ↦ ?_⟩
  rw [bne_iff_ne]
  intro hk
  exact hl.1 (List.mem_append_left _ (List.mem_map.mpr ⟨e, he, hk.symm⟩))

theorem mem_of_lookup {α : Type} {l : List (String × α)} {k : String} {a : α}
    (h : l.lookup k = some a) : (k, a) ∈ l := by
  obtain ⟨before, after, rfl, _⟩ := List.lookup_eq_some_iff.mp h
  exact List.mem_append_right _ List.mem_cons_self

namespace ClassNode

/-! ## Containment -/

/-- A property of every class follows from its being handed up from the classes right below. -/
@[elab_as_elim]
theorem induction {P : ClassNode → Prop}
    (h : ∀ c : ClassNode, (∀ k d, (k, d) ∈ c.classMap → P d) → P c) : ∀ c, P c
  | mk n fs cs => h (mk n fs cs) fun k d hd ↦ by
    have hlt : sizeOf (k, d) < sizeOf cs := List.sizeOf_lt_of_mem hd
    have hle : sizeOf d ≤ sizeOf (k, d) := by rw [Prod.mk.sizeOf_spec]; omega
    exact induction h d
termination_by c => sizeOf c
decreasing_by
  rw [mk.sizeOf_spec]
  omega

/-- `c.Holds d`: the class `d` is `c` itself or stands somewhere below it. -/
inductive Holds : ClassNode → ClassNode → Prop where
  /-- A class holds itself. -/
  | self (c : ClassNode) : Holds c c
  /-- A class holds what the classes right below it hold. -/
  | nested {c d e : ClassNode} {k : String} (hd : (k, d) ∈ c.classMap) (he : Holds d e) :
    Holds c e

theorem forall_holds_iff {P : ClassNode → Prop} {c : ClassNode} :
    (∀ d, c.Holds d → P d) ↔
      P c ∧ ∀ k d, (k, d) ∈ c.classMap → ∀ e, d.Holds e → P e := by
  constructor
  · intro h
    exact ⟨h c (.self c), fun k d hd e he ↦ h e (.nested hd he)⟩
  · rintro ⟨hc, hbelow⟩ d hd
    cases hd with
    | self => exact hc
    | nested hk he => exact hbelow _ _ hk d he

/-! ## Insertion under one key

A key that is new is put at the end. One that is there keeps its place, and the class under it
gives way to another one. -/

theorem lookup_upsert (key k : String) (g : ClassNode → ClassNode)
    (cs : List (String × ClassNode)) :
    (upsert key g cs).lookup k =
      if k = key then some (g ((cs.lookup key).getD (empty key))) else cs.lookup k := by
  induction cs with
  | nil =>
    by_cases hk : k = key
    · rw [if_pos hk, upsert, hk, List.lookup_cons_self]
      rfl
    · rw [if_neg hk, upsert, List.lookup_cons, beq_eq_false_iff_ne.mpr hk]
  | cons e cs ih =>
    obtain ⟨k', c⟩ := e
    rw [upsert]
    by_cases hkey : k' = key
    · by_cases hk : k = key
      · rw [if_pos hkey, if_pos hk, hk, hkey, List.lookup_cons_self, List.lookup_cons_self]
        rfl
      · rw [if_pos hkey, if_neg hk, List.lookup_cons, List.lookup_cons]
        simp only [hkey, beq_eq_false_iff_ne.mpr hk]
    · rw [if_neg hkey, List.lookup_cons, ih, List.lookup_cons, List.lookup_cons]
      by_cases hk : k = key
      · have hne : (key == k') = false := beq_eq_false_iff_ne.mpr fun h ↦ hkey h.symm
        simp only [hk, hne, if_true]
      · simp only [hk, if_false]

theorem map_fst_upsert (key : String) (g : ClassNode → ClassNode)
    (cs : List (String × ClassNode)) :
    (upsert key g cs).map (·.1) =
      if key ∈ cs.map (·.1) then cs.map (·.1) else cs.map (·.1) ++ [key] := by
  induction cs with
  | nil => rfl
  | cons e cs ih =>
    obtain ⟨k, c⟩ := e
    rw [upsert]
    by_cases hk : k = key
    · rw [if_pos hk, if_pos (by rw [hk]; exact List.mem_cons_self)]
      rfl
    · rw [if_neg hk, List.map_cons, ih, List.map_cons]
      by_cases hmem : key ∈ cs.map (·.1)
      · rw [if_pos hmem, if_pos (List.mem_cons_of_mem _ hmem)]
      · have hnew : key ∉ k :: cs.map (·.1) := fun h ↦
          (List.mem_cons.mp h).elim (fun h ↦ hk h.symm) hmem
        rw [if_neg hmem, if_neg hnew, List.cons_append]

theorem mem_upsert {key k : String} {g : ClassNode → ClassNode} {cs : List (String × ClassNode)}
    {d : ClassNode} (h : (k, d) ∈ upsert key g cs) :
    (k, d) ∈ cs ∨ k = key ∧ ∃ c, ((key, c) ∈ cs ∨ c = empty key) ∧ d = g c := by
  induction cs with
  | nil =>
    obtain ⟨rfl, rfl⟩ := Prod.mk.inj (List.mem_singleton.mp h)
    exact .inr ⟨rfl, _, .inr rfl, rfl⟩
  | cons e cs ih =>
    obtain ⟨k', c⟩ := e
    rw [upsert] at h
    by_cases hkey : k' = key
    · rw [if_pos hkey] at h
      rcases List.mem_cons.mp h with h | h
      · obtain ⟨rfl, rfl⟩ := Prod.mk.inj h
        rw [hkey]
        exact .inr ⟨rfl, c, .inl List.mem_cons_self, rfl⟩
      · exact .inl (List.mem_cons_of_mem _ h)
    · rw [if_neg hkey] at h
      rcases List.mem_cons.mp h with h | h
      · rw [h]
        exact .inl List.mem_cons_self
      · rcases ih h with h | ⟨hk, c', hc', hd⟩
        · exact .inl (List.mem_cons_of_mem _ h)
        · exact .inr ⟨hk, c', hc'.imp_left (List.mem_cons_of_mem _), hd⟩

theorem upsert_eq_self {key : String} {g : ClassNode → ClassNode} {c : ClassNode}
    {cs : List (String × ClassNode)} (hc : cs.lookup key = some c) (hg : g c = c) :
    upsert key g cs = cs := by
  induction cs with
  | nil => cases hc
  | cons e cs ih =>
    obtain ⟨k, d⟩ := e
    rw [upsert]
    by_cases hk : k = key
    · rw [hk, List.lookup_cons_self, Option.some.injEq] at hc
      rw [if_pos hk, hc, hg]
    · have hne : (key == k) = false := beq_eq_false_iff_ne.mpr fun h ↦ hk h.symm
      rw [List.lookup_cons] at hc
      simp only [hne] at hc
      rw [if_neg hk, ih hc]

theorem upsert_upsert (key : String) (g g' : ClassNode → ClassNode)
    (cs : List (String × ClassNode)) :
    upsert key g (upsert key g' cs) = upsert key (fun c ↦ g (g' c)) cs := by
  induction cs with
  | nil => exact if_pos rfl
  | cons e cs ih =>
    obtain ⟨k, c⟩ := e
    rw [upsert, upsert]
    by_cases hk : k = key
    · rw [if_pos hk, if_pos hk, upsert, if_pos hk]
    · rw [if_neg hk, if_neg hk, upsert, if_neg hk, ih]

/-- What an insertion under a key does to a sum over the classes: the class under the key, if there
was one, gives way to the new one. -/
theorem sum_map_upsert (w : ClassNode → Nat) (key : String) (g : ClassNode → ClassNode)
    (cs : List (String × ClassNode)) :
    ((upsert key g cs).map (w ·.2)).sum + (cs.lookup key).elim 0 w =
      (cs.map (w ·.2)).sum + w (g ((cs.lookup key).getD (empty key))) := by
  induction cs with
  | nil =>
    simp only [upsert, List.map_cons, List.map_nil, List.sum_cons, List.sum_nil, List.lookup_nil,
      Option.elim_none, Option.getD_none]
    omega
  | cons e cs ih =>
    obtain ⟨k, c⟩ := e
    rw [upsert]
    by_cases hk : k = key
    · rw [if_pos hk, hk, List.lookup_cons_self]
      simp only [List.map_cons, List.sum_cons, Option.elim_some, Option.getD_some]
      omega
    · have hne : (key == k) = false := beq_eq_false_iff_ne.mpr fun h ↦ hk h.symm
      rw [if_neg hk, List.lookup_cons]
      simp only [hne, List.map_cons, List.sum_cons]
      omega

/-! ## Views of a path -/

/-- The keys of the classes right below the class at a path. -/
def keysAt (c : ClassNode) (p : List String) : List String :=
  (c.find? p).elim [] fun d ↦ d.classMap.map (·.1)

/-- The constants of the class at a path under their keys. -/
def fieldsAt (c : ClassNode) (p : List String) : List (String × Field) :=
  (c.find? p).elim [] fieldMap

@[simp] theorem keysAt_nil (c : ClassNode) : c.keysAt [] = c.classMap.map (·.1) := rfl

@[simp] theorem fieldsAt_nil (c : ClassNode) : c.fieldsAt [] = c.fieldMap := rfl

theorem elim_find?_cons {α : Type} {f : ClassNode → List α} (hf : ∀ n, f (empty n) = [])
    (c : ClassNode) (n : String) (p : List String) :
    (c.find? (n :: p)).elim [] f = (((c.nested? n).getD (empty n)).find? p).elim [] f := by
  rw [find?]
  cases c.nested? n with
  | some d => rfl
  | none =>
    cases p with
    | nil => exact (hf n).symm
    | cons m p => rfl

theorem keysAt_cons (c : ClassNode) (n : String) (p : List String) :
    c.keysAt (n :: p) = ((c.nested? n).getD (empty n)).keysAt p :=
  elim_find?_cons (fun _ ↦ rfl) c n p

theorem fieldsAt_cons (c : ClassNode) (n : String) (p : List String) :
    c.fieldsAt (n :: p) = ((c.nested? n).getD (empty n)).fieldsAt p :=
  elim_find?_cons (fun _ ↦ rfl) c n p

theorem find?_append (c : ClassNode) (p q : List String) :
    c.find? (p ++ q) = (c.find? p).bind (·.find? q) := by
  induction p generalizing c with
  | nil => rfl
  | cons n p ih =>
    rw [List.cons_append, find?, find?]
    cases c.nested? n with
    | none => rfl
    | some d => exact ih d

theorem isSome_find?_concat (c : ClassNode) (p : List String) (n : String) :
    (c.find? (p ++ [n])).isSome ↔ n ∈ c.keysAt p := by
  rw [find?_append, keysAt]
  cases c.find? p with
  | none => simp
  | some d =>
    simp only [Option.bind_some, find?, Option.bind_fun_some, Option.elim_some]
    exact isSome_lookup_iff

theorem hasFieldAt_eq (c : ClassNode) (p : List String) (k : String) :
    c.hasFieldAt p k = ((c.fieldsAt p).lookup k).isSome := by
  rw [hasFieldAt, fieldsAt]
  cases c.find? p <;> rfl

theorem hasNestedAt_iff_mem_keysAt {c : ClassNode} {p : List String} {n : String} :
    c.hasNestedAt p n = true ↔ n ∈ c.keysAt p := by
  rw [hasNestedAt, keysAt]
  cases c.find? p with
  | none => simp
  | some d => exact isSome_lookup_iff

theorem hasNestedAt_iff {c : ClassNode} {p : List String} {n : String} :
    c.hasNestedAt p n = true ↔ (c.find? (p ++ [n])).isSome :=
  hasNestedAt_iff_mem_keysAt.trans (isSome_find?_concat c p n).symm

/-! ## Insertion at a path

A change at a path is seen by a second path in two ways only: as the change itself, if the two
are the same, and as one key more, if the second one is on the way and the name behind it was
missing. -/

/-- The name behind the prefix `p` of a path, if there is one. -/
def nextName : (p path : List String) → Option String
  | [], n :: _ => some n
  | m :: p, n :: path => if m = n then nextName p path else none
  | _, [] => none

theorem exists_of_nextName {p path : List String} {n : String} (h : nextName p path = some n) :
    ∃ rest, path = p ++ n :: rest := by
  induction p generalizing path with
  | nil =>
    cases path with
    | nil => cases h
    | cons m path =>
      obtain rfl : m = n := Option.some.inj h
      exact ⟨path, rfl⟩
  | cons m p ih =>
    cases path with
    | nil => cases h
    | cons m' path =>
      rw [nextName, Option.ite_none_right_eq_some] at h
      obtain ⟨rest, rfl⟩ := ih h.2
      exact ⟨rest, by rw [h.1, List.cons_append]⟩

theorem mem_keysAt_of_nextName {c : ClassNode} {p path : List String} {n : String}
    (hpath : (c.find? path).isSome) (hn : nextName p path = some n) : n ∈ c.keysAt p := by
  obtain ⟨rest, rfl⟩ := exists_of_nextName hn
  rw [List.append_cons, find?_append] at hpath
  rw [← isSome_find?_concat]
  exact Option.isSome_of_isSome_bind hpath

section Modify

variable {g : ClassNode → ClassNode}

/-- A change at a path that leaves nested classes alone adds the next name of that path to the keys
at each of its proper prefixes. -/
theorem keysAt_modify (hg : ∀ c, (g c).classMap = c.classMap) (path p : List String)
    (c : ClassNode) :
    (modify g path c).keysAt p =
      match nextName p path with
      | none => c.keysAt p
      | some n => if n ∈ c.keysAt p then c.keysAt p else c.keysAt p ++ [n] := by
  -- The change and the view go down together for as long as their paths agree.
  induction path generalizing c p with
  | nil =>
    have hnext : nextName p [] = none := by cases p <;> rfl
    rw [hnext, modify]
    cases p with
    | nil => rw [keysAt_nil, keysAt_nil, hg]
    | cons m p => rw [keysAt_cons, keysAt_cons, nested?, nested?, hg]
  | cons n path ih =>
    cases p with
    | nil => exact map_fst_upsert _ _ _
    | cons m p =>
      rw [keysAt_cons, keysAt_cons, modify, nested?, classMap_mk, lookup_upsert, nextName]
      by_cases hm : m = n
      · rw [if_pos hm, if_pos hm, hm, Option.getD_some, ih, nested?]
      · rw [if_neg hm, if_neg hm, nested?]

/-- A change of the constants at a path is seen at that path alone. -/
theorem fieldsAt_modify {k : List (String × Field) → List (String × Field)}
    (hg : ∀ c, (g c).classMap = c.classMap) (hk : ∀ c, (g c).fieldMap = k c.fieldMap)
    (path p : List String) (c : ClassNode) :
    (modify g path c).fieldsAt p = if path = p then k (c.fieldsAt p) else c.fieldsAt p := by
  induction path generalizing c p with
  | nil =>
    rw [modify]
    cases p with
    | nil => rw [if_pos rfl, fieldsAt_nil, fieldsAt_nil, hk]
    | cons m p =>
      rw [if_neg (List.cons_ne_nil _ _).symm, fieldsAt_cons, fieldsAt_cons, nested?, nested?, hg]
  | cons n path ih =>
    cases p with
    | nil => rw [if_neg (List.cons_ne_nil _ _)]; rfl
    | cons m p =>
      rw [fieldsAt_cons, fieldsAt_cons, modify, nested?, classMap_mk, lookup_upsert]
      by_cases hm : m = n
      · rw [if_pos hm, hm, Option.getD_some, ih, nested?]
        simp only [List.cons.injEq, true_and]
      · have hne : ¬ n :: path = m :: p := fun h ↦ hm (List.cons.inj h).1.symm
        rw [if_neg hm, if_neg hne, nested?]

theorem modify_eq_self {path : List String} {c d : ClassNode} (hd : c.find? path = some d)
    (hg : g d = d) : modify g path c = c := by
  induction path generalizing c with
  | nil =>
    rw [find?, Option.some.injEq] at hd
    rw [modify, hd, hg]
  | cons n path ih =>
    rw [find?, Option.bind_eq_some_iff] at hd
    obtain ⟨e, he, hd⟩ := hd
    rw [modify, upsert_eq_self he (ih hd), eta]

theorem openAt_eq_self {c : ClassNode} {p : List String} {n : String}
    (h : c.hasNestedAt p n = true) : c.openAt (p ++ [n]) = c := by
  obtain ⟨d, hd⟩ := Option.isSome_iff_exists.mp (hasNestedAt_iff.mp h)
  exact modify_eq_self hd rfl

/-- A change at a path opens the classes on its way itself. -/
theorem modify_openAt (g : ClassNode → ClassNode) (p q : List String) (c : ClassNode) :
    modify g (p ++ q) (c.openAt p) = modify g (p ++ q) c := by
  rw [openAt]
  induction p generalizing c with
  | nil => rfl
  | cons n p ih =>
    rw [List.cons_append, modify, modify, modify, name_mk, fieldMap_mk, classMap_mk, upsert_upsert]
    congr 2
    exact funext ih

@[simp] theorem fieldsAt_openAt (path p : List String) (c : ClassNode) :
    (c.openAt path).fieldsAt p = c.fieldsAt p := by
  have h := fieldsAt_modify (g := id) (k := id) (fun _ ↦ rfl) (fun _ ↦ rfl) path p c
  rwa [id, ite_self] at h

theorem offerAt_eq (c : ClassNode) (path : List String) (f : Field) :
    c.offerAt path f = (!c.hasFieldAt path f.name, c.addFieldAt path f) := by
  have hadd := modify_openAt (·.addField f) path [] c
  rw [List.append_nil] at hadd
  rw [offerAt, hasFieldAt_eq, hasFieldAt_eq, fieldsAt_openAt, addFieldAt, addFieldAt, hadd]

theorem isSome_find?_openAt (path : List String) (c : ClassNode) :
    ((c.openAt path).find? path).isSome := by
  rw [openAt]
  induction path generalizing c with
  | nil => rfl
  | cons n path ih =>
    rw [modify, find?, nested?, classMap_mk, lookup_upsert, if_pos rfl, Option.bind_some]
    exact ih _

@[simp] theorem name_modify (hg : ∀ c, (g c).name = c.name) (path : List String) (c : ClassNode) :
    (modify g path c).name = c.name := by
  cases path with
  | nil => exact hg c
  | cons n path => rfl

end Modify

/-! ## Names and keys -/

/-- Every class that a class holds stands under its name. -/
def Keyed (c : ClassNode) : Prop := ∀ d, c.Holds d → ∀ k e, (k, e) ∈ d.classMap → e.name = k

theorem keyed_iff {c : ClassNode} :
    c.Keyed ↔ ∀ k d, (k, d) ∈ c.classMap → d.name = k ∧ d.Keyed := by
  rw [Keyed, forall_holds_iff]
  constructor
  · rintro ⟨hc, hbelow⟩ k d hd
    exact ⟨hc k d hd, hbelow k d hd⟩
  · intro h
    exact ⟨fun k d hd ↦ (h k d hd).1, fun k d hd ↦ (h k d hd).2⟩

theorem keyed_empty (n : String) : (empty n).Keyed :=
  keyed_iff.mpr fun _ _ h ↦ absurd h List.not_mem_nil

theorem Keyed.modify {g : ClassNode → ClassNode} (hname : ∀ c, (g c).name = c.name)
    (hclass : ∀ c, (g c).classMap = c.classMap) {c : ClassNode} (h : c.Keyed)
    (path : List String) : (modify g path c).Keyed := by
  induction path generalizing c with
  | nil =>
    rw [ClassNode.modify, keyed_iff, hclass]
    exact keyed_iff.mp h
  | cons n path ih =>
    rw [keyed_iff] at h ⊢
    intro k d hd
    rcases mem_upsert hd with hd | ⟨rfl, e, he, rfl⟩
    · exact h k d hd
    · have hkeyed : e.name = k ∧ e.Keyed := by
        rcases he with he | rfl
        · exact h k e he
        · exact ⟨rfl, keyed_empty k⟩
      exact ⟨(name_modify hname _ _).trans hkeyed.1, ih hkeyed.2⟩

theorem Keyed.name_of_find? {c d : ClassNode} (h : c.Keyed) {p : List String} {n : String}
    (hd : c.find? (p ++ [n]) = some d) : d.name = n := by
  induction p generalizing c with
  | nil =>
    rw [List.nil_append, find?, Option.bind_eq_some_iff] at hd
    obtain ⟨e, he, hd⟩ := hd
    rw [find?, Option.some.injEq] at hd
    rw [← hd]
    exact (keyed_iff.mp h n e (mem_of_lookup he)).1
  | cons k p ih =>
    rw [List.cons_append, find?, Option.bind_eq_some_iff] at hd
    obtain ⟨e, he, hd⟩ := hd
    exact ih (keyed_iff.mp h k e (mem_of_lookup he)).2 hd

/-- With distinct keys at every path, every class that a tree holds stands at a path. -/
theorem Holds.exists_find? {c d : ClassNode} (h : c.Holds d) (hkeys : ∀ p, (c.keysAt p).Nodup) :
    ∃ p, c.find? p = some d := by
  -- A lookup finds the class that is held, and not another one under its key.
  induction h with
  | self c => exact ⟨[], rfl⟩
  | @nested c d e k hd _ ih =>
    have hk : c.nested? k = some d := lookup_of_mem (hkeys []) hd
    obtain ⟨p, hp⟩ := ih fun p ↦ by
      have hp := hkeys (k :: p)
      rwa [keysAt_cons, hk] at hp
    refine ⟨k :: p, ?_⟩
    rw [find?, hk]
    exact hp

/-! ## Counts

Constants and classes are counted by a sum over the classes under the keys. An insertion makes one
class give way to another in that sum, so counts follow without a look at where the class stands. -/

theorem totalFieldsOf_eq (cs : List (String × ClassNode)) :
    totalFieldsOf cs = (cs.map (·.2.totalFields)).sum := by
  induction cs with
  | nil => rfl
  | cons e cs ih => rw [totalFieldsOf, ih, List.map_cons, List.sum_cons]

theorem totalClassesOf_eq (cs : List (String × ClassNode)) :
    totalClassesOf cs = (cs.map (·.2.totalClasses)).sum := by
  induction cs with
  | nil => rfl
  | cons e cs ih => rw [totalClassesOf, ih, List.map_cons, List.sum_cons]

theorem totalFields_eq (c : ClassNode) :
    c.totalFields = c.fieldMap.length + (c.classMap.map (·.2.totalFields)).sum := by
  cases c
  rw [totalFields, totalFieldsOf_eq]
  rfl

theorem totalClasses_eq (c : ClassNode) :
    c.totalClasses = 1 + (c.classMap.map (·.2.totalClasses)).sum := by
  cases c
  rw [totalClasses, totalClassesOf_eq]
  rfl

theorem totalFields_openAt (path : List String) (c : ClassNode) :
    (c.openAt path).totalFields = c.totalFields := by
  induction path generalizing c with
  | nil => rfl
  | cons n path ih =>
    have hsum := sum_map_upsert totalFields n (modify id path) c.classMap
    have hsame := ih ((c.classMap.lookup n).getD (empty n))
    rw [openAt] at hsame ⊢
    rw [modify, totalFields_eq, totalFields_eq c, fieldMap_mk, classMap_mk]
    rw [hsame] at hsum
    cases hn : c.classMap.lookup n with
    | none =>
      rw [hn, Option.elim_none, Option.getD_none, totalFields_empty] at hsum
      omega
    | some d =>
      rw [hn, Option.elim_some, Option.getD_some] at hsum
      omega

theorem totalFields_addFieldAt (path : List String) (f : Field) (c : ClassNode) :
    (c.addFieldAt path f).totalFields =
      c.totalFields + if c.hasFieldAt path f.name then 0 else 1 := by
  induction path generalizing c with
  | nil =>
    rw [addFieldAt, modify, addField, hasFieldAt, find?, Option.any_some]
    split
    · rfl
    · rw [totalFields_eq, totalFields_eq c, fieldMap_mk, classMap_mk, List.length_append,
        List.length_singleton]
      omega
  | cons n path ih =>
    have hsum := sum_map_upsert totalFields n (modify (·.addField f) path) c.classMap
    have hmore := ih ((c.classMap.lookup n).getD (empty n))
    rw [addFieldAt] at hmore ⊢
    rw [modify, totalFields_eq, totalFields_eq c, fieldMap_mk, classMap_mk]
    rw [hmore] at hsum
    rw [hasFieldAt, find?, nested?]
    cases hn : c.classMap.lookup n with
    | none =>
      -- Below a missing class nothing is taken, as nothing is below an empty one.
      have hfree : (empty n).hasFieldAt path f.name = false := by cases path <;> rfl
      rw [hn, Option.elim_none, Option.getD_none, totalFields_empty, hfree] at hsum
      rw [Option.bind_none, Option.any_none]
      omega
    | some d =>
      rw [hn, Option.elim_some, Option.getD_some, hasFieldAt] at hsum
      rw [Option.bind_some]
      omega

/-- A change at the path of a class adds as many classes as it adds there. -/
theorem totalClasses_modify {path : List String} {g : ClassNode → ClassNode} {c d : ClassNode}
    (hd : c.find? path = some d) :
    (modify g path c).totalClasses + d.totalClasses = c.totalClasses + (g d).totalClasses := by
  induction path generalizing c with
  | nil =>
    rw [find?, Option.some.injEq] at hd
    rw [modify, hd]
    omega
  | cons n path ih =>
    rw [find?, Option.bind_eq_some_iff] at hd
    obtain ⟨e, he, hd⟩ := hd
    have hsum := sum_map_upsert totalClasses n (modify g path) c.classMap
    have hbelow := ih hd
    rw [nested?] at he
    rw [he, Option.elim_some, Option.getD_some] at hsum
    rw [modify, totalClasses_eq, totalClasses_eq c, classMap_mk]
    omega

theorem modify_append (g : ClassNode → ClassNode) (p q : List String) (c : ClassNode) :
    modify g (p ++ q) c = modify (modify g q) p c := by
  induction p generalizing c with
  | nil => rfl
  | cons n p ih =>
    rw [List.cons_append, modify, modify]
    congr 2
    exact funext ih

theorem totalClasses_openAt_concat {p : List String} {c d : ClassNode} (hd : c.find? p = some d)
    (n : String) :
    (c.openAt (p ++ [n])).totalClasses =
      c.totalClasses + if c.hasNestedAt p n then 0 else 1 := by
  have hmodify := totalClasses_modify (g := modify id [n]) hd
  have hsum := sum_map_upsert totalClasses n id d.classMap
  have hinner : (modify id [n] d).totalClasses =
      1 + ((upsert n id d.classMap).map (·.2.totalClasses)).sum := totalClasses_eq _
  rw [totalClasses_eq d, hinner] at hmodify
  rw [openAt, modify_append, hasNestedAt, hd, Option.any_some, hasNested, nested?]
  cases hn : d.classMap.lookup n with
  | none =>
    rw [hn, Option.elim_none, Option.getD_none, id, totalClasses_empty] at hsum
    rw [Option.isSome_none, if_neg Bool.false_ne_true]
    omega
  | some e =>
    rw [hn, Option.elim_some, Option.getD_some, id] at hsum
    rw [Option.isSome_some, if_pos rfl]
    omega

theorem totalClasses_addFieldAt {p : List String} {c d : ClassNode} (hd : c.find? p = some d)
    (f : Field) : (c.addFieldAt p f).totalClasses = c.totalClasses := by
  have hmodify := totalClasses_modify (g := (·.addField f)) hd
  have hsame : (d.addField f).totalClasses = d.totalClasses := by
    rw [totalClasses_eq, totalClasses_eq d, addField]
    split <;> rfl
  rw [addFieldAt]
  omega

end ClassNode

end JavaConstants
