import Mathlib.Data.List.Basic
import JavaConstants.FileSystem.Edit

/-!
# Entries of a file tree

A tree of files is seen through one view: the entry at a path of names, without what stands below
it. An insertion and a removal at a path are told by it: at or below the path there is what was put
there, and nowhere else is anything different (`entryAt_insert`, `entryAt_erase`). The directories
on the way keep their entries, so they look the same.
-/

namespace JavaConstants

theorem not_concat_isPrefix_self {α : Type} (p : List α) (a : α) : ¬ p ++ [a] <+: p := fun h ↦ by
  have hlength := h.length_le
  rw [List.length_append, List.length_singleton] at hlength
  omega

namespace Node

/-- A node without what stands below it. -/
def bare : Node → Node
  | directory _ => emptyDirectory
  | n => n

/-- The entry at a path of names, without what stands below it. -/
def entryAt (n : Node) (names : List String) : Option Node := (n.find? names).map bare

/-- A tree that has all the entries of another, as they are. -/
def Sub (n n' : Node) : Prop := ∀ names e, n.entryAt names = some e → n'.entryAt names = some e

/-! ## Below one directory -/

theorem find?_cons (n : Node) (name : String) (names : List String) :
    n.find? (name :: names) = (n.child? name).bind (·.find? names) := rfl

theorem entryAt_nil (n : Node) : n.entryAt [] = some n.bare := rfl

theorem entryAt_cons (n : Node) (name : String) (names : List String) :
    n.entryAt (name :: names) = (n.child? name).bind (·.entryAt names) := by
  rw [entryAt, find?_cons]
  cases n.child? name <;> rfl

theorem find?_append (n : Node) (p q : List String) :
    n.find? (p ++ q) = (n.find? p).bind (·.find? q) := by
  induction p generalizing n with
  | nil => rfl
  | cons name p ih =>
    rw [List.cons_append, find?_cons, find?_cons]
    cases n.child? name with
    | none => rfl
    | some c => exact ih c

theorem entryAt_append (n : Node) (p q : List String) :
    n.entryAt (p ++ q) = (n.find? p).bind (·.entryAt q) := by
  rw [entryAt, find?_append]
  cases n.find? p <;> rfl

theorem bare_eq_emptyDirectory_iff {n : Node} :
    n.bare = emptyDirectory ↔ ∃ es, n = directory es := by
  cases n with
  | directory es => exact ⟨fun _ ↦ ⟨es, rfl⟩, fun _ ↦ rfl⟩
  | _ => exact ⟨nofun, nofun⟩

theorem entryAt_eq_emptyDirectory_iff {n : Node} {p : List String} :
    n.entryAt p = some emptyDirectory ↔ ∃ es, n.find? p = some (directory es) := by
  rw [entryAt, Option.map_eq_some_iff]
  constructor
  · rintro ⟨m, hm, hbare⟩
    obtain ⟨es, rfl⟩ := bare_eq_emptyDirectory_iff.mp hbare
    exact ⟨es, hm⟩
  · rintro ⟨es, hes⟩
    exact ⟨_, hes, rfl⟩

/-- What stands below an entry stands below a directory. -/
theorem entryAt_eq_emptyDirectory_of_append {n : Node} {p q : List String} (hq : q ≠ [])
    (h : (n.entryAt (p ++ q)).isSome) : n.entryAt p = some emptyDirectory := by
  obtain ⟨name, names, rfl⟩ := List.exists_cons_of_ne_nil hq
  rw [entryAt_append] at h
  cases hp : n.find? p with
  | none =>
    rw [hp] at h
    cases h
  | some m =>
    rw [hp, Option.bind_some, entryAt_cons] at h
    cases m with
    | directory es => exact entryAt_eq_emptyDirectory_iff.mpr ⟨es, hp⟩
    | file content => cases h
    | link target => cases h
    | device => cases h

theorem entryAt_eq_emptyDirectory_of_isPrefix {n : Node} {p q : List String} (hpq : p <+: q)
    (h : n.entryAt q = some emptyDirectory) : n.entryAt p = some emptyDirectory := by
  obtain ⟨r, rfl⟩ := hpq
  rcases eq_or_ne r [] with rfl | hr
  · rwa [List.append_nil] at h
  · exact entryAt_eq_emptyDirectory_of_append hr (by rw [h]; rfl)

theorem isSome_entryAt_of_isPrefix {n : Node} {p q : List String} (hpq : p <+: q)
    (h : (n.entryAt q).isSome) : (n.entryAt p).isSome := by
  obtain ⟨r, rfl⟩ := hpq
  rcases List.eq_nil_or_concat r with rfl | ⟨r, name, rfl⟩
  · rwa [List.append_nil] at h
  · have hne : r.concat name ≠ [] := by rw [List.concat_eq_append]; simp
    rw [entryAt_eq_emptyDirectory_of_append hne h]
    rfl

/-! ## Insertion and removal under one name -/

theorem find?_insertEntry (name : String) (m : Node) (es : List (String × Node)) (k : String) :
    ((insertEntry name m es).find? (·.1 = k)).map (·.2) =
      if name = k then some m else (es.find? (·.1 = k)).map (·.2) := by
  induction es with
  | nil =>
    rw [insertEntry, List.find?_singleton]
    by_cases hk : name = k
    · rw [if_pos hk, if_pos (decide_eq_true hk)]
      rfl
    · rw [if_neg hk, if_neg (by simpa using hk)]
      rfl
  | cons e es ih =>
    rw [insertEntry]
    by_cases he : e.1 = name
    · rw [if_pos he, List.find?_cons, List.find?_cons]
      by_cases hk : name = k
      · simp only [hk, decide_true, if_true, Option.map_some]
      · have hek : ¬ e.1 = k := fun h ↦ hk (he.symm.trans h)
        simp only [hk, hek, decide_false, if_false]
    · rw [if_neg he, List.find?_cons, List.find?_cons]
      by_cases hk : name = k
      · have hek : ¬ e.1 = k := fun h ↦ he (h.trans hk.symm)
        rw [if_pos hk] at ih ⊢
        simp only [hek, decide_false]
        exact ih
      · rw [if_neg hk] at ih ⊢
        by_cases hek : e.1 = k
        · simp only [hek, decide_true, Option.map_some]
        · simp only [hek, decide_false]
          exact ih

theorem child?_insertEntry (name : String) (m : Node) (es : List (String × Node)) (k : String) :
    (directory (insertEntry name m es)).child? k =
      if name = k then some m else (directory es).child? k := find?_insertEntry name m es k

theorem child?_filter (name : String) (es : List (String × Node)) (k : String) :
    (directory (es.filter (·.1 ≠ name))).child? k =
      if name = k then none else (directory es).child? k := by
  rw [child?, child?, entries, entries, List.find?_filter]
  by_cases hk : name = k
  · rw [if_pos hk, Option.map_eq_none_iff, List.find?_eq_none]
    intro e _
    simp [hk]
  · rw [if_neg hk]
    congr 2
    funext e
    by_cases hek : e.1 = k
    · simp [hek, Ne.symm hk]
    · simp [hek]

/-! ## Insertion and removal at a path

Both go on below the first name of a path and do something with the last one. What follows from
that alone is shown once, for any such edit (`entryAt_edit`). -/

section Edit

variable {n : Node} {p : List String}

theorem entryAt_insertEntry {es : List (String × Node)} {k : String} {c c' : Node}
    (hc : (directory es).child? k = some c) {path : List String}
    {x : List String → Option Node}
    (hx : ∀ q, c'.entryAt q = if path <+: q then x q else c.entryAt q) (q : List String) :
    (directory (insertEntry k c' es)).entryAt q =
      if k :: path <+: q then x q.tail else (directory es).entryAt q := by
  cases q with
  | nil =>
    rw [if_neg fun h ↦ absurd (List.prefix_nil.mp h) (List.cons_ne_nil _ _)]
    rfl
  | cons j q =>
    rw [entryAt_cons, child?_insertEntry, entryAt_cons]
    by_cases hj : k = j
    · rw [if_pos hj, Option.bind_some, hx q, ← hj, hc]
      simp [List.cons_prefix_cons]
    · rw [if_neg hj, if_neg fun h ↦ hj (List.cons_prefix_cons.mp h).1]

/-- **One edit.** An edit that leaves `x` under the last name of a path, and goes on below the first
name of a longer one, changes nothing else. -/
theorem entryAt_edit (edit : List String → Node → Node) (x : Option Node) {name : String}
    (hlast : ∀ es, ∃ es', edit [name] (directory es) = directory es' ∧
      ∀ k, (directory es').child? k = if name = k then x else (directory es).child? k)
    (hbelow : ∀ k p es c, (directory es).child? k = some c →
      edit (k :: (p ++ [name])) (directory es) =
        directory (insertEntry k (edit (p ++ [name]) c) es))
    (hp : n.entryAt p = some emptyDirectory) (q : List String) :
    (edit (p ++ [name]) n).entryAt q =
      if p ++ [name] <+: q then x.bind (·.entryAt (q.drop (p.length + 1))) else n.entryAt q := by
  induction p generalizing n q with
  | nil =>
    obtain ⟨es, rfl⟩ := bare_eq_emptyDirectory_iff.mp (Option.some.inj hp)
    obtain ⟨es', hedit, hchild⟩ := hlast es
    rw [List.nil_append, hedit]
    cases q with
    | nil => simp [entryAt_nil, bare]
    | cons k q =>
      rw [entryAt_cons, hchild, entryAt_cons]
      by_cases hk : name = k
      · simp [hk]
      · simp [hk]
  | cons k p ih =>
    rw [entryAt_cons] at hp
    cases hc : n.child? k with
    | none =>
      rw [hc] at hp
      cases hp
    | some c =>
      rw [hc, Option.bind_some] at hp
      cases n with
      | directory es =>
        have hrest := entryAt_insertEntry hc (ih hp) q
        rw [List.cons_append, hbelow k p es c hc, hrest, List.drop_tail, List.length_cons]
      | file content => cases hc
      | link target => cases hc
      | device => cases hc

/-- **Insertion.** What is put at a path in a directory stands there, and nothing else changes. -/
theorem entryAt_insert (m : Node) (hp : n.entryAt p = some emptyDirectory) (name : String)
    (q : List String) :
    (insert m (p ++ [name]) n).entryAt q =
      if p ++ [name] <+: q then m.entryAt (q.drop (p.length + 1)) else n.entryAt q := by
  refine entryAt_edit (insert m) (some m) (fun es ↦ ?_) (fun k p es c hc ↦ ?_) hp q
  · refine ⟨insertEntry name m es, ?_, child?_insertEntry name m es⟩
    rw [insert]
    exact if_pos rfl
  · rw [insert, if_neg (by simp)]
    simp only [hc]

/-- **Removal.** What stood at a path in a directory is gone, and nothing else changes. -/
theorem entryAt_erase (hp : n.entryAt p = some emptyDirectory) (name : String) (q : List String) :
    (erase (p ++ [name]) n).entryAt q = if p ++ [name] <+: q then none else n.entryAt q := by
  refine entryAt_edit erase none (fun es ↦ ?_) (fun k p es c hc ↦ ?_) hp q
  · refine ⟨es.filter (·.1 ≠ name), ?_, child?_filter name es⟩
    rw [erase]
    exact if_pos rfl
  · rw [erase, if_neg (by simp)]
    simp only [hc]

theorem entryAt_insert_of_isSome (m : Node) (hp : (n.entryAt p).isSome) (q : List String) :
    (insert m p n).entryAt q = if p <+: q then m.entryAt (q.drop p.length) else n.entryAt q := by
  rcases List.eq_nil_or_concat p with rfl | ⟨p, name, rfl⟩
  · rw [insert, if_pos List.nil_prefix]
    rfl
  · rw [List.concat_eq_append] at hp ⊢
    have hdirectory := entryAt_eq_emptyDirectory_of_append (List.cons_ne_nil name []) hp
    rw [entryAt_insert m hdirectory, List.length_append, List.length_singleton]

end Edit

theorem entryAt_eq_none_of_isPrefix {n : Node} {p q : List String} (hp : n.entryAt p = none)
    (hpq : p <+: q) : n.entryAt q = none := by
  by_contra hq
  have hsome := isSome_entryAt_of_isPrefix hpq (Option.isSome_iff_ne_none.mpr hq)
  rw [hp] at hsome
  cases hsome

theorem entryAt_insert_of_free {n m : Node} {p : List String} {name : String} (hm : m.entries = [])
    (hp : n.entryAt p = some emptyDirectory) (hname : n.entryAt (p ++ [name]) = none)
    (q : List String) :
    (insert m (p ++ [name]) n).entryAt q =
      if q = p ++ [name] then some m.bare else n.entryAt q := by
  rw [entryAt_insert m hp]
  by_cases hunder : p ++ [name] <+: q
  · rw [if_pos hunder]
    obtain ⟨below, rfl⟩ := hunder
    rw [List.drop_left' (by simp)]
    cases below with
    | nil => rw [List.append_nil, if_pos rfl, entryAt_nil]
    | cons k below =>
      rw [if_neg (by simp), entryAt_eq_none_of_isPrefix hname (List.prefix_append _ _),
        entryAt_cons, child?, hm]
      rfl
  · have hne : q ≠ p ++ [name] := by
      rintro rfl
      exact hunder List.prefix_rfl
    rw [if_neg hunder, if_neg hne]

/-! ## More entries -/

namespace Sub

theorem refl (n : Node) : n.Sub n := fun _ _ h ↦ h

theorem trans {n n' n'' : Node} (h : n.Sub n') (h' : n'.Sub n'') : n.Sub n'' :=
  fun names e hentry ↦ h' names e (h names e hentry)

theorem insert {n m : Node} {p : List String} {name : String}
    (hp : n.entryAt p = some emptyDirectory) (hname : n.entryAt (p ++ [name]) = none) :
    n.Sub (Node.insert m (p ++ [name]) n) := by
  intro q e hq
  rw [entryAt_insert m hp, if_neg, hq]
  intro hunder
  have hsome := isSome_entryAt_of_isPrefix hunder (by rw [hq]; rfl)
  rw [hname] at hsome
  cases hsome

theorem of_emptied {n : Node} {p : List String} (hp : n.entryAt p = some emptyDirectory) :
    (Node.insert emptyDirectory p n).Sub n := by
  intro q e hq
  rw [entryAt_insert_of_isSome emptyDirectory (by rw [hp]; rfl)] at hq
  by_cases hunder : p <+: q
  · obtain ⟨r, rfl⟩ := hunder
    rw [if_pos (List.prefix_append p r), List.drop_left] at hq
    cases r with
    | nil => rwa [List.append_nil, hp]
    | cons name r => cases hq
  · rwa [if_neg hunder] at hq

end Sub

end Node

end JavaConstants
