import JavaConstants.Proofs.Generation
import JavaConstants.Resource.Node

/-!
# Subtrees

What stands at a place with everything below it, and what a walk sees of it. A change at a place
leaves every subtree that is apart from it as it was (`find?_insert_of_apart`,
`find?_erase_of_apart`). A subtree without links is all that a walk sees: nothing else in the file
system matters, and neither does the place (`seeEntry_congr`).

A node of the model may hold entries that no system lists, such as two of one name. Well-formed
trees are those whose directories are listed as a system lists them (`WellFormed`).
-/

namespace JavaConstants

namespace Node

/-- Trees, with everything in a directory ahead of the directory. -/
@[elab_as_elim]
theorem induction {P : Node → Prop} (file : ∀ content, P (.file content))
    (link : ∀ target, P (.link target)) (device : P .device)
    (directory : ∀ es, (∀ e ∈ es, P e.2) → P (.directory es)) : ∀ n, P n
  | .file content => file content
  | .link target => link target
  | .device => device
  | .directory es => directory es fun e he ↦
    have : sizeOf e.2 < sizeOf es := by
      have := List.sizeOf_lt_of_mem he
      rcases e with ⟨name, n⟩
      simp only [Prod.mk.sizeOf_spec] at this ⊢
      omega
    induction file link device directory e.2
termination_by n => sizeOf n

/-! ## Subtrees after a change -/

section Change

variable {n m : Node} {p q : List String}

theorem find?_of_child? {es es' : List (String × Node)} {k : String} {path : List String}
    (hother : ∀ j, k ≠ j → (directory es').child? j = (directory es).child? j)
    (hbelow : ∀ q, ¬ path <+: q → ¬ q <+: path →
      ((directory es').child? k).bind (·.find? q) = ((directory es).child? k).bind (·.find? q))
    (hp : ¬ k :: path <+: q) (hq : ¬ q <+: k :: path) :
    (directory es').find? q = (directory es).find? q := by
  rcases q with _ | ⟨j, q⟩
  · exact absurd List.nil_prefix hq
  rw [find?_cons, find?_cons]
  by_cases hk : k = j
  · subst hk
    exact hbelow q (fun h ↦ hp (List.cons_prefix_cons.mpr ⟨rfl, h⟩))
      fun h ↦ hq (List.cons_prefix_cons.mpr ⟨rfl, h⟩)
  · rw [hother j hk]

theorem find?_insertEntry_of_apart {es : List (String × Node)} {k : String} {c c' : Node}
    (hc : (directory es).child? k = some c) {path : List String}
    (hx : ∀ q, ¬ path <+: q → ¬ q <+: path → c'.find? q = c.find? q) (hp : ¬ k :: path <+: q)
    (hq : ¬ q <+: k :: path) :
    (directory (insertEntry k c' es)).find? q = (directory es).find? q := by
  refine find?_of_child? (fun j hj ↦ ?_) (fun q hp hq ↦ ?_) hp hq
  · rw [child?_insertEntry, if_neg hj]
  · rw [child?_insertEntry, if_pos rfl, hc]
    exact hx q hp hq

/-- An insertion leaves the subtrees that are apart from it. -/
theorem find?_insert_of_apart (m : Node) (hp : ¬ p <+: q) (hq : ¬ q <+: p) :
    (insert m p n).find? q = n.find? q := by
  induction p generalizing n q with
  | nil => exact absurd List.nil_prefix hp
  | cons k path ih =>
    rcases n with content | es | target | _
    · rfl
    · rw [insert]
      split_ifs with hpath
      · subst hpath
        refine find?_of_child? (fun j hj ↦ ?_) (fun q hp _ ↦ absurd List.nil_prefix hp) hp hq
        rw [child?_insertEntry, if_neg hj]
      · rcases hc : (directory es).child? k with _ | c
        · rfl
        · exact find?_insertEntry_of_apart hc (fun q hp hq ↦ ih hp hq) hp hq
    · rfl
    · rfl

theorem find?_erase_of_apart (hp : ¬ p <+: q) (hq : ¬ q <+: p) :
    (erase p n).find? q = n.find? q := by
  induction p generalizing n q with
  | nil => exact absurd List.nil_prefix hp
  | cons k path ih =>
    rcases n with content | es | target | _
    · rfl
    · rw [erase]
      split_ifs with hpath
      · subst hpath
        refine find?_of_child? (fun j hj ↦ ?_) (fun q hp _ ↦ absurd List.nil_prefix hp) hp hq
        rw [child?_filter, if_neg hj]
      · rcases hc : (directory es).child? k with _ | c
        · rfl
        · exact find?_insertEntry_of_apart hc (fun q hp hq ↦ ih hp hq) hp hq
    · rfl
    · rfl

theorem find?_insert_self (m : Node) (hp : (n.find? p).isSome) :
    (insert m p n).find? p = some m := by
  induction p generalizing n with
  | nil => rfl
  | cons k path ih =>
    rw [find?_cons] at hp
    rcases hc : n.child? k with _ | c
    · rw [hc] at hp
      cases hp
    rw [hc, Option.bind_some] at hp
    rcases n with content | es | target | _
    · cases hc
    · rw [insert]
      split_ifs with hpath
      · rw [hpath, find?_cons, child?_insertEntry, if_pos rfl]
        rfl
      · simp only [hc]
        rw [find?_cons, child?_insertEntry, if_pos rfl, Option.bind_some, ih hp]
    · cases hc
    · cases hc

end Change

/-! ## Well-formed trees -/

/-- Names of the entries of a directory, as a system lists them. -/
structure Listable (names : List String) : Prop where
  /-- No two entries have one name. -/
  nodup : names.Nodup
  /-- The names can stand in paths. -/
  name : ∀ s ∈ names, IsEntryName s
  /-- They are not too long. -/
  fits : ∀ s ∈ names, s.utf8ByteSize ≤ FileSystem.maxNameBytes

/-- Whether names can be listed can be computed. -/
instance (names : List String) : Decidable (Listable names) :=
  decidable_of_iff (names.Nodup ∧ (∀ s ∈ names,
      PathStep.ofPart s = .enter s ∧ '/' ∉ s.toList ∧ '\x00' ∉ s.toList) ∧
        ∀ s ∈ names, s.utf8ByteSize ≤ FileSystem.maxNameBytes)
    ⟨fun h ↦ ⟨h.1, fun s hs ↦ ⟨(h.2.1 s hs).1, (h.2.1 s hs).2.1, (h.2.1 s hs).2.2⟩, h.2.2⟩,
      fun h ↦ ⟨h.nodup, fun s hs ↦ ⟨(h.name s hs).step, (h.name s hs).slash, (h.name s hs).nul⟩,
        h.fits⟩⟩

/-- A tree whose directories all have entries as a system lists them. -/
def WellFormed (n : Node) : Prop :=
  ∀ names es, n.find? names = some (directory es) → Listable (es.map (·.1))

section WellFormed

variable {n m : Node} {es : List (String × Node)} {e : String × Node} {p : List String}

theorem child?_of_mem (hnodup : (es.map (·.1)).Nodup) (he : e ∈ es) :
    (directory es).child? e.1 = some e.2 := by
  induction es with
  | nil => cases he
  | cons first es ih =>
    rw [List.map_cons, List.nodup_cons] at hnodup
    rw [child?, entries, List.find?_cons]
    rcases List.mem_cons.mp he with rfl | he
    · simp
    · have hne : first.1 ≠ e.1 := fun h ↦ hnodup.1 (h ▸ List.mem_map_of_mem he)
      simp only [hne, decide_false]
      exact ih hnodup.2 he

theorem WellFormed.of_find? (h : n.WellFormed) (hp : n.find? p = some m) : m.WellFormed := by
  intro names es hes
  refine h (p ++ names) es ?_
  rw [find?_append, hp, Option.bind_some, hes]

theorem LinkFree.of_find? (h : n.LinkFree) (hp : n.find? p = some m) : m.LinkFree := by
  intro names target hentry
  refine h (p ++ names) target ?_
  rw [entryAt_append, hp, Option.bind_some, hentry]

theorem WellFormed.listable (h : (directory es).WellFormed) : Listable (es.map (·.1)) := h [] es rfl

theorem WellFormed.find?_of_mem (h : (directory es).WellFormed) (he : e ∈ es) :
    (directory es).find? [e.1] = some e.2 := by
  rw [find?_cons, child?_of_mem h.listable.nodup he]
  rfl

theorem WellFormed.of_mem (h : (directory es).WellFormed) (he : e ∈ es) : e.2.WellFormed :=
  h.of_find? (h.find?_of_mem he)

theorem WellFormed.of_entryAt (h : n.WellFormed) (hp : (n.entryAt p).isSome) :
    ∀ s ∈ p, IsEntryName s ∧ s.utf8ByteSize ≤ FileSystem.maxNameBytes := by
  induction p generalizing n with
  | nil => exact nofun
  | cons k path ih =>
    rw [entryAt_cons] at hp
    rcases hc : n.child? k with _ | c
    · rw [hc] at hp
      cases hp
    rw [hc, Option.bind_some] at hp
    have hchild : n.find? [k] = some c := by
      rw [find?_cons, hc]
      rfl
    rcases n with content | es | target | _
    · cases hc
    · obtain ⟨e, he, rfl⟩ := Option.map_eq_some_iff.mp hc
      have hmem := List.mem_map_of_mem (f := (·.1)) (List.mem_of_find?_eq_some he)
      have hname : e.1 = k := by simpa using List.find?_some he
      rintro s hs
      rcases List.mem_cons.mp hs with rfl | hs
      · exact hname ▸ ⟨h.listable.name e.1 hmem, h.listable.fits e.1 hmem⟩
      · exact ih (h.of_find? hchild) hp s hs
    · cases hc
    · cases hc

end WellFormed

end Node

namespace Node

variable {es : List (String × Node)}

theorem wellFormed_file (content : List UInt8) : (file content).WellFormed := by
  rintro (_ | ⟨name, names⟩) es hes
  · cases hes
  · cases hes

theorem wellFormed_directory (hes : Listable (es.map (·.1))) (h : ∀ e ∈ es, e.2.WellFormed) :
    (directory es).WellFormed := by
  rintro (_ | ⟨name, names⟩) es' hfound
  · cases hfound
    exact hes
  · rw [find?_cons, child?, entries] at hfound
    rcases he : es.find? (·.1 = name) with _ | e
    · rw [he] at hfound
      cases hfound
    · rw [he] at hfound
      exact h e (List.mem_of_find?_eq_some he) names es' hfound

end Node

/-! ## The path of a place -/

namespace Path

theorem parts_ofNames {names : List String} (h : ∀ s ∈ names, IsEntryName s) :
    (ofNames names).parts = if names = [] then [""] else names := by
  split_ifs with hnil
  · rw [hnil]
    decide
  · exact parts_ofParts ⟨fun s hs ↦ (h s hs).slash, nofun⟩ hnil

theorem namesIn_parts_ofNames {names : List String} (h : ∀ s ∈ names, IsEntryName s) :
    namesIn (ofNames names).parts = names := by
  rw [parts_ofNames h]
  split_ifs with hnil
  · rw [hnil]
    rfl
  · exact FileSystem.namesIn_of_isEntryName h

theorem filterMap_partComponent? {parts : List String} (hup : ".." ∉ parts) :
    parts.filterMap partComponent? = (namesIn parts).map .name := by
  induction parts with
  | nil => rfl
  | cons s parts ih =>
    rw [List.mem_cons, not_or] at hup
    rw [List.filterMap_cons]
    rcases hs : PathStep.ofPart s with _ | _ | name
    · have hnone : partComponent? s = none := if_pos (PathStep.ofPart_eq_stay_iff.mp hs)
      rw [hnone, namesIn_cons_of_stay hs]
      exact ih hup.2
    · exact absurd (PathStep.ofPart_eq_up_iff.mp hs).symm hup.1
    · obtain ⟨rfl, hempty, hhere, hnotUp⟩ := PathStep.ofPart_eq_enter_iff.mp hs
      have hname : partComponent? s = some (.name s) := by
        rw [partComponent?, if_neg (by tauto), if_neg hnotUp]
      rw [hname, namesIn_cons_of_enter hs, List.map_cons, ← ih hup.2]

theorem components_eq_names {p : Path} (habsolute : p.isAbsolute = true) (hup : ".." ∉ p.parts) :
    p.components = .root :: p.names.map .name := by
  rw [components_of_isAbsolute habsolute, filterMap_partComponent? hup]
  rfl

theorem notMem_parts_ofNames {names : List String} (h : ∀ s ∈ names, IsEntryName s) :
    ".." ∉ (ofNames names).parts := by
  rw [parts_ofNames h]
  split_ifs
  · decide
  · exact (FileSystem.notMem_of_isEntryName h).2

theorem components_ofNames_of_isEntryName {names : List String} (h : ∀ s ∈ names, IsEntryName s) :
    (ofNames names).components = .root :: names.map .name := by
  rw [components_eq_names (isAbsolute_ofNames names) (notMem_parts_ofNames h), Path.names,
    namesIn_parts_ofNames h]

end Path

namespace FileSystem

variable {fs fs' : FileSystem} {names : List String}

section Canonical

variable {p : Path} (husable : p.Usable) (habsolute : p.isAbsolute = true) (hup : ".." ∉ p.parts)
  (hfits : ∀ s ∈ p.names, s.utf8ByteSize ≤ maxNameBytes)
include husable habsolute hup hfits

theorem canonical_of_directory (hdirectory : fs.root.entryAt p.names = some .emptyDirectory) :
    fs.canonical p = .ok p.names := by
  refine locate_eq_ok_iff.mpr ⟨husable, ?_⟩
  rw [start, if_pos habsolute]
  exact (reaches_of_names hup hfits hdirectory).1

/-- A path that ends in the last of its names denotes what stands there, if that is no link. -/
theorem canonical_of_entry {front : List String} {s : String} (hparts : p.parts = front ++ [s])
    (hs : PathStep.ofPart s = .enter s) {e : Node} (hentry : fs.root.entryAt p.names = some e)
    (hlink : ∀ target, e ≠ .link target) : fs.canonical p = .ok p.names := by
  have hnames : p.names = Path.namesIn front ++ [s] := by
    rw [Path.names, hparts, Path.namesIn_append, Path.namesIn_cons_of_enter hs]
    rfl
  rw [hnames] at hfits hentry ⊢
  have hdirectory : fs.root.entryAt (Path.namesIn front) = some .emptyDirectory :=
    Node.entryAt_eq_emptyDirectory_of_append (List.cons_ne_nil s []) (by rw [hentry]; rfl)
  have hfront : fs.Reaches true front (Path.namesIn front) :=
    reaches_of_names (fun hmem ↦ hup (hparts ▸ List.mem_append_left _ hmem))
      (fun t ht ↦ hfits t (List.mem_append_left _ ht)) hdirectory
  obtain ⟨links, hrest⟩ := hfront.1.exists_resolveSteps_append
  have hlast : Resolves fs.root true links (Path.namesIn front) [.enter s]
      (.found (Path.namesIn front ++ [s])) :=
    .enter hdirectory (hfits s (by simp)) hentry hlink .done
  refine locate_eq_ok_iff.mpr ⟨husable, ?_⟩
  rw [Path.steps, hparts, List.map_append, List.map_singleton, hs, start, habsolute,
    ← resolveSteps_eq_ok_iff, hrest true _ (List.cons_ne_nil _ _)]
  exact resolveSteps_eq_ok_iff.mpr hlast

end Canonical

/-- The path through the names of a directory denotes it. -/
theorem canonical_ofNames (hnames : ∀ s ∈ names, IsEntryName s)
    (hfits : ∀ s ∈ names, s.utf8ByteSize ≤ maxNameBytes)
    (hdirectory : fs.root.entryAt names = some .emptyDirectory) :
    fs.canonical (.ofNames names) = .ok names := by
  have hpath : (Path.ofNames names).names = names := Path.namesIn_parts_ofNames hnames
  have husable : (Path.ofNames names).Usable := by
    refine Path.usable_iff.mpr ⟨fun s hs ↦ ?_, .inl (Path.isAbsolute_ofNames names)⟩
    rw [Path.parts_ofNames hnames] at hs
    split_ifs at hs
    · rw [List.mem_singleton.mp hs]
      decide
    · exact (hnames s hs).nul
  have hcanonical := canonical_of_directory husable (Path.isAbsolute_ofNames names)
    (Path.notMem_parts_ofNames hnames) (by rwa [hpath]) (by rwa [hpath])
  rwa [hpath] at hcanonical

/-! ## What a walk sees

By induction on the tree. A walk looks at the file system again only where it meets a link, and at
a path only to look up a link below it. -/

theorem seeEntries_eq_map (fs : FileSystem) (path : Path) (es : List (String × Node)) :
    seeEntries fs path es = es.map fun e ↦ (e.1, seeEntry fs path e.1 e.2) := by
  induction es with
  | nil => rw [seeEntries, List.map_nil]
  | cons e es ih => rw [seeEntries, ih, List.map_cons]

/-- Of a tree without links a walk sees the same wherever it stands. -/
theorem seeEntry_congr {n : Node} (hwell : n.WellFormed) (hlinks : n.LinkFree) (path path' : Path)
    (name : String) : seeEntry fs path name n = seeEntry fs' path' name n := by
  induction n using Node.induction generalizing path path' name with
  | file content => rw [seeEntry, seeEntry]
  | link target => exact absurd rfl (hlinks [] target)
  | device => rw [seeEntry, seeEntry]
  | directory es ih =>
    have hentries :
        seeEntries fs (path.join ⟨name⟩) es = seeEntries fs' (path'.join ⟨name⟩) es := by
      rw [seeEntries_eq_map, seeEntries_eq_map]
      refine List.map_congr_left fun e he ↦ ?_
      rw [ih e he (hwell.of_mem he) (hlinks.of_find? (hwell.find?_of_mem he))]
    rw [seeEntry, seeEntry, hentries]

end FileSystem

end JavaConstants
