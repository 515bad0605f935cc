import Mathlib.Data.List.Induction
import Mathlib.Tactic.SplitIfs
import JavaConstants.FileSystem.Basic
import JavaConstants.Proofs.Lists

/-!
# Spelled paths

A path and its parts determine each other (`ofParts_parts`, `parts_ofParts`), so what is said of
parts is said of spellings. The components of a path through names are those of the names in turn.
The paths above a path are spelled by the first of its parts, one for each component: a *ladder*,
with one rung more for every part that is a component (`ladder_concat`).
-/

namespace JavaConstants

/-- A spelling that the system accepts: it is not empty and holds no NUL. -/
def Path.Usable (p : Path) : Prop := '\x00' ∉ p.text.toList ∧ p.text ≠ ""

theorem append_cons_eq_append_cons {α : Type} {l m l' m' : List α} {a b : α}
    (h : l ++ a :: m = l' ++ b :: m') : (l' = l ∧ b = a ∧ m' = m) ∨
      (∃ between, l' = l ++ a :: between ∧ m = between ++ b :: m') ∨
      ∃ between, l = l' ++ b :: between ∧ m' = between ++ a :: m := by
  rcases List.append_eq_append_iff.mp h with ⟨c, hl, hm⟩ | ⟨c, hl, hm⟩
  · cases c with
    | nil =>
      obtain ⟨rfl, rfl⟩ := List.cons.inj hm
      exact .inl ⟨by simpa using hl, rfl, rfl⟩
    | cons x c =>
      obtain ⟨rfl, rfl⟩ := List.cons.inj hm
      exact .inr (.inl ⟨c, hl, rfl⟩)
  · cases c with
    | nil =>
      obtain ⟨rfl, rfl⟩ := List.cons.inj hm
      exact .inl ⟨by simpa using hl.symm, rfl, rfl⟩
    | cons x c =>
      obtain ⟨rfl, rfl⟩ := List.cons.inj hm
      exact .inr (.inr ⟨c, hl, rfl⟩)

namespace PathStep

theorem ofPart_eq_enter_iff {s name : String} :
    ofPart s = .enter name ↔ s = name ∧ s ≠ "" ∧ s ≠ "." ∧ s ≠ ".." := by
  unfold ofPart
  split_ifs with hstay hup
  · exact ⟨nofun, fun h ↦ by tauto⟩
  · exact ⟨nofun, fun h ↦ by tauto⟩
  · rw [enter.injEq]
    tauto

theorem ofPart_eq_stay_iff {s : String} : ofPart s = .stay ↔ s = "" ∨ s = "." := by
  unfold ofPart
  split_ifs with hstay hup
  · exact ⟨fun _ ↦ hstay, fun _ ↦ rfl⟩
  · exact ⟨nofun, fun h ↦ absurd h hstay⟩
  · exact ⟨nofun, fun h ↦ absurd h hstay⟩

theorem ofPart_eq_up_iff {s : String} : ofPart s = .up ↔ s = ".." := by
  unfold ofPart
  split_ifs with hstay hup
  · refine ⟨nofun, ?_⟩
    rintro rfl
    exact absurd hstay (by decide)
  · exact ⟨fun _ ↦ hup, fun _ ↦ rfl⟩
  · exact ⟨nofun, fun h ↦ absurd h hup⟩

end PathStep

namespace Path

/-- The names among some parts. -/
def namesIn (parts : List String) : List String :=
  parts.filter fun s ↦ PathStep.ofPart s = .enter s

theorem namesIn_append (parts more : List String) :
    namesIn (parts ++ more) = namesIn parts ++ namesIn more := List.filter_append ..

theorem namesIn_cons_of_enter {s : String} (hs : PathStep.ofPart s = .enter s)
    (parts : List String) : namesIn (s :: parts) = s :: namesIn parts :=
  List.filter_cons_of_pos (decide_eq_true hs)

theorem namesIn_cons_of_stay {s : String} (hs : PathStep.ofPart s = .stay)
    (parts : List String) : namesIn (s :: parts) = namesIn parts :=
  List.filter_cons_of_neg (by rw [hs]; exact nofun)

theorem namesIn_eq_nil {parts : List String} (h : ∀ s ∈ parts, PathStep.ofPart s = .stay) :
    namesIn parts = [] := by
  rw [namesIn, List.filter_eq_nil_iff]
  intro s hs
  rw [h s hs]
  exact nofun

/-! ## Parts and spelling -/

/-- Parts as paths have them: no slash in any, and an empty one at the start only of an absolute
path or of the empty path. -/
structure Spellable (absolute : Bool) (parts : List String) : Prop where
  /-- No part holds a slash. -/
  slash : ∀ s ∈ parts, '/' ∉ s.toList
  /-- The first part is not empty. -/
  head : absolute = false → parts.head? = some "" → parts = [""]

theorem Spellable.of_isPrefix {absolute : Bool} {front parts : List String}
    (h : Spellable absolute parts) (hunder : front <+: parts) : Spellable absolute front := by
  obtain ⟨rest, rfl⟩ := hunder
  refine ⟨fun s hs ↦ h.slash s (List.mem_append_left _ hs), fun hrelative hhead ↦ ?_⟩
  have hwhole := h.head hrelative (by rw [List.head?_append, hhead]; rfl)
  cases front with
  | nil => cases hhead
  | cons s ss =>
    obtain ⟨rfl, hnil⟩ := List.cons.inj hwhole
    rw [(List.append_eq_nil_iff.mp hnil).1]

theorem toList_ofParts (absolute : Bool) (parts : List String) :
    (ofParts absolute parts).text.toList =
      (if absolute then ['/'] else []) ++ ['/'].intercalate (parts.map String.toList) := by
  rw [ofParts, String.toList_append, String.toList_intercalate]
  cases absolute <;> rfl

theorem ofParts_parts (p : Path) : ofParts p.isAbsolute p.parts = p := by
  have htexts (cs : List Char) : ((cs.splitOn '/').map String.ofList).map String.toList =
      cs.splitOn '/' := by
    rw [List.map_map]
    exact List.map_id'' (fun _ ↦ String.toList_ofList) _
  have htext : (ofParts p.isAbsolute p.parts).text.toList = p.text.toList := by
    rw [toList_ofParts, parts, htexts, List.intercalate_splitOn]
    cases habsolute : p.isAbsolute with
    | false => rfl
    | true =>
      rw [isAbsolute, beq_iff_eq] at habsolute
      obtain ⟨rest, hrest⟩ := List.head?_eq_some_iff.mp habsolute
      rw [hrest]
      rfl
  have hsame := String.toList_inj.mp htext
  exact congrArg Path.mk hsame

theorem isAbsolute_ofParts {absolute : Bool} {parts : List String}
    (h : Spellable absolute parts) : (ofParts absolute parts).isAbsolute = absolute := by
  rw [isAbsolute, toList_ofParts]
  cases absolute with
  | true => rfl
  | false =>
    have hnotSlash : (['/'].intercalate (parts.map String.toList)).head? ≠ some '/' := by
      cases parts with
      | nil => exact nofun
      | cons s ss =>
        have hs := h.slash s List.mem_cons_self
        rw [List.map_cons]
        cases htext : s.toList with
        | nil =>
          have hempty : s = "" := String.toList_eq_nil_iff.mp htext
          obtain ⟨_, rfl⟩ := List.cons.inj (h.head rfl (congrArg some hempty))
          rw [List.map_nil, List.intercalate_singleton]
          exact nofun
        | cons c cs =>
          have hc : c ≠ '/' := by
            rintro rfl
            exact hs (htext ▸ List.mem_cons_self)
          rw [List.intercalate_cons_cons_left]
          exact fun hhead ↦ hc (Option.some.inj hhead)
    simpa using hnotSlash

theorem parts_ofParts {absolute : Bool} {parts : List String} (h : Spellable absolute parts)
    (hne : parts ≠ []) : (ofParts absolute parts).parts = parts := by
  have hdrop : (if (ofParts absolute parts).isAbsolute then
      (ofParts absolute parts).text.toList.drop 1 else (ofParts absolute parts).text.toList) =
      ['/'].intercalate (parts.map String.toList) := by
    rw [isAbsolute_ofParts h, toList_ofParts]
    cases absolute <;> rfl
  have hslash : ∀ l ∈ parts.map String.toList, '/' ∉ l := by
    intro l hl
    obtain ⟨s, hs, rfl⟩ := List.mem_map.mp hl
    exact h.slash s hs
  rw [Path.parts, hdrop, List.splitOn_intercalate '/' hslash (by simpa using hne), List.map_map]
  exact List.map_id'' (fun _ ↦ String.ofList_toList) _

theorem notMem_of_mem_splitOn {cs chunk : List Char} (h : chunk ∈ cs.splitOn '/') :
    '/' ∉ chunk := by
  induction cs generalizing chunk with
  | nil =>
    rw [List.splitOn_nil, List.mem_singleton] at h
    rw [h]
    exact List.not_mem_nil
  | cons c cs ih =>
    rw [List.splitOn_cons_eq_if_modifyHead] at h
    split_ifs at h with hc
    · rcases List.mem_cons.mp h with rfl | h
      · exact List.not_mem_nil
      · exact ih h
    · obtain ⟨first, rest, hsplit⟩ := List.exists_cons_of_ne_nil (List.splitOn_ne_nil '/' cs)
      rw [hsplit, List.modifyHead_cons] at h
      rcases List.mem_cons.mp h with rfl | h
      · rw [List.mem_cons, not_or]
        refine ⟨fun hslash ↦ hc (beq_iff_eq.mpr hslash.symm), ih ?_⟩
        rw [hsplit]
        exact List.mem_cons_self
      · refine ih ?_
        rw [hsplit]
        exact List.mem_cons_of_mem _ h

theorem spellable_parts (p : Path) : Spellable p.isAbsolute p.parts := by
  refine ⟨fun s hs ↦ ?_, fun hrelative hhead ↦ ?_⟩
  · obtain ⟨chunk, hchunk, rfl⟩ := List.mem_map.mp hs
    rw [String.toList_ofList]
    exact notMem_of_mem_splitOn hchunk
  · rw [parts, hrelative] at hhead ⊢
    rw [isAbsolute, beq_eq_false_iff_ne] at hrelative
    cases htext : p.text.toList with
    | nil => rfl
    | cons c cs =>
      rw [htext] at hhead hrelative
      have hc : ¬ (c == '/') = true := fun h ↦ hrelative (congrArg some (beq_iff_eq.mp h))
      simp only [Bool.false_eq_true, if_false] at hhead
      obtain ⟨first, rest, hsplit⟩ := List.exists_cons_of_ne_nil (List.splitOn_ne_nil '/' cs)
      rw [List.splitOn_cons_eq_if_modifyHead, if_neg hc, hsplit] at hhead
      have hempty : String.ofList (c :: first) = "" := Option.some.inj hhead
      exact absurd (String.ofList_eq_empty_iff.mp hempty) (List.cons_ne_nil _ _)

theorem parts_ne_nil (p : Path) : p.parts ≠ [] := by
  rw [parts, ne_eq, List.map_eq_nil_iff]
  exact List.splitOn_ne_nil _ _

theorem steps_ne_nil (p : Path) : p.steps ≠ [] := by
  rw [steps, ne_eq, List.map_eq_nil_iff]
  exact p.parts_ne_nil

/-- A path is accepted if it is not empty and no part holds a NUL. -/
theorem usable_iff {p : Path} : p.Usable ↔
    (∀ s ∈ p.parts, '\x00' ∉ s.toList) ∧ (p.isAbsolute = true ∨ p.parts ≠ [""]) := by
  have hnul : '\x00' ∈ p.text.toList ↔ ∃ s ∈ p.parts, '\x00' ∈ s.toList := by
    rw [← ofParts_parts p, toList_ofParts, ofParts_parts, List.mem_append,
      mem_intercalate_iff (by decide)]
    cases p.isAbsolute <;> simp
  have hempty : p.text = "" ↔ p.isAbsolute = false ∧ p.parts = [""] := by
    constructor
    · intro htext
      rw [isAbsolute, parts, isAbsolute, htext]
      exact ⟨rfl, rfl⟩
    · rintro ⟨hrelative, hparts⟩
      rw [← ofParts_parts p, hrelative, hparts]
      rfl
  rw [Usable, hnul, ne_eq, hempty, not_and_or, Bool.not_eq_false]
  push Not
  exact Iff.rfl

theorem head?_parts_ne {p : Path} (hp : p.text ≠ "") (hrelative : p.isAbsolute = false) :
    p.parts.head? ≠ some "" := by
  intro hhead
  rw [← ofParts_parts p, hrelative, (spellable_parts p).head hrelative hhead] at hp
  exact hp rfl

theorem text_ne_empty_of_mem {p : Path} {s : String} (hs : s ≠ "") (hmem : s ∈ p.parts) :
    p.text ≠ "" := by
  intro htext
  rw [parts, isAbsolute, htext] at hmem
  exact hs (List.mem_singleton.mp hmem)

theorem text_ne_empty_of_isAbsolute {p : Path} (h : p.isAbsolute = true) : p.text ≠ "" := by
  intro htext
  rw [isAbsolute, htext] at h
  cases h

theorem Usable.of_isPrefix {p : Path} (h : p.Usable) {front : List String}
    (hunder : front <+: p.parts) (hne : front ≠ []) :
    (ofParts p.isAbsolute front).Usable := by
  have hspell := (spellable_parts p).of_isPrefix hunder
  obtain ⟨hnul, hempty⟩ := usable_iff.mp h
  rw [usable_iff, parts_ofParts hspell hne, isAbsolute_ofParts hspell]
  refine ⟨fun s hs ↦ hnul s (hunder.subset hs), ?_⟩
  cases habsolute : p.isAbsolute with
  | true => exact .inl rfl
  | false =>
    right
    rintro rfl
    rw [habsolute] at hempty
    obtain ⟨rest, hrest⟩ := hunder
    have hparts := (spellable_parts p).head habsolute (by rw [← hrest]; rfl)
    exact hempty.resolve_left nofun hparts

/-- The path that the first parts of a path spell. -/
theorem rung_spec {p : Path} (h : p.Usable) {front : List String} (hunder : front <+: p.parts)
    (hne : front ≠ []) : (ofParts p.isAbsolute front).isAbsolute = p.isAbsolute ∧
      (ofParts p.isAbsolute front).parts = front ∧ (ofParts p.isAbsolute front).Usable :=
  have hspell := (spellable_parts p).of_isPrefix hunder
  ⟨isAbsolute_ofParts hspell, parts_ofParts hspell hne, h.of_isPrefix hunder hne⟩

/-! ## Joined paths -/

theorem exists_toList_text (p : Path) {front : List String} {last : String}
    (hparts : p.parts = front ++ [last]) : ∃ init, p.text.toList = init ++ last.toList ∧
      (init = [] ∨ init.getLast? = some '/') ∧ ∀ more : List String, more ≠ [] →
        (ofParts p.isAbsolute (front ++ more)).text.toList =
          init ++ ['/'].intercalate (more.map String.toList) := by
  have htext : p.text.toList = (ofParts p.isAbsolute (front ++ [last])).text.toList := by
    rw [← hparts, ofParts_parts]
  rcases eq_or_ne front [] with rfl | hfront
  · refine ⟨if p.isAbsolute then ['/'] else [], ?_, ?_, fun more hmore ↦ ?_⟩
    · rw [htext, toList_ofParts]
      simp
    · cases p.isAbsolute <;> simp
    · rw [toList_ofParts, List.nil_append]
  · have hmap : front.map String.toList ≠ [] := by simpa using hfront
    have hmore (more : List String) (hne : more ≠ []) :
        (ofParts p.isAbsolute (front ++ more)).text.toList =
          ((if p.isAbsolute then ['/'] else []) ++ ['/'].intercalate (front.map String.toList) ++
            ['/']) ++ ['/'].intercalate (more.map String.toList) := by
      rw [toList_ofParts, List.map_append, intercalate_append hmap (by simpa using hne)]
      simp
    refine ⟨_, ?_, .inr (List.getLast?_concat ..), hmore⟩
    rw [htext, hmore _ (List.cons_ne_nil _ _)]
    simp

/-- The parts of a base as a joined path has them: without one empty part at the end. -/
def baseParts (p : Path) : List String :=
  if p.parts.getLast? = some "" then p.parts.dropLast else p.parts

theorem getLast?_text {p : Path} {front : List String} {last : String}
    (hparts : p.parts = front ++ [last]) :
    (p.text = "" ∨ p.text.toList.getLast? = some '/') ↔ last = "" := by
  obtain ⟨init, htext, hinit, _⟩ := p.exists_toList_text hparts
  rw [← String.toList_eq_nil_iff, htext]
  constructor
  · intro h
    by_contra hlast
    have hne : last.toList ≠ [] := fun hnil ↦ hlast (String.toList_eq_nil_iff.mp hnil)
    rcases h with h | h
    · exact hne (List.append_eq_nil_iff.mp h).2
    · refine (spellable_parts p).slash last (by rw [hparts]; simp) (List.mem_of_getLast? ?_)
      rwa [List.getLast?_append, List.getLast?_eq_some_getLast hne, Option.some_or,
        ← List.getLast?_eq_some_getLast] at h
  · rintro rfl
    rcases hinit with rfl | hinit
    · exact .inl rfl
    · exact .inr (by simpa using hinit)

theorem parts_eq_baseParts (p : Path) : p.parts = p.baseParts ∨ p.parts = p.baseParts ++ [""] := by
  rw [baseParts]
  split_ifs with hlast
  · obtain ⟨front, hparts⟩ := List.getLast?_eq_some_iff.mp hlast
    right
    rw [hparts, List.dropLast_concat]
  · exact .inl rfl

theorem baseParts_isPrefix (p : Path) : p.baseParts <+: p.parts := by
  rcases p.parts_eq_baseParts with h | h
  · exact h ▸ List.prefix_rfl
  · exact h ▸ List.prefix_append _ _

theorem spellable_baseParts_append (p : Path) {more : List String} (hspell : Spellable false more)
    (hhead : more.head? ≠ some "") : Spellable p.isAbsolute (p.baseParts ++ more) := by
  refine ⟨fun s hs ↦ ?_, fun hrelative h ↦ ?_⟩
  · rcases List.mem_append.mp hs with hs | hs
    · exact (spellable_parts p).slash s (p.baseParts_isPrefix.subset hs)
    · exact hspell.slash s hs
  · rw [List.head?_append, Option.or_eq_some_iff] at h
    rcases h with hfirst | ⟨_, hfirst⟩
    · -- An empty part in front is that of the empty path, which has no base.
      obtain ⟨rest, hrest⟩ := p.baseParts_isPrefix
      have hempty : p.parts.head? = some "" := by
        rw [← hrest, List.head?_append, hfirst]
        rfl
      have hparts := (spellable_parts p).head hrelative hempty
      have hbase : p.baseParts = [] := by
        rw [baseParts, hparts]
        rfl
      rw [hbase] at hfirst
      cases hfirst
    · exact absurd hfirst hhead

theorem join_ofParts (p : Path) {more : List String} (hspell : Spellable false more)
    (hmore : more ≠ []) :
    p.join (ofParts false more) = ofParts p.isAbsolute (p.baseParts ++ more) := by
  obtain ⟨front, last, hparts⟩ := (List.eq_nil_or_concat' p.parts).resolve_left p.parts_ne_nil
  obtain ⟨init, htext, _, hofParts⟩ := p.exists_toList_text hparts
  have hmoreText : (ofParts false more).text.toList = ['/'].intercalate (more.map String.toList) :=
    toList_ofParts false more
  have hsame {q r : Path} (h : q.text.toList = r.text.toList) : q = r := by
    cases q
    cases r
    exact congrArg Path.mk (String.toList_inj.mp h)
  rw [join, if_neg (by rw [isAbsolute_ofParts hspell]; exact nofun)]
  refine hsame ?_
  by_cases hlast : last = ""
  · have hbase : p.baseParts = front := by
      rw [baseParts, hparts, List.getLast?_concat, hlast, if_pos rfl, List.dropLast_concat]
    rw [if_pos ((getLast?_text hparts).mpr hlast), String.toList_append, hmoreText, hbase,
      hofParts more hmore, htext, hlast]
    simp
  · have hbase : p.baseParts = front ++ [last] := by
      rw [baseParts, hparts, List.getLast?_concat, if_neg (by simpa using hlast)]
    have hslash : "/".toList = ['/'] := rfl
    rw [if_neg fun h ↦ hlast ((getLast?_text hparts).mp h), String.toList_append,
      String.toList_append, hmoreText, hbase, List.append_assoc front, hofParts _ (by simp), htext,
      List.map_append, intercalate_append (by simp) (by simpa using hmore), hslash]
    simp

/-! ## Components -/

theorem markedParts_of_isAbsolute {p : Path} (h : p.isAbsolute = true) :
    p.markedParts = p.parts.map fun s ↦ (s, partComponent? s) := by
  rw [markedParts]
  split
  · next rest hparts =>
    rw [hparts, if_pos h]
    rfl
  · rfl

theorem components_of_isAbsolute {p : Path} (h : p.isAbsolute = true) :
    p.components = .root :: p.parts.filterMap partComponent? := by
  rw [components, if_pos h, markedParts_of_isAbsolute h, List.filterMap_map]
  rfl

theorem splitOn_intercalate {names : List String} (hnames : names ≠ []) :
    (['/'].intercalate (names.map String.toList)).splitOn '/' =
      names.flatMap fun s ↦ s.toList.splitOn '/' := by
  induction names with
  | nil => exact absurd rfl hnames
  | cons s names ih =>
    rcases eq_or_ne names [] with rfl | hne
    · simp
    · rw [List.map_cons, List.intercalate_cons_of_ne_nil (by simpa using hne), List.append_assoc,
        List.singleton_append, List.splitOn_append_cons_self, ih hne, List.flatMap_cons]

theorem isAbsolute_ofNames (names : List String) : (ofNames names).isAbsolute = true := by
  rw [isAbsolute, ofNames, toList_ofParts]
  rfl

theorem components_ofNames (names : List String) : (ofNames names).components =
    .root :: names.flatMap fun s ↦
      ((s.toList.splitOn '/').map String.ofList).filterMap partComponent? := by
  have habsolute := isAbsolute_ofNames names
  rw [components_of_isAbsolute habsolute, parts, if_pos habsolute, ofNames, toList_ofParts,
    if_pos rfl, List.singleton_append, List.drop_one, List.tail_cons]
  rcases eq_or_ne names [] with rfl | hne
  · rfl
  · rw [splitOn_intercalate hne, List.map_flatMap, List.filterMap_flatMap]

theorem startsWith_ofNames {names front : List String} (h : front <+: names) :
    (ofNames names).startsWith (ofNames front) = true := by
  obtain ⟨rest, rfl⟩ := h
  rw [startsWith, List.isPrefixOf_iff_prefix, components_ofNames, components_ofNames,
    List.flatMap_append]
  exact List.prefix_append _ _

/-! ## Ladders

A ladder has a rung for each part that stands for a component. Which parts do depends on what
stands in front: a leading `.` of a relative path does, any other one does not. -/

/-- The component that a part stands for behind some parts, if any. -/
def mark? (absolute : Bool) (front : List String) (s : String) : Option Component :=
  if front = [] ∧ s = "." ∧ absolute = false then some .here else partComponent? s

/-- Parts with the components they stand for. -/
def marked (absolute : Bool) (parts : List String) : List (String × Option Component) :=
  match parts with
  | "." :: rest =>
    (".", if absolute then none else some .here) :: rest.map fun s ↦ (s, partComponent? s)
  | parts => parts.map fun s ↦ (s, partComponent? s)

/-- The paths that end in each component of some parts and, last, the one before the first. -/
def ladder (absolute : Bool) (parts : List String) : List Path :=
  ancestorsFrom absolute (marked absolute parts).reverse

theorem ancestors_eq (p : Path) : p.ancestors = p :: (ladder p.isAbsolute p.parts).drop 1 := rfl

theorem marked_concat (absolute : Bool) (front : List String) (s : String) :
    marked absolute (front ++ [s]) = marked absolute front ++ [(s, mark? absolute front s)] := by
  cases front with
  | nil =>
    by_cases hs : s = "."
    · rw [hs]
      cases absolute <;> rfl
    · have hmark : mark? absolute [] s = partComponent? s := if_neg fun h ↦ hs h.2.1
      rw [hmark]
      simp [marked, hs]
  | cons t front =>
    have hmark : mark? absolute (t :: front) s = partComponent? s :=
      if_neg fun h ↦ List.cons_ne_nil _ _ h.1
    rw [hmark]
    by_cases ht : t = "."
    · simp [marked, ht]
    · simp [marked, ht]

theorem map_fst_marked (absolute : Bool) (parts : List String) :
    (marked absolute parts).map (·.1) = parts := by
  induction parts using List.reverseRecOn with
  | nil => rfl
  | append_singleton front s ih => rw [marked_concat, List.map_append, ih]; rfl

/-- A part more is a rung more, or none if it stands for no component. -/
theorem ladder_concat (absolute : Bool) (front : List String) (s : String) :
    ladder absolute (front ++ [s]) =
      if (mark? absolute front s).isSome then
        ofParts absolute (front ++ [s]) :: ladder absolute front
      else ladder absolute front := by
  have hnames : ((marked absolute front).reverse.map (·.1)).reverse = front := by
    rw [List.map_reverse, List.reverse_reverse, map_fst_marked]
  rw [ladder, marked_concat, List.reverse_append, List.reverse_singleton, List.singleton_append]
  cases mark? absolute front s with
  | none => rfl
  | some c =>
    rw [ancestorsFrom, List.reverse_cons, hnames]
    rfl

/-- Parts that stand for no component are parts that stay. -/
theorem mark?_eq_none_iff {absolute : Bool} {front : List String} {s : String} :
    mark? absolute front s = none ↔
      PathStep.ofPart s = .stay ∧ ¬ (front = [] ∧ s = "." ∧ absolute = false) := by
  unfold mark?
  split_ifs with hhere
  · exact ⟨nofun, fun h ↦ absurd hhere h.2⟩
  · rw [PathStep.ofPart_eq_stay_iff, partComponent?]
    split_ifs with hstay hup
    · exact ⟨fun _ ↦ ⟨hstay, hhere⟩, fun _ ↦ rfl⟩
    · exact ⟨nofun, fun h ↦ absurd h.1 hstay⟩
    · exact ⟨nofun, fun h ↦ absurd h.1 hstay⟩

theorem mark?_eq_name {absolute : Bool} {front : List String} {s : String}
    (h : PathStep.ofPart s = .enter s) : mark? absolute front s = some (.name s) := by
  obtain ⟨_, hempty, hhere, hup⟩ := PathStep.ofPart_eq_enter_iff.mp h
  rw [mark?, if_neg fun hfirst ↦ hhere hfirst.2.1, partComponent?,
    if_neg fun hstay ↦ hstay.elim hempty hhere, if_neg hup]

theorem mark_of_enter {absolute : Bool} {front : List String} {s : String}
    (h : PathStep.ofPart s = .enter s) : (mark? absolute front s).isSome := by
  rw [mark?_eq_name h]
  rfl

theorem ne_empty_of_mark {absolute : Bool} {front : List String} {s : String}
    (h : (mark? absolute front s).isSome) : s ≠ "" := by
  rintro rfl
  have hmark : mark? absolute front "" = none :=
    mark?_eq_none_iff.mpr ⟨rfl, fun hhere ↦ absurd hhere.2.1 (by decide)⟩
  rw [hmark] at h
  cases h

/-- On an absolute path or behind other parts, what stands for a component is a name or a `..`. -/
theorem step_of_mark {absolute : Bool} {front : List String} {s : String}
    (h : (mark? absolute front s).isSome) (hfront : absolute = true ∨ front ≠ []) :
    PathStep.ofPart s = .enter s ∨ s = ".." := by
  cases hs : PathStep.ofPart s with
  | stay =>
    have hnot : ¬ (front = [] ∧ s = "." ∧ absolute = false) := fun ⟨hnil, _, hrelative⟩ ↦
      hfront.elim (fun habsolute ↦ Bool.false_ne_true (hrelative.symm.trans habsolute))
        fun hne ↦ hne hnil
    rw [mark?_eq_none_iff.mpr ⟨hs, hnot⟩] at h
    cases h
  | up => exact .inr (PathStep.ofPart_eq_up_iff.mp hs)
  | enter name =>
    obtain ⟨rfl, _⟩ := PathStep.ofPart_eq_enter_iff.mp hs
    exact .inl rfl

theorem components_ne_nil_of_mark {p : Path} {front trail : List String} {s : String}
    (hparts : p.parts = front ++ s :: trail) (h : (mark? p.isAbsolute front s).isSome) :
    p.components ≠ [] := by
  obtain ⟨c, hc⟩ := Option.isSome_iff_exists.mp h
  have hmem : (s, some c) ∈ marked p.isAbsolute (front ++ s :: trail) := by
    rw [List.append_cons]
    clear hparts
    induction trail using List.reverseRecOn with
    | nil =>
      rw [List.append_nil, marked_concat, hc]
      exact List.mem_append_right _ List.mem_cons_self
    | append_singleton trail t ih =>
      rw [← List.append_assoc, marked_concat]
      exact List.mem_append_left _ ih
  rw [← hparts] at hmem
  have hcomponent : c ∈ p.components :=
    List.mem_append_right _ (List.mem_filterMap.mpr ⟨_, hmem, rfl⟩)
  exact List.ne_nil_of_mem hcomponent

theorem exists_components {p : Path} {front trail : List String} {s : String} {c : Component}
    (hparts : p.parts = front ++ s :: trail) (hs : mark? p.isAbsolute front s = some c)
    (htrail : ∀ t ∈ trail, PathStep.ofPart t = .stay) :
    ∃ before, p.components = before ++ [c] := by
  have hmarked : (marked p.isAbsolute (front ++ s :: trail)).filterMap (·.2) =
      (marked p.isAbsolute front).filterMap (·.2) ++ [c] := by
    rw [List.append_cons]
    clear hparts
    induction trail using List.reverseRecOn with
    | nil =>
      rw [List.append_nil, marked_concat, hs]
      simp
    | append_singleton trail t ih =>
      have ht : mark? p.isAbsolute (front ++ [s] ++ trail) t = none :=
        mark?_eq_none_iff.mpr ⟨htrail t (by simp), fun hfirst ↦ absurd hfirst.1 (by simp)⟩
      rw [← List.append_assoc, marked_concat, ht, List.filterMap_append,
        ih fun u hu ↦ htrail u (List.mem_append_left _ hu)]
      simp
  refine ⟨(if p.isAbsolute then [.root] else []) ++ (marked p.isAbsolute front).filterMap (·.2), ?_⟩
  rw [List.append_assoc, ← hmarked, ← hparts]
  rfl

theorem fileName?_of_enter {p : Path} {front trail : List String} {s : String}
    (hparts : p.parts = front ++ s :: trail) (hs : PathStep.ofPart s = .enter s)
    (htrail : ∀ t ∈ trail, PathStep.ofPart t = .stay) : p.fileName? = some s := by
  obtain ⟨before, hcomponents⟩ := exists_components hparts (mark?_eq_name hs) htrail
  rw [fileName?, hcomponents, List.getLast?_concat]

theorem ladder_ne_nil (absolute : Bool) (parts : List String) : ladder absolute parts ≠ [] := by
  induction parts using List.reverseRecOn with
  | nil => exact List.cons_ne_nil _ _
  | append_singleton front s ih =>
    rw [ladder_concat]
    split_ifs
    · exact List.cons_ne_nil _ _
    · exact ih

theorem components_ne_nil {p : Path} (hp : p.text ≠ "") : p.components ≠ [] := by
  cases habsolute : p.isAbsolute with
  | true =>
    rw [components_of_isAbsolute habsolute]
    exact List.cons_ne_nil _ _
  | false =>
    obtain ⟨s, rest, hparts⟩ := List.exists_cons_of_ne_nil p.parts_ne_nil
    have hsplit : p.parts = [] ++ s :: rest := hparts
    refine components_ne_nil_of_mark hsplit ?_
    by_contra hmark
    obtain ⟨hs, hhere⟩ := mark?_eq_none_iff.mp (Option.not_isSome_iff_eq_none.mp hmark)
    rcases PathStep.ofPart_eq_stay_iff.mp hs with rfl | rfl
    · exact head?_parts_ne hp habsolute (by rw [hparts]; rfl)
    · exact hhere ⟨rfl, rfl, habsolute⟩

theorem exists_rung (absolute : Bool) (parts : List String) :
    ((∀ front s trail, parts = front ++ s :: trail → mark? absolute front s = none) ∧
      ladder absolute parts = [ofParts absolute []]) ∨
    ∃ front s trail, parts = front ++ s :: trail ∧ (mark? absolute front s).isSome ∧
      (∀ t ∈ trail, PathStep.ofPart t = .stay) ∧
      ladder absolute parts = ofParts absolute (front ++ [s]) :: ladder absolute front := by
  induction parts using List.reverseRecOn with
  | nil => exact .inl ⟨fun front s trail h ↦ absurd h (by simp), rfl⟩
  | append_singleton parts s ih =>
    cases hmark : mark? absolute parts s with
    | some c =>
      refine .inr ⟨parts, s, [], rfl, by rw [hmark]; rfl, nofun, ?_⟩
      rw [ladder_concat, hmark, if_pos (Option.isSome_some)]
    | none =>
      obtain ⟨hstay, _⟩ := mark?_eq_none_iff.mp hmark
      have hladder : ladder absolute (parts ++ [s]) = ladder absolute parts := by
        rw [ladder_concat, hmark]
        rfl
      rw [hladder]
      rcases ih with ⟨hall, hbottom⟩ | ⟨front, t, trail, rfl, ht, htrail, hrungs⟩
      · refine .inl ⟨fun front t trail hparts ↦ ?_, hbottom⟩
        rcases List.eq_nil_or_concat trail with rfl | ⟨trail, u, rfl⟩
        · obtain ⟨rfl, hts⟩ := List.append_inj' hparts rfl
          rwa [← (List.cons.inj hts).1]
        · rw [List.concat_eq_append, ← List.cons_append, ← List.append_assoc] at hparts
          exact hall front t trail (List.append_inj' hparts rfl).1
      · refine .inr ⟨front, t, trail ++ [s], by simp, ht, fun u hu ↦ ?_, hrungs⟩
        rcases List.mem_append.mp hu with hu | hu
        · exact htrail u hu
        · rwa [List.mem_singleton.mp hu]

theorem stays_of_mark_eq_none {absolute : Bool} {parts : List String}
    (h : ∀ front s trail, parts = front ++ s :: trail → mark? absolute front s = none) :
    ∀ s ∈ parts, PathStep.ofPart s = .stay := by
  intro s hs
  obtain ⟨front, trail, hsplit⟩ := List.append_of_mem hs
  exact (mark?_eq_none_iff.mp (h front s trail hsplit)).1

end Path

end JavaConstants
