import JavaConstants.Proofs.Directories

/-!
# New directories below old ones

Creating a directory and those missing above it goes up the ladder of its path to the nearest
directory that exists and comes back down. Seen from the files, either nothing changes or one
directory gets a nest of new ones, one in the other (`createDirectories_outcome`); and where only
names are missing that may be created, the nest is complete (`createDirectories_of_missing`).

A `..` behind a missing name breaks this picture: on the way back down it leaves the nest again.
-/

namespace JavaConstants

open JavaConstants.Path

namespace FileSystem

variable {fs : FileSystem}

/-! ## Nests -/

/-- New directories in the directory at `D`, one in the other. -/
def nest (fs : FileSystem) (D : List String) : List String → FileSystem
  | [] => fs
  | name :: names => (fs.insert (D ++ [name]) .emptyDirectory).nest (D ++ [name]) names

theorem nest_concat (fs : FileSystem) (D names : List String) (name : String) :
    fs.nest D (names ++ [name]) =
      (fs.nest D names).insert (D ++ names ++ [name]) .emptyDirectory := by
  induction names generalizing fs D with
  | nil => rw [List.nil_append, List.append_nil]; rfl
  | cons first names ih =>
    rw [List.cons_append, nest, ih, List.append_assoc D, List.singleton_append]
    rfl

@[simp]
theorem current_insert (fs : FileSystem) (names : List String) (n : Node) :
    (fs.insert names n).current = fs.current := rfl

@[simp]
theorem current_nest (fs : FileSystem) (D names : List String) :
    (fs.nest D names).current = fs.current := by
  induction names generalizing fs D with
  | nil => rfl
  | cons name names ih => exact ih _ _

theorem concat_prefix_append_cons (D : List String) (name : String) (names : List String) :
    D ++ [name] <+: D ++ name :: names := ⟨names, (List.append_cons D name names).symm⟩

theorem eq_of_between {D q : List String} {name : String} {names : List String} (hD : D <+: q)
    (hq : q <+: D ++ name :: names) (hname : ¬ D ++ [name] <+: q) : q = D := by
  obtain ⟨below, rfl⟩ := hD
  rw [List.prefix_append_right_inj] at hq
  cases below with
  | nil => exact List.append_nil D
  | cons k below =>
    obtain ⟨rfl, _⟩ := List.cons_prefix_cons.mp hq
    exact absurd (concat_prefix_append_cons D _ below) hname

section Nest

variable {D names : List String}

/-- A nest under a free name adds its directories and changes nothing else. -/
theorem entryAt_nest (hdirectory : fs.root.entryAt D = some .emptyDirectory)
    (hfree : ∀ name ∈ names.head?, fs.root.entryAt (D ++ [name]) = none) (q : List String) :
    (fs.nest D names).root.entryAt q =
      if D <+: q ∧ q <+: D ++ names then some .emptyDirectory else fs.root.entryAt q := by
  induction names generalizing fs D with
  | nil =>
    rw [nest, List.append_nil]
    split_ifs with hq
    · rw [← hq.1.eq_of_length_le hq.2.length_le, hdirectory]
    · rfl
  | cons name names ih =>
    have hname : fs.root.entryAt (D ++ [name]) = none := hfree name rfl
    have hinsert (q : List String) : (fs.insert (D ++ [name]) .emptyDirectory).root.entryAt q =
        if q = D ++ [name] then some .emptyDirectory else fs.root.entryAt q :=
      Node.entryAt_insert_of_free rfl hdirectory hname q
    have hfree' : ∀ next ∈ names.head?,
        (fs.insert (D ++ [name]) .emptyDirectory).root.entryAt (D ++ [name] ++ [next]) = none := by
      intro next _
      rw [hinsert, if_neg (by simp),
        Node.entryAt_eq_none_of_isPrefix hname (List.prefix_append _ _)]
    rw [nest, ih ((hinsert _).trans (if_pos rfl)) hfree', hinsert, ← List.append_cons]
    by_cases hbelow : D ++ [name] <+: q
    · have hD : D <+: q := (List.prefix_append _ _).trans hbelow
      simp only [hbelow, hD, true_and]
      split_ifs with hq hsame
      · rfl
      · rw [hsame] at hq
        exact absurd (concat_prefix_append_cons D name names) hq
      · rfl
    · have hne : q ≠ D ++ [name] := by
        rintro rfl
        exact hbelow List.prefix_rfl
      rw [if_neg fun h ↦ hbelow h.1, if_neg hne]
      split_ifs with hq
      · rw [eq_of_between hq.1 hq.2 hbelow, hdirectory]
      · rfl

theorem sub_nest (hdirectory : fs.root.entryAt D = some .emptyDirectory)
    (hfree : ∀ name ∈ names.head?, fs.root.entryAt (D ++ [name]) = none) :
    fs.root.Sub (fs.nest D names).root := by
  intro q e hq
  rw [entryAt_nest hdirectory hfree]
  split_ifs with hbetween
  · obtain ⟨hD, hnames⟩ := hbetween
    cases names with
    | nil =>
      rw [List.append_nil] at hnames
      have hsame : q = D := (hD.eq_of_length_le hnames.length_le).symm
      rw [← hq, hsame, hdirectory]
    | cons name names =>
      by_cases hbelow : D ++ [name] <+: q
      · rw [Node.entryAt_eq_none_of_isPrefix (hfree name rfl) hbelow] at hq
        cases hq
      · rw [← hq, eq_of_between hD hnames hbelow, hdirectory]
  · exact hq

end Nest

/-! ## The first missing name -/

/-- Parts with a first missing name: those in front lead to the directory at `D`, where the name is
free. -/
structure Missing (fs : FileSystem) (absolute : Bool) (parts front : List String) (name : String)
    (post D : List String) : Prop where
  /-- The parts are those in front, the name and those behind. -/
  parts_eq : parts = front ++ name :: post
  /-- The parts in front lead to the directory. -/
  reaches : fs.Reaches absolute front D
  /-- The name is one. -/
  step : PathStep.ofPart name = .enter name
  /-- It is free. -/
  free : fs.root.entryAt (D ++ [name]) = none

/-- No part goes up behind a missing name. -/
def Straight (fs : FileSystem) (absolute : Bool) (parts : List String) : Prop :=
  ∀ front name post D, fs.Missing absolute parts front name post D → ".." ∉ post

section Missing

variable {absolute : Bool} {parts front : List String} {name : String} {post D names : List String}

theorem Missing.append (h : fs.Missing absolute parts front name post D) (more : List String) :
    fs.Missing absolute (parts ++ more) front name (post ++ more) D :=
  ⟨by rw [h.parts_eq, List.append_assoc, List.cons_append], h.reaches, h.step, h.free⟩

theorem straight_of_notMem (hup : ".." ∉ parts) : fs.Straight absolute parts :=
  fun _ _ _ _ h hmem ↦
    hup (h.parts_eq ▸ List.mem_append_right _ (List.mem_cons_of_mem _ hmem))

theorem Straight.of_append {more : List String} (h : fs.Straight absolute (parts ++ more)) :
    fs.Straight absolute parts := by
  intro front name post D hmissing hup
  exact h front name _ D (hmissing.append more) (List.mem_append_left _ hup)

theorem Missing.not_reaches (h : fs.Missing absolute parts front name post D) (D' : List String) :
    ¬ fs.Reaches absolute parts D' := by
  rw [h.parts_eq]
  intro hreaches
  obtain ⟨D₁, links, hfront, hback⟩ := hreaches.cut
  rw [h.reaches.unique hfront |>.symm, List.map_cons, h.step] at hback
  exact hback.entryAt_enter_ne_none h.free

namespace Missing

variable (h : fs.Missing absolute parts front name post D)
include h

theorem entryAt_nest (q : List String) : (fs.nest D (name :: names)).root.entryAt q =
    if D <+: q ∧ q <+: D ++ name :: names then some .emptyDirectory else fs.root.entryAt q := by
  refine FileSystem.entryAt_nest h.reaches.directory ?_ q
  rintro _ ⟨⟩
  exact h.free

theorem sub_nest (names : List String) : fs.root.Sub (fs.nest D (name :: names)).root := by
  refine FileSystem.sub_nest h.reaches.directory ?_
  rintro _ ⟨⟩
  exact h.free

theorem free_nest (names : List String) (s : String) :
    (fs.nest D (name :: names)).root.entryAt (D ++ name :: names ++ [s]) = none := by
  have hbelow : D ++ [name] <+: D ++ name :: names ++ [s] :=
    (concat_prefix_append_cons D name names).trans (List.prefix_append _ _)
  rw [h.entryAt_nest, if_neg fun hq ↦ not_concat_isPrefix_self _ _ hq.2,
    Node.entryAt_eq_none_of_isPrefix h.free hbelow]

theorem reaches_nest (hup : ".." ∉ post)
    (hfits : ∀ s ∈ name :: namesIn post, s.utf8ByteSize ≤ maxNameBytes) :
    (fs.nest D (name :: namesIn post)).Reaches absolute parts (D ++ name :: namesIn post) := by
  rw [h.parts_eq]
  have hold := h.reaches.mono (h.sub_nest (namesIn post)) (current_nest _ _ _)
  have hnew (q : List String) (hD : D <+: q) (hq : q <+: D ++ name :: namesIn post) :
      (fs.nest D (name :: namesIn post)).root.entryAt q = some .emptyDirectory := by
    rw [h.entryAt_nest, if_pos ⟨hD, hq⟩]
  refine hold.extend (fun links ↦ ?_) (hnew _ (List.prefix_append _ _) List.prefix_rfl)
  rw [← namesIn_cons_of_enter h.step] at hfits hnew ⊢
  refine resolves_down ?_ hfits hnew
  rw [List.mem_cons, not_or]
  refine ⟨fun hname ↦ ?_, hup⟩
  cases hname ▸ h.step

theorem unique {front' : List String} {name' : String} {post' D' : List String}
    (h' : fs.Missing absolute parts front' name' post' D') :
    front = front' ∧ name = name' ∧ post = post' ∧ D = D' := by
  rcases append_cons_eq_append_cons (h.parts_eq.symm.trans h'.parts_eq) with
    ⟨rfl, rfl, rfl⟩ | ⟨between, rfl, _⟩ | ⟨between, rfl, _⟩
  · exact ⟨rfl, rfl, rfl, h.reaches.unique h'.reaches⟩
  · have hfront : fs.Missing absolute (front ++ name :: between) front name between D :=
      ⟨rfl, h.reaches, h.step, h.free⟩
    exact absurd h'.reaches (hfront.not_reaches D')
  · have hfront : fs.Missing absolute (front' ++ name' :: between) front' name' between D' :=
      ⟨rfl, h'.reaches, h'.step, h'.free⟩
    exact absurd h.reaches (hfront.not_reaches D)

end Missing

end Missing

/-! ## One rung

Going down the ladder a directory is asked for at each rung, with a path that may end in parts
that stay. Only the last part that does not stay tells what is created, so the others are set
apart. -/

section Rung

variable {p : Path} {front trail : List String} {s : String}

theorem createDirectory_last {fs' : FileSystem} (h : fs.createDirectory p = .ok fs')
    (hparts : p.parts = front ++ s :: trail) (hs : s ≠ "")
    (htrail : ∀ t ∈ trail, PathStep.ofPart t = .stay) :
    p.Usable ∧ s.utf8ByteSize ≤ maxNameBytes ∧
      ∃ D, fs.Missing p.isAbsolute p.parts front s trail D ∧ fs' = fs.nest D [s] := by
  obtain ⟨D, name, hends, hfits, hfree, rfl⟩ := createDirectory_eq_ok_iff.mp h
  obtain ⟨husable, ⟨front', blank, hparts', hblank, hreaches⟩, hstep⟩ := hends
  -- Behind the name all parts are empty, so it is the last that is not; that is `s`.
  rcases append_cons_eq_append_cons (hparts'.symm.trans hparts) with
    ⟨rfl, rfl, rfl⟩ | ⟨between, _, rfl⟩ | ⟨between, _, rfl⟩
  · exact ⟨husable, hfits, D, ⟨hparts, hreaches, hstep, hfree⟩, rfl⟩
  · exact absurd (hblank s (by simp)) hs
  · cases hstep.symm.trans (htrail name (by simp))

theorem usable_of_createDirectory (h : fs.createDirectory p = .error .notFound) (hp : p.text ≠ "") :
    p.Usable := by
  refine ⟨fun hnul ↦ ?_, hp⟩
  have hparent : fs.parentPlace p = .error .nulCharacter := if_pos (List.contains_iff_mem.mpr hnul)
  simp only [createDirectory, hparent] at h
  cases h

end Rung

/-! ## Outcomes

The induction is on the ladder: the outcome for one rung gives that for the next one down. A nest
that was made above goes on or breaks off; where there is none, nothing was changed. -/

/-- What creating the directory that some parts lead to, and those above, may come to. -/
inductive Outcome (fs : FileSystem) (absolute : Bool) (parts : List String) : Edited → Prop where
  /-- Nothing is created. -/
  | refused (e : OsError) : Outcome fs absolute parts (.error e fs)
  /-- The directory exists, or there are no parts to a relative path. -/
  | kept (h : absolute = true ∨ parts ≠ [] → ∃ D, fs.Reaches absolute parts D) :
    Outcome fs absolute parts (.ok () fs)
  /-- A nest is created under the first missing name, all of it if nothing is refused. -/
  | nested {front : List String} {name : String} {post D made : List String} {r : Edited}
    (hmissing : fs.Missing absolute parts front name post D)
    (hnul : ∀ s ∈ parts, '\x00' ∉ s.toList)
    (hfits : ∀ s ∈ name :: made, s.utf8ByteSize ≤ maxNameBytes) (hmade : made <+: namesIn post)
    (hwhole : ∀ fs', r = .ok () fs' → made = namesIn post)
    (hleft : leftBy r = fs.nest D (name :: made)) : Outcome fs absolute parts r

namespace Outcome

variable {p : Path} {above : List Path} {front trail : List String} {s : String}

theorem stay {absolute : Bool} {parts : List String} {r : Edited}
    (h : Outcome fs absolute parts r) (hs : PathStep.ofPart s = .stay)
    (hparts : absolute = true ∨ parts ≠ []) : Outcome fs absolute (parts ++ [s]) r := by
  cases h with
  | refused e => exact .refused e
  | kept h =>
    refine .kept fun _ ↦ ?_
    obtain ⟨D, hD⟩ := h hparts
    refine ⟨D, hD.extend (fun links ↦ ?_) hD.directory⟩
    rw [List.map_singleton, hs]
    exact .stay hD.directory .done
  | nested hmissing hnul hfits hmade hwhole hleft =>
    have hnames : ∀ post, namesIn (post ++ [s]) = namesIn post := fun post ↦ by
      rw [namesIn_append, namesIn_cons_of_stay hs]
      exact List.append_nil _
    refine .nested (hmissing.append [s]) (fun t ht ↦ ?_) hfits ?_ ?_ hleft
    · rcases List.mem_append.mp ht with ht | ht
      · exact hnul t ht
      · rw [List.mem_singleton.mp ht]
        rcases PathStep.ofPart_eq_stay_iff.mp hs with rfl | rfl <;> decide
    · rwa [hnames]
    · rwa [hnames]

theorem of_broken {absolute : Bool} {parts front more : List String} {name : String}
    {post D made : List String} (hmissing : fs.Missing absolute parts front name post D)
    (hnul : ∀ t ∈ parts ++ more, '\x00' ∉ t.toList)
    (hfits : ∀ t ∈ name :: made, t.utf8ByteSize ≤ maxNameBytes) (hmade : made <+: namesIn post)
    (e : OsError) : Outcome fs absolute (parts ++ more) (.error e (fs.nest D (name :: made))) := by
  refine .nested (hmissing.append more) hnul hfits ?_ (by rintro _ ⟨⟩) rfl
  rw [namesIn_append]
  exact hmade.trans (List.prefix_append _ _)

section Behind

variable {absolute : Bool} {front' : List String} {name : String} {post D : List String}
  (hmissing : fs.Missing absolute front front' name post D) (hup : ".." ∉ post)
  (hfits : ∀ t ∈ name :: namesIn post, t.utf8ByteSize ≤ maxNameBytes)
include hmissing hup hfits

/-- A directory created behind a whole nest makes a larger one. -/
theorem of_behind {D' : List String} (hnul : ∀ t ∈ front ++ s :: trail, '\x00' ∉ t.toList)
    (hbehind : (fs.nest D (name :: namesIn post)).Missing absolute (front ++ s :: trail) front s
      trail D')
    (hs : s.utf8ByteSize ≤ maxNameBytes) (htrail : ∀ t ∈ trail, PathStep.ofPart t = .stay) :
    Outcome fs absolute (front ++ s :: trail)
      (.ok () ((fs.nest D (name :: namesIn post)).nest D' [s])) := by
  obtain rfl : D' = D ++ name :: namesIn post :=
    hbehind.reaches.unique (hmissing.reaches_nest hup hfits)
  have hnames : namesIn (post ++ s :: trail) = namesIn post ++ [s] := by
    rw [namesIn_append, namesIn_cons_of_enter hbehind.step, namesIn_eq_nil htrail]
  have hmade : namesIn post ++ [s] <+: namesIn (post ++ s :: trail) := hnames ▸ List.prefix_rfl
  refine .nested (hmissing.append _) hnul (fun t ht ↦ ?_) hmade (fun _ _ ↦ hnames.symm) ?_
  · rw [← List.cons_append] at ht
    rcases List.mem_append.mp ht with ht | ht
    · exact hfits t ht
    · rwa [List.mem_singleton.mp ht]
  · rw [← List.cons_append, nest_concat]
    rfl

theorem not_reaches_behind (hstep : PathStep.ofPart s = .enter s) (L : List String) :
    ¬ (fs.nest D (name :: namesIn post)).Reaches absolute (front ++ s :: trail) L := by
  have hbehind : (fs.nest D (name :: namesIn post)).Missing absolute (front ++ s :: trail) front s
      trail (D ++ name :: namesIn post) :=
    ⟨rfl, hmissing.reaches_nest hup hfits, hstep, hmissing.free_nest _ s⟩
  exact hbehind.not_reaches L

end Behind

/-- One rung more: the outcome for the parts before the last name, `..` or leading `.` gives that
for all of them. -/
theorem rung (habove : Outcome fs p.isAbsolute front (fs.createAncestors above))
    (hparts : p.parts = front ++ s :: trail) (hmark : (mark? p.isAbsolute front s).isSome)
    (htrail : ∀ t ∈ trail, PathStep.ofPart t = .stay)
    (hstraight : fs.Straight p.isAbsolute p.parts) :
    Outcome fs p.isAbsolute p.parts (fs.createAncestors (p :: above)) := by
  have hs : s ≠ "" := ne_empty_of_mark hmark
  have hkept (hdirectory : fs.isDirectory p = true) :
      Outcome fs p.isAbsolute p.parts (.ok () fs) :=
    .kept fun _ ↦ (isDirectory_iff_reaches.mp hdirectory).2
  rw [createAncestors, if_neg (components_ne_nil_of_mark hparts hmark)]
  split
  · next fs' hcreate =>
    obtain ⟨husable, hfits, D, hmissing, rfl⟩ := createDirectory_last hcreate hparts hs htrail
    refine .nested hmissing (usable_iff.mp husable).1 (fun t ht ↦ ?_) List.nil_prefix
      (fun _ _ ↦ (namesIn_eq_nil htrail).symm) rfl
    rwa [List.mem_singleton.mp ht]
  · next hcreate =>
    have htext : p.text ≠ "" :=
      text_ne_empty_of_mem hs (hparts ▸ List.mem_append_right _ List.mem_cons_self)
    have hnul : ∀ t ∈ front ++ s :: trail, '\x00' ∉ t.toList :=
      hparts ▸ (usable_iff.mp (usable_of_createDirectory hcreate htext)).1
    split
    · next e fs₁ hbelow =>
      rw [hbelow] at habove
      cases habove with
      | refused e => exact .refused e
      | nested hmissing _ hfits hmade _ hleft =>
        obtain rfl := hleft
        rw [hparts]
        exact of_broken hmissing hnul hfits hmade e
    · next fs₁ hbelow =>
      rw [hbelow] at habove
      cases habove with
      | kept _ =>
        rw [hcreate]
        dsimp only
        split_ifs with hdirectory
        · exact hkept hdirectory
        · exact .refused _
      | @nested front' name post D made _ hmissing _ hfits _ hwhole hleft =>
        obtain rfl := hwhole _ rfl
        obtain rfl : fs₁ = fs.nest D (name :: namesIn post) := hleft
        have hup : ".." ∉ post ++ s :: trail := by
          rw [hparts] at hstraight
          exact hstraight _ _ _ _ (hmissing.append _)
        have huppost : ".." ∉ post := fun h ↦ hup (List.mem_append_left _ h)
        split
        · next fs₂ hcreate₁ =>
          obtain ⟨_, hfits₁, D₁, hbehind, rfl⟩ := createDirectory_last hcreate₁ hparts hs htrail
          rw [hparts] at hbehind ⊢
          exact of_behind hmissing huppost hfits hnul hbehind hfits₁ htrail
        · next e hcreate₁ =>
          split_ifs with hdirectory
          · obtain ⟨_, L, hL⟩ := isDirectory_iff_reaches.mp hdirectory
            have hfront : front ≠ [] := by
              rw [hmissing.parts_eq]
              simp
            have hstep : PathStep.ofPart s = .enter s :=
              (step_of_mark hmark (.inr hfront)).resolve_right
                fun h ↦ hup (h ▸ List.mem_append_right _ List.mem_cons_self)
            rw [hparts] at hL
            exact absurd hL (not_reaches_behind hmissing huppost hfits hstep L)
          · rw [hparts]
            exact of_broken hmissing hnul hfits List.prefix_rfl e
  · next e hne hcreate =>
    split_ifs with hdirectory
    · exact hkept hdirectory
    · exact .refused _

theorem createAncestors_stays (fs : FileSystem) (hstay : ∀ s ∈ p.parts, PathStep.ofPart s = .stay) :
    (∃ e, fs.createAncestors [p] = .error e fs) ∨
      (fs.createAncestors [p] = .ok () fs ∧ (p.components = [] ∨ fs.isDirectory p = true)) := by
  have hnot (fs' : FileSystem) : fs.createDirectory p ≠ .ok fs' := by
    intro hcreate
    obtain ⟨D, name, hends, _⟩ := createDirectory_eq_ok_iff.mp hcreate
    obtain ⟨_, ⟨front, blank, hparts, _⟩, hstep⟩ := hends
    have hname := hstay name (hparts ▸ List.mem_append_right _ List.mem_cons_self)
    cases hstep.symm.trans hname
  by_cases hcomponents : p.components = []
  · rw [createAncestors, if_pos hcomponents]
    exact .inr ⟨rfl, .inl hcomponents⟩
  cases hcreate : fs.createDirectory p with
  | ok fs' => exact absurd hcreate (hnot fs')
  | error e =>
    by_cases hdirectory : fs.isDirectory p = true
    · right
      cases e <;> simp [createAncestors, hcreate, hdirectory]
    · left
      cases e <;> simp [createAncestors, hcreate, hdirectory, hcomponents]

/-- The outcome of going up a ladder and down again. -/
theorem of_ladder {absolute : Bool} {parts : List String} (hspell : Spellable absolute parts)
    (hhead : absolute = false → parts.head? ≠ some "") (hstraight : fs.Straight absolute parts) :
    Outcome fs absolute parts (fs.createAncestors (ladder absolute parts)) := by
  induction parts using List.reverseRecOn with
  | nil =>
    cases absolute with
    | false =>
      exact .kept fun h ↦ absurd h (by simp)
    | true =>
      have hstay : ∀ s ∈ (Path.mk "/").parts, PathStep.ofPart s = .stay := by decide
      have hcomponents : (Path.mk "/").components ≠ [] := by decide
      rcases createAncestors_stays fs hstay with ⟨e, h⟩ | ⟨h, hdirectory⟩
      · exact h ▸ .refused e
      · obtain ⟨_, D, hD⟩ := isDirectory_iff_reaches.mp (hdirectory.resolve_left hcomponents)
        have hroot : fs.Reaches true ([] ++ [""]) D := hD
        obtain ⟨D', _, hD', _⟩ := hroot.cut
        exact h ▸ .kept fun _ ↦ ⟨D', hD'⟩
  | append_singleton front s ih =>
    have hfront := ih (hspell.of_isPrefix (List.prefix_append _ _))
      (fun hrelative h ↦ hhead hrelative (by rw [List.head?_append, h]; rfl)) hstraight.of_append
    rw [ladder_concat]
    split_ifs with hmark
    · have hparts := parts_ofParts hspell (by simp)
      have habsolute := isAbsolute_ofParts hspell
      rw [← habsolute] at hfront hmark
      have hrung := hfront.rung hparts hmark nofun (by rwa [hparts, habsolute])
      rwa [hparts, habsolute] at hrung
    · obtain ⟨hs, hhere⟩ := mark?_eq_none_iff.mp (Option.not_isSome_iff_eq_none.mp hmark)
      refine hfront.stay hs ?_
      cases absolute with
      | true => exact .inl rfl
      | false =>
        right
        rintro rfl
        rcases PathStep.ofPart_eq_stay_iff.mp hs with rfl | rfl
        · exact hhead rfl rfl
        · exact hhere ⟨rfl, rfl, rfl⟩

end Outcome

/-- Creating a directory with those above it changes nothing or creates a nest under the first
missing name, if no part goes up behind it. -/
theorem createDirectories_outcome {p : Path} (hp : p.text ≠ "")
    (hstraight : fs.Straight p.isAbsolute p.parts) :
    Outcome fs p.isAbsolute p.parts (fs.createDirectories p) := by
  have hhead (hrelative : p.isAbsolute = false) := head?_parts_ne hp hrelative
  rw [createDirectories, ancestors_eq]
  rcases exists_rung p.isAbsolute p.parts with ⟨hnone, hladder⟩ | ⟨front, s, trail, hparts, hmark,
    htrail, hladder⟩
  · rw [hladder, List.drop_one, List.tail_cons]
    rcases Outcome.createAncestors_stays fs (stays_of_mark_eq_none hnone) with ⟨e, h⟩ |
      ⟨h, hdirectory⟩
    · exact h ▸ .refused e
    · have hreaches :=
        isDirectory_iff_reaches.mp (hdirectory.resolve_left (components_ne_nil hp))
      exact h ▸ .kept fun _ ↦ hreaches.2
  · rw [hladder, List.drop_one, List.tail_cons]
    have hfront : front <+: p.parts := by
      rw [hparts]
      exact List.prefix_append _ _
    refine Outcome.rung (.of_ladder ((spellable_parts p).of_isPrefix hfront) ?_ ?_) hparts hmark
      htrail hstraight
    · intro hrelative h
      refine hhead hrelative ?_
      rw [hparts, List.head?_append, h]
      rfl
    · rw [hparts] at hstraight
      exact hstraight.of_append

/-! ## Whole nests

The other direction: under the conditions given, each rung can be created once those above it are.
The rungs above the first missing name are there, and the ladder stops at them. -/

section Whole

variable {p : Path} {front : List String} {name : String} {post D : List String}

theorem createDirectory_of_missing (husable : p.Usable)
    (h : fs.Missing p.isAbsolute p.parts front name post D) (hpost : ∀ s ∈ post, s = "")
    (hfits : name.utf8ByteSize ≤ maxNameBytes) :
    fs.createDirectory p = .ok (fs.nest D [name]) :=
  createDirectory_eq_ok_iff.mpr ⟨D, name,
    ⟨husable, ⟨front, post, h.parts_eq, hpost, h.reaches⟩, h.step⟩, hfits, h.free, rfl⟩

section Climb

variable {fs₁ fs' : FileSystem} {above : List Path}

theorem createAncestors_of_created (hp : p.components ≠ []) (h : fs.createDirectory p = .ok fs') :
    fs.createAncestors (p :: above) = .ok () fs' := by
  rw [createAncestors, if_neg hp]
  simp only [h]

theorem createAncestors_of_again (hp : p.components ≠ [])
    (h : fs.createDirectory p = .error .notFound) (habove : fs.createAncestors above = .ok () fs₁)
    (hagain : fs₁.createDirectory p = .ok fs') : fs.createAncestors (p :: above) = .ok () fs' := by
  rw [createAncestors, if_neg hp]
  simp only [h, habove, hagain]

theorem createAncestors_of_there (hp : p.components ≠ [])
    (h : fs.createDirectory p = .error .notFound) (habove : fs.createAncestors above = .ok () fs₁)
    {e : OsError} (hagain : fs₁.createDirectory p = .error e)
    (hthere : fs₁.isDirectory p = true) : fs.createAncestors (p :: above) = .ok () fs₁ := by
  rw [createAncestors, if_neg hp]
  simp only [h, habove, hagain, if_pos hthere]

end Climb

theorem createAncestors_of_missing {above : List Path} (husable : p.Usable)
    (h : fs.Missing p.isAbsolute p.parts front name post D) (hpost : ∀ s ∈ post, s = "")
    (hfits : name.utf8ByteSize ≤ maxNameBytes) :
    fs.createAncestors (p :: above) = .ok () (fs.nest D [name]) :=
  createAncestors_of_created (components_ne_nil husable.2)
    (createDirectory_of_missing husable h hpost hfits)

theorem createDirectory_eq_notFound {parts blank : List String} {s : String} (husable : p.Usable)
    (hparts : p.parts = parts ++ s :: blank) (hs : s ≠ "") (hblank : ∀ t ∈ blank, t = "")
    (h : fs.Missing p.isAbsolute parts front name post D)
    (hfits : name.utf8ByteSize ≤ maxNameBytes) : fs.createDirectory p = .error .notFound := by
  obtain ⟨links, hrest⟩ := h.reaches.1.exists_resolveSteps_append
  have hway : resolveSteps fs.root true maxLinks (start fs.current p) (parts.map .ofPart) =
      if post.map PathStep.ofPart = [] then .ok (.free D name) else .error .notFound := by
    rw [h.parts_eq, List.map_append, List.map_cons, h.step, start,
      hrest true _ (List.cons_ne_nil _ _), resolveSteps_missing h.reaches.directory hfits h.free]
  have hparent : fs.parentPlace p = .error .notFound := by
    rw [parentPlace_of_parts husable hparts hs hblank, hway]
    split_ifs <;> rfl
  simp only [createDirectory, hparent]
  rfl

theorem createAncestors_rung {above : List Path} {parts blank : List String} {s : String}
    (husable : p.Usable) (hparts : p.parts = parts ++ s :: blank) (hblank : ∀ t ∈ blank, t = "")
    (hs : PathStep.ofPart s = .enter s) (h : fs.Missing p.isAbsolute parts front name post D)
    (hup : ".." ∉ post) (hfits : ∀ t ∈ name :: namesIn post ++ [s], t.utf8ByteSize ≤ maxNameBytes)
    (habove : fs.createAncestors above = .ok () (fs.nest D (name :: namesIn post))) :
    fs.createAncestors (p :: above) = .ok () (fs.nest D (name :: namesIn post ++ [s])) := by
  have hne : s ≠ "" := (PathStep.ofPart_eq_enter_iff.mp hs).2.1
  have hreaches := h.reaches_nest hup fun t ht ↦ hfits t (List.mem_append_left _ ht)
  have hmissing : (fs.nest D (name :: namesIn post)).Missing p.isAbsolute p.parts parts s blank
      (D ++ name :: namesIn post) := ⟨hparts, hreaches, hs, h.free_nest _ s⟩
  have hfirst := createDirectory_eq_notFound husable hparts hne hblank h (hfits name (by simp))
  have hagain := createDirectory_of_missing husable hmissing hblank (hfits s (by simp))
  rw [nest_concat]
  exact createAncestors_of_again (components_ne_nil husable.2) hfirst habove hagain

/-- Up the ladder of parts with a missing name and down again, all names are created. -/
theorem createAncestors_ladder {parts : List String} (husable : p.Usable)
    (hunder : parts <+: p.parts) (h : fs.Missing p.isAbsolute parts front name post D)
    (hup : ".." ∉ post)
    (hfits : ∀ t ∈ name :: namesIn post, t.utf8ByteSize ≤ maxNameBytes) :
    fs.createAncestors (ladder p.isAbsolute parts) =
      .ok () (fs.nest D (name :: namesIn post)) := by
  induction post using List.reverseRecOn generalizing parts with
  | nil =>
    cases h.parts_eq
    obtain ⟨habsolute, hparts, hrung⟩ := rung_spec husable hunder (by simp)
    have hmissing : fs.Missing (ofParts p.isAbsolute (front ++ [name])).isAbsolute
        (ofParts p.isAbsolute (front ++ [name])).parts front name [] D := by
      rwa [habsolute, hparts]
    rw [ladder_concat, if_pos (mark_of_enter h.step)]
    exact createAncestors_of_missing hrung hmissing nofun (hfits name (by simp))
  | append_singleton post s ih =>
    have hsplit : parts = (front ++ name :: post) ++ [s] := by
      rw [h.parts_eq, List.append_assoc, List.cons_append]
    have hfront : fs.Missing p.isAbsolute (front ++ name :: post) front name post D :=
      ⟨rfl, h.reaches, h.step, h.free⟩
    have hupFront : ".." ∉ post := fun hmem ↦ hup (List.mem_append_left _ hmem)
    rw [namesIn_append] at hfits ⊢
    have hbelow := ih ((List.prefix_append _ [s]).trans (hsplit ▸ hunder)) hfront hupFront
      fun t ht ↦ hfits t (List.mem_append_left _ ht)
    rw [hsplit, ladder_concat]
    cases hs : PathStep.ofPart s with
    | stay =>
      have hmark : mark? p.isAbsolute (front ++ name :: post) s = none :=
        mark?_eq_none_iff.mpr ⟨hs, fun hhere ↦ absurd hhere.1 (by simp)⟩
      rw [hmark, namesIn_cons_of_stay hs]
      simpa [namesIn] using hbelow
    | up => exact absurd (PathStep.ofPart_eq_up_iff.mp hs ▸ hup) (by simp)
    | enter t =>
      obtain ⟨rfl, _⟩ := PathStep.ofPart_eq_enter_iff.mp hs
      obtain ⟨habsolute, hparts, hrung⟩ := rung_spec husable (hsplit ▸ hunder) (by simp)
      rw [if_pos (mark_of_enter hs), namesIn_cons_of_enter hs]
      rw [namesIn_cons_of_enter hs] at hfits
      rw [← habsolute] at hfront
      exact createAncestors_rung hrung hparts nofun hs hfront hupFront hfits hbelow

/-- **Whole nests.** If names that may be created are all that is missing, they are created. -/
theorem createDirectories_of_missing (husable : p.Usable)
    (h : fs.Missing p.isAbsolute p.parts front name post D) (hup : ".." ∉ post) (hhere : "." ∉ post)
    (hfits : ∀ t ∈ name :: namesIn post, t.utf8ByteSize ≤ maxNameBytes) :
    fs.createDirectories p = .ok () (fs.nest D (name :: namesIn post)) := by
  have hblank {trail : List String} (htrail : ∀ t ∈ trail, PathStep.ofPart t = .stay)
      (hsub : trail ⊆ post) : ∀ t ∈ trail, t = "" := fun t ht ↦
    (PathStep.ofPart_eq_stay_iff.mp (htrail t ht)).resolve_right fun h ↦ hhere (h ▸ hsub ht)
  rw [createDirectories, ancestors_eq]
  rcases exists_rung p.isAbsolute p.parts with ⟨hnone, _⟩ | ⟨first, s, trail, hparts, hmark, htrail,
    hladder⟩
  · have hmark : (mark? p.isAbsolute front name).isSome := mark_of_enter h.step
    rw [hnone front name post h.parts_eq] at hmark
    cases hmark
  · rw [hladder, List.drop_one, List.tail_cons]
    -- The last part that is a component is the missing name or one behind it.
    rcases append_cons_eq_append_cons (h.parts_eq.symm.trans hparts) with
      ⟨rfl, rfl, rfl⟩ | ⟨between, rfl, rfl⟩ | ⟨between, _, rfl⟩
    · rw [namesIn_eq_nil htrail] at hfits ⊢
      exact createAncestors_of_missing husable h (hblank htrail (List.Subset.refl _))
        (hfits s List.mem_cons_self)
    · have hs : PathStep.ofPart s = .enter s := (step_of_mark hmark (.inr (by simp))).resolve_right
        fun hs ↦ hup (hs ▸ by simp)
      have hfront : fs.Missing p.isAbsolute (front ++ name :: between) front name between D :=
        ⟨rfl, h.reaches, h.step, h.free⟩
      have hunder : front ++ name :: between <+: p.parts := by
        rw [hparts]
        exact List.prefix_append _ _
      have hnames : namesIn (between ++ s :: trail) = namesIn between ++ [s] := by
        rw [namesIn_append, namesIn_cons_of_enter hs, namesIn_eq_nil htrail]
      have hupFront : ".." ∉ between := fun hmem ↦ hup (List.mem_append_left _ hmem)
      rw [hnames] at hfits ⊢
      have hbelow := createAncestors_ladder husable hunder hfront hupFront
        fun t ht ↦ hfits t (by rw [← List.cons_append]; exact List.mem_append_left _ ht)
      exact createAncestors_rung husable hparts (hblank htrail (by simp)) hs hfront hupFront hfits
        hbelow
    · cases h.step.symm.trans (htrail name (by simp))

end Whole

end FileSystem

end JavaConstants
