import JavaConstants.Proofs.Generation

/-!
# Output directories outside the resources

Before a run the output path is compared with the resources directory, both made canonical as far
as they exist. The comparison is about the place where the run will work only if the two read the
path alike (`FileSystem.ReadAlike`). They do not for three kinds of paths: a `..` behind a missing
name is taken back later by the system but stops the comparison, a relative path whose first name is
missing is not compared as a whole, and a link is compared by its target but replaced itself. With
each kind of path files below the resources directory can be deleted or written
(`trespasses_of_each_kind`).

Paths of the first two kinds do no harm as long as they stay away from the resources as they are
spelled (`FileSystem.Skirts`), which the comparison has no part in. No entry below the resources
directory changes for these and for all paths that are read alike (`generate_spares_resources`).
-/

namespace JavaConstants

namespace FileSystem

variable {fs : FileSystem} {p : Path}

/-! ## Resolved paths with missing names

A path that cannot be made canonical is resolved by going up its ladder to a rung that can be, and
by putting the names of the rungs above back as they are spelled. A `..` among them stops this, so
the lemmas ask for none behind the first missing name. -/

theorem canonical_of_missing {front post D : List String} {name : String}
    (h : fs.Missing p.isAbsolute p.parts front name post D) : ∃ e, fs.canonical p = .error e := by
  cases hcanonical : fs.canonical p with
  | error e => exact ⟨e, rfl⟩
  | ok T =>
    obtain ⟨_, hway⟩ := locate_eq_ok_iff.mp hcanonical
    rw [Path.steps, h.parts_eq, List.map_append, List.map_cons, h.step] at hway
    obtain ⟨D', links, hfront, hback⟩ := hway.cut (List.cons_ne_nil _ _)
    rw [← Place.found.inj (h.reaches.1.unique hfront)] at hback
    exact absurd h.free hback.entryAt_enter_ne_none

theorem resolveAmong_of_error {e : OsError} {s : String} (h : fs.canonical p = .error e)
    (hname : p.fileName? = some s) (whole : Path) (names : List String) {above : List Path}
    (habove : above ≠ []) :
    fs.resolveAmong whole names (p :: above) = fs.resolveAmong whole (s :: names) above := by
  obtain ⟨q, above, rfl⟩ := List.exists_cons_of_ne_nil habove
  conv_lhs => unfold resolveAmong
  simp only [h, hname]

theorem resolveAmong_of_missing {front post D more trail : List String} {name s : String}
    (h : fs.Missing p.isAbsolute p.parts front name post D) (hparts : p.parts = more ++ s :: trail)
    (hs : PathStep.ofPart s = .enter s) (htrail : ∀ t ∈ trail, PathStep.ofPart t = .stay)
    (whole : Path) (names : List String) {above : List Path} (habove : above ≠ []) :
    fs.resolveAmong whole names (p :: above) = fs.resolveAmong whole (s :: names) above := by
  obtain ⟨e, he⟩ := canonical_of_missing h
  exact resolveAmong_of_error he (Path.fileName?_of_enter hparts hs htrail) whole names habove

theorem resolveAmong_of_canonical {found : List String} (h : fs.canonical p = .ok found)
    (whole : Path) (names : List String) (above : List Path) :
    fs.resolveAmong whole names (p :: above) = .ofNames (found ++ names) := by
  unfold resolveAmong
  simp only [h]

theorem canonical_rootRung (hroot : fs.root.entryAt [] = some .emptyDirectory) :
    fs.canonical (Path.ofParts true []) = .ok [] :=
  locate_eq_ok_iff.mpr ⟨⟨by decide, by decide⟩, .stay hroot .done⟩

theorem resolveAmong_of_reaches {front D : List String} (husable : p.Usable)
    (hunder : front <+: p.parts) (h : fs.Reaches p.isAbsolute front D)
    (hfront : p.isAbsolute = true ∨ front ≠ []) (whole : Path) (names : List String) :
    fs.resolveAmong whole names (Path.ladder p.isAbsolute front) = .ofNames (D ++ names) := by
  rcases Path.exists_rung p.isAbsolute front with ⟨hnone, hladder⟩ | ⟨front', s, trail, rfl, hmark,
    htrail, hladder⟩
  · cases habsolute : p.isAbsolute with
    | true =>
      rw [habsolute] at h hladder
      have hroot : fs.Reaches true [] D := Reaches.of_stays h (Path.stays_of_mark_eq_none hnone)
      obtain rfl : [] = D := hroot.1.eq_of_nil
      rw [hladder, resolveAmong_of_canonical (canonical_rootRung hroot.directory)]
    | false =>
      obtain ⟨s, rest, rfl⟩ :=
        List.exists_cons_of_ne_nil (hfront.resolve_left (by rw [habsolute]; exact nofun))
      obtain ⟨hs, hhere⟩ := Path.mark?_eq_none_iff.mp (hnone [] s rest rfl)
      obtain ⟨more, hmore⟩ := hunder
      rcases PathStep.ofPart_eq_stay_iff.mp hs with rfl | rfl
      · exact absurd (by rw [← hmore]; rfl) (Path.head?_parts_ne husable.2 habsolute)
      · exact absurd ⟨rfl, rfl, habsolute⟩ hhere
  · have hunder' : front' ++ [s] <+: p.parts :=
      (concat_prefix_append_cons front' s trail).trans hunder
    obtain ⟨habsolute, hparts, hrung⟩ := Path.rung_spec husable hunder' (by simp)
    rw [List.append_cons] at h
    have hway := (h.of_stays htrail).1
    have hcanonical : fs.canonical (Path.ofParts p.isAbsolute (front' ++ [s])) = .ok D := by
      refine locate_eq_ok_iff.mpr ⟨hrung, ?_⟩
      rw [start, habsolute, Path.steps, hparts]
      exact hway
    rw [hladder, resolveAmong_of_canonical hcanonical]

/-- Up the ladder of parts with a missing name, the names from there on are put back. -/
theorem resolveAmong_ladder {front post D : List String} {name : String} (husable : p.Usable)
    (hunder : front ++ name :: post <+: p.parts)
    (h : fs.Missing p.isAbsolute (front ++ name :: post) front name post D) (hup : ".." ∉ post)
    (hfront : p.isAbsolute = true ∨ front ≠ []) (whole : Path) (names : List String) :
    fs.resolveAmong whole names (Path.ladder p.isAbsolute (front ++ name :: post)) =
      .ofNames (D ++ name :: Path.namesIn post ++ names) := by
  induction post using List.reverseRecOn generalizing names with
  | nil =>
    obtain ⟨habsolute, hparts, _⟩ := Path.rung_spec husable hunder (by simp)
    have hrung : fs.Missing (Path.ofParts p.isAbsolute (front ++ [name])).isAbsolute
        (Path.ofParts p.isAbsolute (front ++ [name])).parts front name [] D := by
      rwa [habsolute, hparts]
    rw [Path.ladder_concat, if_pos (Path.mark_of_enter h.step),
      resolveAmong_of_missing hrung hparts h.step nofun whole names (Path.ladder_ne_nil _ _),
      resolveAmong_of_reaches husable ((List.prefix_append _ _).trans hunder) h.reaches hfront]
    simp [Path.namesIn]
  | append_singleton post s ih =>
    have hsplit : front ++ name :: (post ++ [s]) = (front ++ name :: post) ++ [s] := by simp
    have hbelow : fs.Missing p.isAbsolute (front ++ name :: post) front name post D :=
      ⟨rfl, h.reaches, h.step, h.free⟩
    have hupBelow : ".." ∉ post := fun hmem ↦ hup (List.mem_append_left _ hmem)
    rw [hsplit] at hunder h ⊢
    have hrest := ih ((List.prefix_append _ _).trans hunder) hbelow hupBelow
    rw [Path.ladder_concat, Path.namesIn_append]
    cases hs : PathStep.ofPart s with
    | stay =>
      have hmark : Path.mark? p.isAbsolute (front ++ name :: post) s = none :=
        Path.mark?_eq_none_iff.mpr ⟨hs, fun hhere ↦ absurd hhere.1 (by simp)⟩
      rw [hmark, Path.namesIn_cons_of_stay hs]
      simpa [Path.namesIn] using hrest names
    | up => exact absurd (PathStep.ofPart_eq_up_iff.mp hs ▸ hup) (by simp)
    | enter t =>
      obtain ⟨rfl, _⟩ := PathStep.ofPart_eq_enter_iff.mp hs
      obtain ⟨habsolute, hparts, _⟩ := Path.rung_spec husable hunder (by simp)
      have hrung : fs.Missing (Path.ofParts p.isAbsolute (front ++ name :: post ++ [s])).isAbsolute
          (Path.ofParts p.isAbsolute (front ++ name :: post ++ [s])).parts front name (post ++ [s])
          D := by
        rwa [habsolute, hparts]
      rw [if_pos (Path.mark_of_enter hs),
        resolveAmong_of_missing hrung hparts hs nofun whole names (Path.ladder_ne_nil _ _),
        hrest, Path.namesIn_cons_of_enter hs]
      simp [Path.namesIn]

/-- **Resolved paths.** A path with a missing name is resolved to the directory before it and the
names from there on, if no part goes up behind it and the path does not start with it. -/
theorem resolved_of_missing {front post D : List String} {name : String} (husable : p.Usable)
    (h : fs.Missing p.isAbsolute p.parts front name post D) (hup : ".." ∉ post)
    (hfront : p.isAbsolute = true ∨ front ≠ []) :
    fs.resolved p = .ofNames (D ++ name :: Path.namesIn post) := by
  rw [resolved, Path.ancestors_eq]
  rcases Path.exists_rung p.isAbsolute p.parts with ⟨hnone, _⟩ | ⟨first, s, trail, hparts, hmark,
    htrail, hladder⟩
  · have hmark : (Path.mark? p.isAbsolute front name).isSome := Path.mark_of_enter h.step
    rw [hnone front name post h.parts_eq] at hmark
    cases hmark
  rw [hladder, List.drop_one, List.tail_cons]
  -- The last part that is a component is the missing name or one behind it.
  rcases append_cons_eq_append_cons (h.parts_eq.symm.trans hparts) with
    ⟨rfl, rfl, rfl⟩ | ⟨between, rfl, rfl⟩ | ⟨between, _, rfl⟩
  · have hunder : first <+: p.parts := hparts ▸ List.prefix_append _ _
    rw [resolveAmong_of_missing h hparts h.step htrail p [] (Path.ladder_ne_nil _ _),
      resolveAmong_of_reaches husable hunder h.reaches hfront, Path.namesIn_eq_nil htrail]
  · have hs : PathStep.ofPart s = .enter s :=
      (Path.step_of_mark hmark (.inr (by simp))).resolve_right fun hs ↦ hup (hs ▸ by simp)
    have hunder : front ++ name :: between <+: p.parts := hparts ▸ List.prefix_append _ _
    have hbelow : fs.Missing p.isAbsolute (front ++ name :: between) front name between D :=
      ⟨rfl, h.reaches, h.step, h.free⟩
    have hupBelow : ".." ∉ between := fun hmem ↦ hup (List.mem_append_left _ hmem)
    rw [resolveAmong_of_missing h hparts hs htrail p [] (Path.ladder_ne_nil _ _),
      resolveAmong_ladder husable hunder hbelow hupBelow hfront, Path.namesIn_append,
      Path.namesIn_cons_of_enter hs, Path.namesIn_eq_nil htrail]
    simp
  · cases h.step.symm.trans (htrail name (by simp))

/-! ## Resolved paths without links -/

theorem resolveAmong_ladder_of_linkFree (hfs : fs.root.LinkFree)
    (hroot : fs.root.entryAt [] = some .emptyDirectory) {parts : List String}
    (hspell : Path.Spellable true parts) (hup : ".." ∉ parts) (whole : Path) (names : List String) :
    fs.resolveAmong whole names (Path.ladder true parts) =
      .ofNames (Path.namesIn parts ++ names) := by
  induction parts using List.reverseRecOn generalizing names with
  | nil =>
    have hladder : Path.ladder true [] = [Path.ofParts true []] := rfl
    rw [hladder, resolveAmong_of_canonical (canonical_rootRung hroot)]
    rfl
  | append_singleton front s ih =>
    have hbelow (names : List String) := ih (hspell.of_isPrefix (List.prefix_append _ _))
      (fun hmem ↦ hup (List.mem_append_left _ hmem)) names
    rw [Path.ladder_concat, Path.namesIn_append]
    rcases hs : PathStep.ofPart s with _ | _ | name
    · have hmark : Path.mark? true front s = none :=
        Path.mark?_eq_none_iff.mpr ⟨hs, fun hhere ↦ absurd hhere.2.2 (by simp)⟩
      rw [hmark, Path.namesIn_cons_of_stay hs]
      simpa [Path.namesIn] using hbelow names
    · exact absurd (by simp [PathStep.ofPart_eq_up_iff.mp hs]) hup
    · obtain ⟨rfl, _⟩ := PathStep.ofPart_eq_enter_iff.mp hs
      have habsolute := Path.isAbsolute_ofParts hspell
      have hparts := Path.parts_ofParts hspell (by simp)
      have hnames : Path.namesIn (front ++ [s]) = Path.namesIn front ++ [s] := by
        rw [Path.namesIn_append, Path.namesIn_cons_of_enter hs]
        rfl
      rw [if_pos (Path.mark_of_enter hs), ← Path.namesIn_append, hnames]
      generalize Path.ofParts true (front ++ [s]) = rung at habsolute hparts
      rcases hcanonical : fs.canonical rung with e | T
      · have hname : rung.fileName? = some s := Path.fileName?_of_enter hparts hs (by simp)
        rw [resolveAmong_of_error hcanonical hname whole names (Path.ladder_ne_nil true front),
          hbelow, List.append_assoc, List.singleton_append]
      · have hT := eq_names_of_canonical hfs habsolute (hparts ▸ hup) hcanonical
        rw [resolveAmong_of_canonical hcanonical, hT, Path.names, hparts, hnames]

/-- **Resolved paths.** Without links, an absolute path without `..` is resolved to the names on it,
whatever stands there. -/
theorem resolved_of_linkFree (hfs : fs.root.LinkFree)
    (hroot : fs.root.entryAt [] = some .emptyDirectory) (habsolute : p.isAbsolute = true)
    (hup : ".." ∉ p.parts) : fs.resolved p = .ofNames p.names := by
  have hspell := p.spellable_parts
  rcases hcanonical : fs.canonical p with e | T
  swap
  · rw [resolved_of_canonical hcanonical, eq_names_of_canonical hfs habsolute hup hcanonical]
  rw [habsolute] at hspell
  rw [resolved, Path.ancestors_eq, habsolute]
  rcases Path.exists_rung true p.parts with ⟨hnone, _⟩ | ⟨front, s, trail, hparts, hmark, htrail,
    hladder⟩
  · -- No part is a name, so the path denotes the root.
    have hstay : ∀ s ∈ p.parts, PathStep.ofPart s = .stay := Path.stays_of_mark_eq_none hnone
    have hempty : Path.namesIn p.parts = [] := Path.namesIn_eq_nil hstay
    have husable : p.Usable := by
      refine Path.usable_iff.mpr ⟨fun s hs ↦ ?_, .inl habsolute⟩
      rcases PathStep.ofPart_eq_stay_iff.mp (hstay s hs) with rfl | rfl <;> decide
    have hway :
        Resolves fs.root true maxLinks [] p.steps (.found ([] ++ Path.namesIn p.parts)) := by
      refine resolves_down hup (by simp [hempty]) fun q _ hq ↦ ?_
      rw [hempty, List.append_nil, List.prefix_nil] at hq
      rw [hq, hroot]
    have hfound := locate_eq_ok_iff.mpr ⟨husable, by rwa [start, if_pos habsolute]⟩
    cases hcanonical.symm.trans hfound
  · have hs : PathStep.ofPart s = .enter s :=
      (Path.step_of_mark hmark (.inl rfl)).resolve_right fun hs ↦ hup (by simp [hparts, hs])
    have hname : p.fileName? = some s := Path.fileName?_of_enter hparts hs htrail
    have hfront : front <+: p.parts := hparts ▸ List.prefix_append _ _
    rw [hladder, List.drop_one, List.tail_cons,
      resolveAmong_of_error hcanonical hname p [] (Path.ladder_ne_nil true front),
      resolveAmong_ladder_of_linkFree hfs hroot (hspell.of_isPrefix hfront)
        (fun hmem ↦ hup (hfront.subset hmem)) p [s],
      Path.names, hparts, Path.namesIn_append, Path.namesIn_cons_of_enter hs,
      Path.namesIn_eq_nil htrail]

/-! ## Where a refresh works

A refresh clears a place and makes a nest of directories. It does both in one place: if something
was cleared, the first name missing now is one that was cleared, and otherwise there is the nest
alone. -/

namespace Cleared

variable {output : Path} {T : List String} {cleared : FileSystem}

theorem isPrefix_of_missing (h : fs.Cleared output T cleared) {front post D : List String}
    {name : String}
    (hmissing : cleared.Missing output.isAbsolute output.parts front name post D) :
    T <+: D ++ [name] := by
  by_contra hnot
  have hfree : fs.root.entryAt (D ++ [name]) = none := (h.outside _ hnot).symm.trans hmissing.free
  have hlocate : ∃ follow, fs.locate follow output = .ok T := by
    rcases h.place with ⟨hcanonical, _⟩ | ⟨hlocate, _⟩
    · exact ⟨true, hcanonical⟩
    · exact ⟨false, hlocate⟩
  obtain ⟨follow, hlocate⟩ := hlocate
  obtain ⟨_, hway⟩ := locate_eq_ok_iff.mp hlocate
  rw [Path.steps, hmissing.parts_eq, List.map_append, List.map_cons, hmissing.step] at hway
  obtain ⟨D', links, hfront, hback⟩ := hway.cut (List.cons_ne_nil _ _)
  have hbefore := hmissing.reaches.mono h.sub h.current.symm
  rw [← Place.found.inj (hbefore.1.unique hfront)] at hback
  exact hback.entryAt_enter_ne_none hfree

theorem eq_of_reaches (h : fs.Cleared output T cleared) {L : List String}
    (hL : cleared.Reaches output.isAbsolute output.parts L) : L = T := by
  rcases h.place with ⟨hcanonical, hentry⟩ | ⟨hlocate, target, hentry⟩
  · obtain ⟨_, hway⟩ := locate_eq_ok_iff.mp hcanonical
    exact (hL.mono h.sub h.current.symm).unique ⟨hway, hentry⟩
  · obtain ⟨front, name, D, hparts, hstep, hreaches, rfl⟩ := parts_of_locate_link hlocate hentry
    rw [hparts] at hL
    obtain ⟨D', links, hfront, hback⟩ := hL.cut
    obtain rfl := (hfront.mono h.sub h.current.symm).unique hreaches
    rw [List.map_singleton, hstep] at hback
    exact absurd (h.link target hentry) hback.entryAt_enter_ne_none

end Cleared

/-- A refresh that changes nothing but what stands at or below a place and, if it goes through,
leaves an empty directory there. -/
structure Confined (fs : FileSystem) (output : Path) (E : List String) (r : Edited) : Prop where
  /-- Elsewhere nothing is different. -/
  outside : ∀ q, ¬ E <+: q → (leftBy r).root.entryAt q = fs.root.entryAt q
  /-- The path leads to an empty directory below the place. -/
  fresh : ∀ after, r = .ok () after → ∃ L, E <+: L ∧
    after.Reaches output.isAbsolute output.parts L ∧ ∀ name, after.root.entryAt (L ++ [name]) = none

theorem confined_of_nested {output : Path} {E front post D made : List String} {name : String}
    {cleared : FileSystem} {r : Edited}
    (hbefore : ∀ q, ¬ E <+: q → cleared.root.entryAt q = fs.root.entryAt q) (hE : E <+: D ++ [name])
    (hmissing : cleared.Missing output.isAbsolute output.parts front name post D)
    (hup : ".." ∉ post) (hfits : ∀ s ∈ name :: made, s.utf8ByteSize ≤ maxNameBytes)
    (hwhole : ∀ after, r = .ok () after → made = Path.namesIn post)
    (hleft : leftBy r = cleared.nest D (name :: made)) : fs.Confined output E r := by
  refine ⟨fun q hq ↦ ?_, fun after hafter ↦ ?_⟩
  · rw [hleft, hmissing.entryAt_nest, ← hbefore q hq]
    split_ifs with hbetween
    · have hnot : ¬ D ++ [name] <+: q := fun h ↦ hq (hE.trans h)
      rw [eq_of_between hbetween.1 hbetween.2 hnot, hmissing.reaches.directory]
    · rfl
  · cases hwhole after hafter
    rw [hafter, leftBy] at hleft
    rw [hleft]
    exact ⟨_, hE.trans (concat_prefix_append_cons D name _), hmissing.reaches_nest hup hfits,
      hmissing.free_nest _⟩

theorem Cleared.confined {output : Path} {T : List String}
    (h : fs.Cleared output T (leftBy (fs.clear output))) (htext : output.text ≠ "")
    (hstraight : (leftBy (fs.clear output)).Straight output.isAbsolute output.parts) :
    fs.Confined output T (fs.refresh output) := by
  rw [refresh]
  cases hclear : fs.clear output with
  | error e cleared =>
    rw [hclear] at h
    exact ⟨h.outside, fun after hafter ↦ by cases hafter⟩
  | ok u cleared =>
    rw [hclear, leftBy] at h hstraight
    have houtcome := createDirectories_outcome htext hstraight
    rw [Edited.andThen_ok]
    generalize cleared.createDirectories output = r at houtcome
    cases houtcome with
    | refused e => exact ⟨h.outside, fun after hafter ↦ by cases hafter⟩
    | kept hkept =>
      refine ⟨h.outside, fun after hafter ↦ ?_⟩
      cases hafter
      obtain ⟨L, hL⟩ := hkept (.inr output.parts_ne_nil)
      obtain rfl := h.eq_of_reaches hL
      exact ⟨L, List.prefix_rfl, hL, h.inside⟩
    | nested hmissing _ hfits _ hwhole hleft =>
      exact confined_of_nested h.outside (h.isPrefix_of_missing hmissing) hmissing
        (hstraight _ _ _ _ hmissing) hfits hwhole hleft

/-- **The place of a refresh.** A refresh changes nothing, or works where the output directory
stood, or works under the first name that is missing on the way. -/
theorem refresh_place {output : Path} (htext : output.text ≠ "")
    (hstraight : (leftBy (fs.clear output)).Straight output.isAbsolute output.parts) :
    (∃ e, fs.refresh output = .error e fs) ∨
      (∃ T, fs.Cleared output T (leftBy (fs.clear output)) ∧
        fs.Confined output T (fs.refresh output)) ∨
      ∃ front name post D, output.Usable ∧ ".." ∉ post ∧
        fs.Missing output.isAbsolute output.parts front name post D ∧
        fs.Confined output (D ++ [name]) (fs.refresh output) := by
  by_cases husable : output.Usable
  swap
  · exact .inl ⟨_, refresh_of_not_usable htext husable⟩
  by_cases hexists : fs.pathExists output = true
  · rcases clear_outcome hexists with ⟨e, he⟩ | ⟨T, hcleared⟩
    · exact .inl ⟨e, by rw [refresh, he, Edited.andThen_error]⟩
    · exact .inr (.inl ⟨T, hcleared, hcleared.confined htext hstraight⟩)
  have hclear : fs.clear output = .ok () fs := by rw [clear, if_neg hexists]
  rw [hclear, leftBy] at hstraight
  have houtcome := createDirectories_outcome htext hstraight
  rw [refresh, hclear, Edited.andThen_ok]
  generalize fs.createDirectories output = r at houtcome
  cases houtcome with
  | refused e => exact .inl ⟨e, rfl⟩
  | kept hkept =>
    obtain ⟨L, hway, _⟩ := hkept (.inr output.parts_ne_nil)
    exact absurd (pathExists_iff.mpr ⟨L, locate_eq_ok_iff.mpr ⟨husable, hway⟩⟩) hexists
  | @nested front name post D made _ hmissing _ hfits _ hwhole hleft =>
    have hup := hstraight _ _ _ _ hmissing
    refine .inr (.inr ⟨front, name, post, D, husable, hup, hmissing, ?_⟩)
    exact confined_of_nested (fun _ _ ↦ rfl) List.prefix_rfl hmissing hup hfits hwhole hleft

theorem Confined.entryAt_replace {output : Path} {E q : List String}
    (h : fs.Confined output E (fs.refresh output)) {f : SourceFile} (hf : f.Placeable)
    (hq : ¬ E <+: q) : (leftBy (fs.replace output f)).root.entryAt q = fs.root.entryAt q := by
  have hbefore := h.outside q hq
  rw [replace]
  cases hrefresh : fs.refresh output with
  | error e after =>
    rw [hrefresh] at hbefore
    rw [Edited.andThen_error]
    exact hbefore
  | ok u after =>
    rw [hrefresh] at hbefore
    obtain ⟨L, hEL, hL, hempty⟩ := h.fresh after hrefresh
    have hdeposit := entryAt_deposit_outside hf hL hempty (utf8Bytes f.render)
      fun hunder ↦ hq (hEL.trans hunder)
    rw [Edited.andThen_ok]
    exact hdeposit.trans hbefore

/-! ## What the comparison sees

The place where a refresh works is the one that the path is resolved to, or a missing one on the
way to it. If the first is not in the resources, neither is the second; and a missing place holds
none. -/

/-- An output path that a comparison with the directory at `res` reads as the run does. -/
structure ReadAlike (fs : FileSystem) (output : Path) (res : List String) : Prop where
  /-- No part goes up behind a missing name, also when the old output directory is gone. -/
  straight : (leftBy (fs.clear output)).Straight output.isAbsolute output.parts
  /-- The first name of a relative path exists. -/
  anchored : output.isAbsolute = true ∨ ∀ first ∈ output.parts.head?, fs.pathExists ⟨first⟩ = true
  /-- The path names no link in the directory. -/
  link : ∀ T target, fs.locate false output = .ok T → fs.root.entryAt T = some (.link target) →
    ¬ res <+: T

/-- An output path that stays away from the directory at `res` as it is spelled, however the
comparison reads it: also one that goes up behind a missing name, or starts with one. -/
structure Skirts (fs : FileSystem) (output : Path) (res : List String) : Prop where
  /-- No link stands on the way. -/
  linkless : Linkless fs.root (start fs.current output) output.parts
  /-- No link stands behind it. -/
  below : ∀ q target, fs.spelledPlace output <+: q → fs.root.entryAt q ≠ some (.link target)
  /-- No directory missing on the way would be in the directory. -/
  aside : ∀ front, front <+: output.parts →
    fs.root.entryAt (spelled (start fs.current output) front) = none →
      ¬ res <+: spelled (start fs.current output) front
  /-- The way does not end in the directory. -/
  outside : ¬ res <+: fs.spelledPlace output
  /-- Nor does it end around the directory. -/
  around : ¬ fs.spelledPlace output <+: res

/-- An output path on which the check can be relied on, or that does not need it. -/
def Guardable (fs : FileSystem) (output : Path) (res : List String) : Prop :=
  fs.ReadAlike output res ∨ fs.Skirts output res

theorem not_isPrefix_of_apart {T res q : List String} (hres : ¬ T <+: res) (hT : ¬ res <+: T)
    (hq : res <+: q) : ¬ T <+: q := fun h ↦ (List.prefix_or_prefix_of_prefix h hq).elim hres hT

theorem text_ne_empty_of_checkOutput {output d : Path} {guarded : List Path}
    (hcheck : checkOutput fs output (d :: guarded) = .ok ()) : output.text ≠ "" := by
  intro htext
  have hempty : output = ⟨""⟩ := by
    cases output
    cases htext
    rfl
  have hplace : fs.canonical ⟨""⟩ = .error .notFound := rfl
  have hresolved : fs.resolved ⟨""⟩ = ⟨""⟩ := by
    have hancestors : (Path.mk "").ancestors = [⟨""⟩] := by decide
    rw [resolved, hancestors]
    unfold resolveAmong
    simp only [hplace]
  have hstarts : (fs.resolved d).startsWith ⟨""⟩ = true := by
    have hcomponents : (Path.mk "").components = [] := by decide
    rw [Path.startsWith, hcomponents]
    rfl
  rw [checkOutput, hempty, hresolved, if_pos hstarts] at hcheck
  cases hcheck

section Guard

variable {resources output : Path} {res : List String} {guarded : List Path}

theorem not_isPrefix_of_isWithin {names : List String} (hres : fs.resolved resources = .ofNames res)
    (hwithin : fs.isWithin output resources = false)
    (houtput : fs.resolved output = .ofNames names) : ¬ res <+: names := by
  intro hunder
  rw [isWithin, houtput, hres, Path.startsWith_ofNames hunder] at hwithin
  cases hwithin

/-- The place that is cleared neither is in the resources directory nor holds it. -/
theorem Cleared.apart {T : List String} {cleared : FileSystem} (h : fs.Cleared output T cleared)
    (hres : fs.canonical resources = .ok res)
    (hdirectory : fs.root.entryAt res = some .emptyDirectory)
    (hwithin : fs.isWithin output resources = false)
    (hcheck : checkOutput fs output (resources :: guarded) = .ok ())
    (hlink : ∀ target, fs.locate false output = .ok T → fs.root.entryAt T = some (.link target) →
      ¬ res <+: T) : ¬ T <+: res ∧ ¬ res <+: T := by
  rcases h.place with ⟨hcanonical, _⟩ | ⟨hlocate, target, hentry⟩
  · exact ⟨not_isPrefix_of_checkOutput hcheck List.mem_cons_self hcanonical hres,
      not_isPrefix_of_isWithin (resolved_of_canonical hres) hwithin
        (resolved_of_canonical hcanonical)⟩
  · refine ⟨fun hunder ↦ ?_, hlink target hlocate hentry⟩
    cases hentry.symm.trans (Node.entryAt_eq_emptyDirectory_of_isPrefix hunder hdirectory)

/-- A relative path whose first name exists does not start with a missing name. -/
theorem ReadAlike.anchor (hguard : fs.ReadAlike output res) (husable : output.Usable)
    {front post D : List String} {name : String}
    (h : fs.Missing output.isAbsolute output.parts front name post D) :
    output.isAbsolute = true ∨ front ≠ [] := by
  cases hrelative : output.isAbsolute with
  | true => exact .inl rfl
  | false =>
    right
    rintro rfl
    have hfirst := hguard.anchored.resolve_left (by rw [hrelative]; exact nofun)
    obtain ⟨T, hT⟩ := pathExists_iff.mp (hfirst name (by rw [h.parts_eq]; rfl))
    obtain ⟨_, hway⟩ := locate_eq_ok_iff.mp hT
    have hunder : [name] <+: output.parts := ⟨post, h.parts_eq.symm⟩
    obtain ⟨habsolute, hparts, _⟩ := Path.rung_spec husable hunder (List.cons_ne_nil _ _)
    have hname : Path.ofParts output.isAbsolute [name] = ⟨name⟩ := by
      rw [hrelative, Path.ofParts]
      simp [String.intercalate_singleton]
    rw [hname] at habsolute hparts
    rw [Path.steps, hparts, start, habsolute, List.map_singleton, h.step] at hway
    obtain hcurrent : _ = D := h.reaches.1.eq_of_nil
    rw [hcurrent] at hway
    exact hway.entryAt_enter_ne_none h.free

/-- After the checks a refresh changes nothing, or works at a place apart from the resources
directory. -/
theorem exists_confined (hres : fs.canonical resources = .ok res)
    (hdirectory : fs.root.entryAt res = some .emptyDirectory)
    (hwithin : fs.isWithin output resources = false)
    (hcheck : checkOutput fs output (resources :: guarded) = .ok ())
    (hguard : fs.ReadAlike output res) : (∃ e, fs.refresh output = .error e fs) ∨
      ∃ E, ¬ E <+: res ∧ ¬ res <+: E ∧ fs.Confined output E (fs.refresh output) := by
  rcases refresh_place (text_ne_empty_of_checkOutput hcheck) hguard.straight with hrefused |
    ⟨T, hcleared, hconfined⟩ | ⟨front, name, post, D, husable, hup, hmissing, hconfined⟩
  · exact .inl hrefused
  · obtain ⟨hT, hresT⟩ := hcleared.apart hres hdirectory hwithin hcheck fun target ↦
      hguard.link T target
    exact .inr ⟨T, hT, hresT, hconfined⟩
  · have hresolved := resolved_of_missing husable hmissing hup (hguard.anchor husable hmissing)
    refine .inr ⟨D ++ [name], fun hunder ↦ ?_, fun hunder ↦ ?_, hconfined⟩
    · rw [Node.entryAt_eq_none_of_isPrefix hmissing.free hunder] at hdirectory
      cases hdirectory
    · exact not_isPrefix_of_isWithin (resolved_of_canonical hres) hwithin hresolved
        (hunder.trans (concat_prefix_append_cons D name _))

/-! ## Paths that stay away

What a replacement adds stands where the first parts of the output path spell a place, so these
places are all that matters as long as nothing is removed. Something is removed only if the path
denotes it, and then the comparison is right about it. -/

namespace Skirts

/-- A path stays away also where no links are new and nothing in the directory is gone. -/
theorem mono {fs' : FileSystem} (h : fs.Skirts output res) (hcurrent : fs'.current = fs.current)
    (hlink : ∀ q target, fs'.root.entryAt q = some (.link target) →
      fs.root.entryAt q = some (.link target))
    (hfree : ∀ q, res <+: q → fs'.root.entryAt q = none → fs.root.entryAt q = none) :
    fs'.Skirts output res := by
  have hplace : fs'.spelledPlace output = fs.spelledPlace output := by
    rw [spelledPlace, spelledPlace, hcurrent]
  refine ⟨?_, ?_, ?_, hplace ▸ h.outside, hplace ▸ h.around⟩
  · rw [hcurrent]
    exact fun front hfront target hentry ↦ h.linkless front hfront target (hlink _ target hentry)
  · rw [hplace]
    exact fun q target hunder hentry ↦ h.below q target hunder (hlink q target hentry)
  · rw [hcurrent]
    exact fun front hfront hentry hunder ↦
      h.aside front hfront (hfree _ hunder hentry) hunder

theorem makes {S : List String → Prop} {made : FileSystem} (h : fs.Skirts output res)
    (hmakes : fs.Makes S made) (hsame : ∀ q, res <+: q → made.root.entryAt q = fs.root.entryAt q) :
    made.Skirts output res := by
  refine h.mono hmakes.current (fun q target hentry ↦ ?_) fun q hq hentry ↦ hsame q hq ▸ hentry
  rcases hmakes.entry q with hq | ⟨_, _, hmade⟩
  · exact hq ▸ hentry
  · cases hmade.symm.trans hentry

/-- The places on the way are those of a deposit, until it is behind the output directory. -/
theorem spelled_baseParts (output : Path) (here : List String) :
    spelled here output.baseParts = spelled here output.parts := by
  rcases output.parts_eq_baseParts with hbase | hbase
  · rw [← hbase]
  · rw [hbase, spelled_append]
    rfl

theorem entryAt_createDirectories (h : fs.Skirts output res) (husable : output.Usable)
    {q : List String} (hq : res <+: q) :
    (leftBy (fs.createDirectories output)).root.entryAt q = fs.root.entryAt q := by
  refine (createDirectories_makes husable h.linkless).entryAt_of_isSome ?_
  rintro ⟨front, hfront, rfl⟩ hfree
  exact h.aside front hfront hfree hq

theorem entryAt_deposit (h : fs.Skirts output res) (husable : output.Usable) {f : SourceFile}
    (hf : f.Placeable) (content : List UInt8) {q : List String} (hq : res <+: q) :
    (leftBy (fs.deposit (output.join f.relativePath) content)).root.entryAt q =
      fs.root.entryAt q := by
  -- What stands behind the output directory is not in the resources.
  have hbehind (names : List String) : fs.spelledPlace output ++ names ≠ q := by
    rintro rfl
    exact not_isPrefix_of_apart h.around h.outside hq (List.prefix_append _ _)
  have hnames {more : List String} (hmore : more <+: f.segments ++ [f.fileName]) :
      spelled (start fs.current output) (output.baseParts ++ more) =
        fs.spelledPlace output ++ more := by
    rw [spelled_append, spelled_baseParts]
    exact spelled_of_enter (fun s hs ↦ (hf.isEntryName (hmore.subset hs)).step) _
  refine entryAt_deposit_of_spelled hf husable ?_ content ?_ ?_
  · intro front hfront target
    rw [List.append_assoc] at hfront
    rcases isPrefix_append_iff.mp hfront with hfront | ⟨more, hmore, rfl⟩
    · exact h.linkless front (hfront.trans output.baseParts_isPrefix) target
    · rw [hnames hmore]
      exact h.below _ target (List.prefix_append _ _)
  · rintro front hfront rfl hfree
    rcases isPrefix_append_iff.mp hfront with hfront | ⟨more, hmore, rfl⟩
    · exact h.aside front (hfront.trans output.baseParts_isPrefix) hfree hq
    · exact hbehind more (hnames (hmore.trans (List.prefix_append _ _))).symm
  · rw [List.append_assoc, hnames List.prefix_rfl]
    exact (hbehind _).symm

end Skirts

/-- A path stays away if it leads without links to a missing name outside of the resources and does
not go up behind it. A relative path whose first name is missing is one, seen from outside. -/
theorem Skirts.of_missing {front post D : List String} {name : String}
    (hmissing : fs.Missing output.isAbsolute output.parts front name post D) (hup : ".." ∉ post)
    (hlinkless : Linkless fs.root (start fs.current output) front)
    (hdirectory : fs.root.entryAt res = some .emptyDirectory) (hout : ¬ res <+: D) :
    fs.Skirts output res := by
  have hfree {q : List String} (hq : D ++ [name] <+: q) : fs.root.entryAt q = none :=
    Node.entryAt_eq_none_of_isPrefix hmissing.free hq
  have hunder (names : List String) : D ++ [name] <+: D ++ name :: names :=
    concat_prefix_append_cons D name names
  have hapart (names : List String) : ¬ res <+: D ++ name :: names := by
    intro hres
    rcases List.prefix_or_prefix_of_prefix hres (hunder names) with hres | hres
    · rcases List.prefix_concat_iff.mp hres with rfl | hres
      · cases hdirectory.symm.trans hmissing.free
      · exact hout hres
    · cases hdirectory.symm.trans (hfree hres)
  have hplace : fs.spelledPlace output = D ++ name :: Path.namesIn post := by
    rw [spelledPlace, hmissing.parts_eq, hmissing.spelled_behind hlinkless hup]
  -- The first parts of the path stop in front of the missing name, or they go on behind it.
  have hsplit {first : List String} (hfirst : first <+: output.parts) : first <+: front ∨
      ∃ more, spelled (start fs.current output) first = D ++ name :: Path.namesIn more := by
    rw [hmissing.parts_eq] at hfirst
    rcases isPrefix_append_iff.mp hfirst with hfirst | ⟨_ | ⟨s, more⟩, hbehind, rfl⟩
    · exact .inl hfirst
    · exact .inl (by rw [List.append_nil])
    · obtain ⟨rfl, hmore⟩ := List.cons_prefix_cons.mp hbehind
      exact .inr ⟨more, hmissing.spelled_behind hlinkless fun hmem ↦ hup (hmore.subset hmem)⟩
  refine ⟨fun first hfirst target ↦ ?_, fun q target hq ↦ ?_, fun first hfirst hnone ↦ ?_, ?_, ?_⟩
  · rcases hsplit hfirst with hfirst | ⟨more, hmore⟩
    · exact hlinkless first hfirst target
    · rw [hmore, hfree (hunder _)]
      exact (Option.some_ne_none _).symm
  · rw [hfree ((hunder _).trans (hplace ▸ hq))]
    exact (Option.some_ne_none _).symm
  · rcases hsplit hfirst with ⟨rest, hrest⟩ | ⟨more, hmore⟩
    · -- In front of the missing name there are directories.
      obtain ⟨L, _, hL, _⟩ := (hrest ▸ hmissing.reaches).cut
      rw [hL.spelled_eq (hlinkless.of_isPrefix ⟨rest, hrest⟩), hL.directory] at hnone
      cases hnone
    · exact hmore ▸ hapart _
  · exact hplace ▸ hapart _
  · rw [hplace]
    intro hres
    cases hdirectory.symm.trans (hfree ((hunder _).trans hres))

example : Guardable { root := .directory [("r", .directory [])] } ⟨"build/generated/r"⟩ ["r"] := by
  have hparts : Path.parts ⟨"build/generated/r"⟩ = [] ++ "build" :: ["generated", "r"] := by decide
  refine .inr (.of_missing ⟨hparts, ⟨.done, rfl⟩, by decide, rfl⟩ (by decide) ?_ rfl (by decide))
  intro front hfront target
  rw [List.prefix_nil.mp hfront]
  exact nofun

theorem Skirts.clear (h : fs.Skirts output res) (hres : fs.canonical resources = .ok res)
    (hdirectory : fs.root.entryAt res = some .emptyDirectory)
    (hwithin : fs.isWithin output resources = false)
    (hcheck : checkOutput fs output (resources :: guarded) = .ok ()) :
    (∃ e, fs.clear output = .error e fs) ∨ (leftBy (fs.clear output)).Skirts output res ∧
      ∀ q, res <+: q → (leftBy (fs.clear output)).root.entryAt q = fs.root.entryAt q := by
  by_cases hexists : fs.pathExists output = true
  · rcases clear_outcome hexists with herror | ⟨T, hcleared⟩
    · exact .inl herror
    right
    have hlink (target : String) (hlocate : fs.locate false output = .ok T)
        (hentry : fs.root.entryAt T = some (.link target)) : ¬ res <+: T := by
      have hT : T = fs.spelledPlace output :=
        (locate_eq_ok_iff.mp hlocate).2.eq_spelled h.linkless
      rw [hT] at hentry
      exact absurd hentry (h.linkless output.parts List.prefix_rfl target)
    obtain ⟨hT, hresT⟩ := hcleared.apart hres hdirectory hwithin hcheck hlink
    have hsame : ∀ q, res <+: q →
        (leftBy (fs.clear output)).root.entryAt q = fs.root.entryAt q := fun q hq ↦
      hcleared.outside q (not_isPrefix_of_apart hT hresT hq)
    exact ⟨h.mono hcleared.current (fun q target ↦ hcleared.sub q _) fun q hq hfree ↦
      hsame q hq ▸ hfree, hsame⟩
  · right
    rw [FileSystem.clear, if_neg hexists]
    exact ⟨h, fun q _ ↦ rfl⟩

theorem entryAt_replace_of_skirts {f : SourceFile} (hf : f.Placeable)
    (hres : fs.canonical resources = .ok res)
    (hdirectory : fs.root.entryAt res = some .emptyDirectory)
    (hwithin : fs.isWithin output resources = false)
    (hcheck : checkOutput fs output (resources :: guarded) = .ok ())
    (hskirts : fs.Skirts output res) {q : List String} (hq : res <+: q) :
    (leftBy (fs.replace output f)).root.entryAt q = fs.root.entryAt q := by
  by_cases husable : output.Usable
  swap
  · rw [replace, refresh_of_not_usable (text_ne_empty_of_checkOutput hcheck) husable,
      Edited.andThen_error]
    rfl
  rw [replace, refresh]
  rcases hskirts.clear hres hdirectory hwithin hcheck with ⟨e, he⟩ | ⟨hcleared, hsame⟩
  · rw [he, Edited.andThen_error, Edited.andThen_error]
    rfl
  generalize fs.clear output = r at hcleared hsame
  cases r with
  | error e cleared => exact hsame q hq
  | ok u cleared =>
    rw [leftBy] at hcleared hsame
    rw [Edited.andThen_ok, ← hsame q hq]
    have hmade : ∀ q, res <+: q →
        (leftBy (cleared.createDirectories output)).root.entryAt q = cleared.root.entryAt q :=
      fun _ ↦ hcleared.entryAt_createDirectories husable
    have hskirtsMade :=
      hcleared.makes (createDirectories_makes husable hcleared.linkless) hmade
    generalize cleared.createDirectories output = r at hmade hskirtsMade
    cases r with
    | error e made => exact hmade q hq
    | ok u made =>
      rw [leftBy] at hmade hskirtsMade
      rw [Edited.andThen_ok, hskirtsMade.entryAt_deposit husable hf _ hq, hmade q hq]

/-! ## Replacements -/

theorem entryAt_replace {f : SourceFile} (hf : f.Placeable)
    (hres : fs.canonical resources = .ok res)
    (hdirectory : fs.root.entryAt res = some .emptyDirectory)
    (hwithin : fs.isWithin output resources = false)
    (hcheck : checkOutput fs output (resources :: guarded) = .ok ())
    (hguard : fs.Guardable output res) {q : List String} (hq : res <+: q) :
    (leftBy (fs.replace output f)).root.entryAt q = fs.root.entryAt q := by
  rcases hguard with halike | hskirts
  · rcases exists_confined hres hdirectory hwithin hcheck halike with ⟨e, he⟩ |
      ⟨E, hE, hresE, hconfined⟩
    · rw [replace, he, Edited.andThen_error]
      rfl
    · exact hconfined.entryAt_replace hf (not_isPrefix_of_apart hE hresE hq)
  · exact entryAt_replace_of_skirts hf hres hdirectory hwithin hcheck hskirts hq

end Guard

end FileSystem

open FileSystem

namespace ResourceSettings

variable {s : ResourceSettings} {guarded : List Path} {clock : Clock} {w : Workspace}

theorem directories_of_check {fs : FileSystem} (h : s.check guarded fs = .ok ()) :
    fs.isDirectory s.resourcesDir = true ∧ fs.isWithin s.outputDir s.resourcesDir = false ∧
      checkOutput fs s.outputDir (s.resourcesDir :: guarded) = .ok () :=
  (check_eq_ok_iff.mp h).2.2.2

/-- **Resources stay.** Whatever a run comes to, no entry at or below the canonical place of the
resources directory is different afterwards, if the output path is one that the check reads as the
run does. -/
theorem generate_spares_resources {res : List String}
    (hres : w.files.canonical s.resourcesDir = .ok res)
    (hguard : w.files.Guardable s.outputDir res) {q : List String} (hq : res <+: q) :
    (leftBy (s.generate guarded clock w)).files.root.entryAt q = w.files.root.entryAt q := by
  have hrun := s.run_generate guarded clock w
  generalize s.generate guarded clock w = r at hrun
  cases hrun with
  | stopped e _ h => rw [leftBy, h]
  | @replaced file skipped w₁ _ hbuild hruns =>
    obtain ⟨hcheck, _⟩ := build_eq_ok_iff.mp hbuild
    obtain ⟨hdirectory, hwithin, houtput⟩ := directories_of_check hcheck
    obtain ⟨T, hT, hentry⟩ := isDirectory_iff.mp hdirectory
    obtain rfl : T = res := Except.ok.inj (hT.symm.trans hres)
    have hfile := (s.isBuild guarded clock).placeable w file skipped w₁ hbuild
    rw [hruns.files_leftBy]
    exact entryAt_replace hfile hres hentry hwithin houtput hguard hq

theorem generate_spares_resources_outdated :
    outdated.files.canonical ofR.resourcesDir = .ok ["r"] ∧
      outdated.files.Guardable ofR.outputDir ["r"] ∧ ∀ q, ["r"] <+: q →
        (leftBy (ofR.generate [] newYear outdated)).files.root.entryAt q =
          outdated.files.root.entryAt q := by
  have hres : outdated.files.canonical ofR.resourcesDir = .ok ["r"] := by cbv
  have hlocate : outdated.files.locate false ofR.outputDir = .ok ["o"] := by cbv
  have hguard : outdated.files.Guardable ofR.outputDir ["r"] := by
    refine .inl ⟨fun front name post D h ↦ ?_, .inl (by decide), fun T target hT _ ↦ ?_⟩
    · have hparts : ofR.outputDir.parts = ["o"] := by decide
      have hsplit := hparts.symm.trans h.parts_eq
      cases front with
      | nil =>
        obtain ⟨_, rfl⟩ := List.cons.inj hsplit
        exact List.not_mem_nil
      | cons s front =>
        obtain ⟨_, hnil⟩ := List.cons.inj hsplit
        exact absurd hnil (by simp)
    · cases hlocate.symm.trans hT
      decide
  exact ⟨hres, hguard, fun q hq ↦ generate_spares_resources hres hguard hq⟩

/-! ## Paths that the check reads in another way -/

/-- A run that passes the check and changes an entry of the resources directory. -/
def Trespasses (s : ResourceSettings) (w : Workspace) : Prop :=
  s.check [] w.files = .ok () ∧ ∃ res q, w.files.canonical s.resourcesDir = .ok res ∧ res <+: q ∧
    (leftBy (s.generate [] newYear w)).files.root.entryAt q ≠ w.files.root.entryAt q

/-- Settings for a resources directory and an output directory. -/
def between (resources output : Path) : ResourceSettings :=
  { ofR with resourcesDir := resources, outputDir := output }

/-- The class built from a directory without entries. -/
def hollowFile : SourceFile := ⟨"p", some newYear.here.comment, .mk "R" [] []⟩

section Between

variable {resources output : Path} {fs : FileSystem}

theorem check_between {r o : Path} (hdirectory : fs.isDirectory resources = true)
    (hresources : fs.resolved resources = r) (houtput : fs.resolved output = o)
    (hinside : o.startsWith r = false) (haround : r.startsWith o = false) :
    (between resources output).check [] fs = .ok () := by
  have hpackage : checkPackageName "p" = .ok () := by decide
  have hblank : isBlankText "R" = false := by decide
  have hclass : checkClassName "R" = .ok () := by decide
  exact check_of_resolved hpackage hblank hclass hdirectory hresources houtput hinside haround

theorem trespasses_of_refresh {w : Workspace} {after : FileSystem} {res L : List String}
    {skipped : List Skipped} {events : List Event}
    (hcheck : (between resources output).check [] w.files = .ok ())
    (hres : w.files.canonical resources = .ok res)
    (hharvest : (between resources output).harvest w.files =
      .ok () ⟨.mk "R" [] [], skipped, events⟩)
    (hrefresh : w.files.refresh output = .ok () after) (hL : after.canonical output = .ok L)
    (hhollow : after.root.find? L = some (.directory [])) (hunder : res <+: L)
    (hbefore : w.files.root.entryAt L ≠ some .emptyDirectory) :
    Trespasses (between resources output) w := by
  refine ⟨hcheck, res, L, hres, hunder, ?_⟩
  have hbuild : (between resources output).build [] newYear w = .ok (hollowFile, skipped)
      { w with events := w.events ++ events } :=
    build_eq_ok_iff.mpr ⟨hcheck, _, hharvest, rfl, rfl, rfl⟩
  have hrun := (between resources output).run_generate [] newYear w
  generalize (between resources output).generate [] newYear w = r at hrun ⊢
  cases hrun with
  | stopped e hbuilt _ => cases hbuild.symm.trans hbuilt
  | replaced hbuilt hruns =>
    cases hbuild.symm.trans hbuilt
    have hfile : hollowFile.Placeable := ⟨by decide, by decide⟩
    have hfits : hollowFile.Fits := by
      unfold SourceFile.Fits
      decide
    obtain ⟨husable, hway⟩ := locate_eq_ok_iff.mp hL
    have hentry : after.root.entryAt L = some .emptyDirectory :=
      Node.entryAt_eq_emptyDirectory_iff.mpr ⟨[], hhollow⟩
    have hempty (name : String) : after.root.entryAt (L ++ [name]) = none := by
      rw [Node.entryAt_concat hhollow]
      rfl
    have hdeposit := deposit_eq_ok hfile husable ⟨hway, hentry⟩ hempty (utf8Bytes hollowFile.render)
      hfits
    have houtput : (between resources output).outputDir = output := rfl
    have hafter := entryAt_deposited hentry hempty hollowFile L
    rw [if_pos List.prefix_rfl, List.drop_length, SourceFile.entryIn, if_pos List.nil_prefix]
      at hafter
    rw [hruns.files_leftBy, houtput, replace, hrefresh, Edited.andThen_ok, hdeposit, leftBy, hafter]
    exact Ne.symm hbefore

end Between

/-! ### A `..` behind a missing name -/

/-- Files with an empty directory `/r`. -/
def hollow : FileSystem where
  root := .directory [("r", .directory [])]

/-- The files after `/m` was created. -/
def hollowWithM : FileSystem where
  root := .directory [("r", .directory []), ("m", .directory [])]

/-- The files after `/r/g` was created by the way of `/m`. -/
def hollowWithG : FileSystem where
  root := .directory [("r", .directory [("g", .directory [])]), ("m", .directory [])]

theorem createDirectories_up :
    hollow.createDirectories ⟨"/m/../r/g"⟩ = .ok () hollowWithG := by
  have hancestors : (Path.mk "/m/../r/g").ancestors =
      [⟨"/m/../r/g"⟩, ⟨"/m/../r"⟩, ⟨"/m/.."⟩, ⟨"/m"⟩, ⟨"/"⟩] := by decide
  have hm : (Path.mk "/m").parts = [] ++ "m" :: [] := by decide
  have hup : (Path.mk "/m/..").parts = ["m"] ++ ".." :: [] := by decide
  have hr : (Path.mk "/m/../r").parts = ["m", ".."] ++ "r" :: [] := by decide
  have hg : (Path.mk "/m/../r/g").parts = ["m", "..", "r"] ++ "g" :: [] := by decide
  have hupSteps : (Path.mk "/m/..").steps = [.enter "m", .up] := by decide
  have hrSteps : (Path.mk "/m/../r").steps = [.enter "m", .up, .enter "r"] := by decide
  -- On the way up all rungs but the last one are not found.
  have hgFirst : hollow.createDirectory ⟨"/m/../r/g"⟩ = .error .notFound := by
    rw [createDirectory, parentPlace_of_parts ⟨by decide, by decide⟩ hg (by decide) (by simp)]
    cbv
  have hrFirst : hollow.createDirectory ⟨"/m/../r"⟩ = .error .notFound := by
    rw [createDirectory, parentPlace_of_parts ⟨by decide, by decide⟩ hr (by decide) (by simp)]
    cbv
  have hupFirst : hollow.createDirectory ⟨"/m/.."⟩ = .error .notFound := by
    rw [createDirectory, parentPlace_of_parts ⟨by decide, by decide⟩ hup (by decide) (by simp)]
    cbv
  have hmFirst : hollow.createDirectory ⟨"/m"⟩ = .ok hollowWithM := by
    rw [createDirectory, parentPlace_of_parts ⟨by decide, by decide⟩ hm (by decide) (by simp)]
    cbv
  -- On the way down they lead out of the new directory again.
  have hupAgain : hollowWithM.createDirectory ⟨"/m/.."⟩ = .error .alreadyExists := by
    rw [createDirectory, parentPlace_of_parts ⟨by decide, by decide⟩ hup (by decide) (by simp)]
    cbv
  have hupThere : hollowWithM.isDirectory ⟨"/m/.."⟩ = true := by
    refine isDirectory_iff.mpr ⟨[], locate_eq_ok_iff.mpr ⟨⟨by decide, by decide⟩, ?_⟩, rfl⟩
    rw [hupSteps, ← resolveSteps_eq_ok_iff]
    cbv
  have hrAgain : hollowWithM.createDirectory ⟨"/m/../r"⟩ = .error .alreadyExists := by
    rw [createDirectory, parentPlace_of_parts ⟨by decide, by decide⟩ hr (by decide) (by simp)]
    cbv
  have hrThere : hollowWithM.isDirectory ⟨"/m/../r"⟩ = true := by
    refine isDirectory_iff.mpr ⟨["r"], locate_eq_ok_iff.mpr ⟨⟨by decide, by decide⟩, ?_⟩, rfl⟩
    rw [hrSteps, ← resolveSteps_eq_ok_iff]
    cbv
  have hgAgain : hollowWithM.createDirectory ⟨"/m/../r/g"⟩ = .ok hollowWithG := by
    rw [createDirectory, parentPlace_of_parts ⟨by decide, by decide⟩ hg (by decide) (by simp)]
    cbv
  rw [createDirectories, hancestors]
  have hmDone : hollow.createAncestors [⟨"/m"⟩, ⟨"/"⟩] = .ok () hollowWithM :=
    createAncestors_of_created (by decide) hmFirst
  have hupDone := createAncestors_of_there (by decide) hupFirst hmDone hupAgain hupThere
  have hrDone := createAncestors_of_there (by decide) hrFirst hupDone hrAgain hrThere
  exact createAncestors_of_again (by decide) hgFirst hrDone hgAgain

theorem check_up : (between ⟨"/r"⟩ ⟨"/m/../r/g"⟩).check [] hollow = .ok () := by
  have hmissing {p : Path} {post : List String} (habsolute : p.isAbsolute = true)
      (hparts : p.parts = "m" :: post) : hollow.Missing p.isAbsolute p.parts [] "m" post [] :=
    ⟨hparts, ⟨by rw [habsolute]; exact .done, rfl⟩, rfl, rfl⟩
  have hup : (Path.mk "/m/..").parts = "m" :: [".."] := by decide
  have hr : (Path.mk "/m/../r").parts = ["m", ".."] ++ "r" :: [] := by decide
  have hg : (Path.mk "/m/../r/g").parts = ["m", "..", "r"] ++ "g" :: [] := by decide
  have hancestors : (Path.mk "/m/../r/g").ancestors =
      [⟨"/m/../r/g"⟩, ⟨"/m/../r"⟩, ⟨"/m/.."⟩, ⟨"/m"⟩, ⟨"/"⟩] := by decide
  -- The search for an ancestor that exists ends at `/m/..`, which has no name to put back.
  have houtput : hollow.resolved ⟨"/m/../r/g"⟩ = ⟨"/m/../r/g"⟩ := by
    obtain ⟨e, he⟩ := canonical_of_missing (hmissing (by decide) hup)
    have hname : (Path.mk "/m/..").fileName? = none := by decide
    rw [resolved, hancestors,
      resolveAmong_of_missing (hmissing (by decide) hg) hg rfl (by simp) _ _ (List.cons_ne_nil _ _),
      resolveAmong_of_missing (hmissing (by decide) hr) hr rfl (by simp) _ _ (List.cons_ne_nil _ _)]
    unfold resolveAmong
    simp only [he, hname]
  exact check_between (by cbv) (by cbv) houtput (by decide) (by decide)

theorem trespasses_up : Trespasses (between ⟨"/r"⟩ ⟨"/m/../r/g"⟩) ⟨hollow, []⟩ := by
  have habsolute : (Path.mk "/m/../r/g").isAbsolute = true := by decide
  have hparts : (Path.mk "/m/../r/g").parts = [] ++ "m" :: ["..", "r", "g"] := by decide
  have hsteps : (Path.mk "/m/../r/g").steps = [.enter "m", .up, .enter "r", .enter "g"] := by decide
  have hmissing : hollow.Missing (Path.mk "/m/../r/g").isAbsolute (Path.mk "/m/../r/g").parts []
      "m" ["..", "r", "g"] [] := ⟨hparts, ⟨by rw [habsolute]; exact .done, rfl⟩, rfl, rfl⟩
  have hexists : ¬ hollow.pathExists ⟨"/m/../r/g"⟩ = true := by
    intro h
    obtain ⟨names, hnames⟩ := pathExists_iff.mp h
    obtain ⟨e, he⟩ := canonical_of_missing hmissing
    cases he.symm.trans hnames
  have hharvest : (between ⟨"/r"⟩ ⟨"/m/../r/g"⟩).harvest hollow =
      .ok () ⟨.mk "R" [] [], [], []⟩ := by cbv
  have hrefresh : hollow.refresh ⟨"/m/../r/g"⟩ = .ok () hollowWithG := by
    rw [refresh, clear, if_neg hexists, Edited.andThen_ok, createDirectories_up]
  have hL : hollowWithG.canonical ⟨"/m/../r/g"⟩ = .ok ["r", "g"] := by
    refine locate_eq_ok_iff.mpr ⟨⟨by decide, by decide⟩, ?_⟩
    rw [hsteps, ← resolveSteps_eq_ok_iff]
    cbv
  have hres : hollow.canonical ⟨"/r"⟩ = .ok ["r"] := by cbv
  exact trespasses_of_refresh check_up hres hharvest hrefresh hL rfl (by decide) (by rintro ⟨⟩)

/-! ### A relative path -/

/-- The files of `hollow`, seen from `/r`. -/
def hollowFromR : FileSystem where
  root := .directory [("r", .directory [])]
  current := ["r"]

/-- The files after `/r/g` was created, seen from `/r`. -/
def hollowFromRWithG : FileSystem where
  root := .directory [("r", .directory [("g", .directory [])])]
  current := ["r"]

theorem trespasses_relative : Trespasses (between ⟨"."⟩ ⟨"g"⟩) ⟨hollowFromR, []⟩ := by
  have hresources : hollowFromR.resolved ⟨"."⟩ = ⟨"/r"⟩ := by cbv
  have houtput : hollowFromR.resolved ⟨"g"⟩ = ⟨"g"⟩ := by cbv
  have hcheck : (between ⟨"."⟩ ⟨"g"⟩).check [] hollowFromR = .ok () :=
    check_between (by cbv) hresources houtput (by decide) (by decide)
  have hharvest : (between ⟨"."⟩ ⟨"g"⟩).harvest hollowFromR = .ok () ⟨.mk "R" [] [], [], []⟩ := by
    cbv
  have hrefresh : hollowFromR.refresh ⟨"g"⟩ = .ok () hollowFromRWithG := by cbv
  have hres : hollowFromR.canonical ⟨"."⟩ = .ok ["r"] := by cbv
  have hL : hollowFromRWithG.canonical ⟨"g"⟩ = .ok ["r", "g"] := by cbv
  exact trespasses_of_refresh hcheck hres hharvest hrefresh hL rfl (by decide) (by rintro ⟨⟩)

/-! ### A link -/

/-- Files with a link in the directory `/r` to the directory `/s`. -/
def linked : FileSystem where
  root := .directory [("r", .directory [("l", .link "/s")]), ("s", .directory [])]

/-- The files after a directory took the place of the link. -/
def unlinked : FileSystem where
  root := .directory [("r", .directory [("l", .directory [])]), ("s", .directory [])]

theorem trespasses_link : Trespasses (between ⟨"/r"⟩ ⟨"/r/l"⟩) ⟨linked, []⟩ := by
  have hresources : linked.resolved ⟨"/r"⟩ = ⟨"/r"⟩ := by cbv
  have houtput : linked.resolved ⟨"/r/l"⟩ = ⟨"/s"⟩ := by cbv
  have hcheck : (between ⟨"/r"⟩ ⟨"/r/l"⟩).check [] linked = .ok () :=
    check_between (by cbv) hresources houtput (by decide) (by decide)
  have hharvest : (between ⟨"/r"⟩ ⟨"/r/l"⟩).harvest linked =
      .ok () ⟨.mk "R" [] [], [⟨["R"], "l", .linkedDirectory⟩],
        [.nameSkipped ⟨["R"], "l", .linkedDirectory⟩]⟩ := by cbv
  have hrefresh : linked.refresh ⟨"/r/l"⟩ = .ok () unlinked := by cbv
  have hres : linked.canonical ⟨"/r"⟩ = .ok ["r"] := by cbv
  have hL : unlinked.canonical ⟨"/r/l"⟩ = .ok ["r", "l"] := by cbv
  exact trespasses_of_refresh hcheck hres hharvest hrefresh hL rfl (by decide) (by rintro ⟨⟩)

/-- Each of the three kinds of paths passes the check and changes the resources directory. -/
theorem trespasses_of_each_kind : Trespasses (between ⟨"/r"⟩ ⟨"/m/../r/g"⟩) ⟨hollow, []⟩ ∧
    Trespasses (between ⟨"."⟩ ⟨"g"⟩) ⟨hollowFromR, []⟩ ∧
    Trespasses (between ⟨"/r"⟩ ⟨"/r/l"⟩) ⟨linked, []⟩ :=
  ⟨trespasses_up, trespasses_relative, trespasses_link⟩

end ResourceSettings

end JavaConstants
