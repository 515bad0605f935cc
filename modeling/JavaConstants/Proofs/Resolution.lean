import JavaConstants.Proofs.FileTree
import JavaConstants.Proofs.Spelling

/-!
# The way of a path

The steps of a path as a relation between where it starts and what it denotes (`Resolves`), beside
the function that walks them (`resolveSteps_eq_ok_iff`). The relation asks for entries only, so a
tree with more entries lets every way go on as before (`Resolves.mono`), and a way can be cut
wherever its steps can (`Resolves.append`).
-/

namespace JavaConstants

open FileSystem

/-- `Resolves root follow links here steps x`: from the directory `here` the steps lead to `x`. At
most `links` links are met; one at the end is followed only if `follow` is set. -/
inductive Resolves (root : Node) (follow : Bool) :
    Nat → List String → List PathStep → Place → Prop where
  /-- No steps lead nowhere else. -/
  | done {links : Nat} {here : List String} : Resolves root follow links here [] (.found here)
  /-- Staying needs a directory. -/
  | stay {links : Nat} {here : List String} {steps : List PathStep} {x : Place}
    (hhere : root.entryAt here = some .emptyDirectory)
    (h : Resolves root follow links here steps x) :
    Resolves root follow links here (.stay :: steps) x
  /-- Going up needs a directory as well. -/
  | up {links : Nat} {here : List String} {steps : List PathStep} {x : Place}
    (hhere : root.entryAt here = some .emptyDirectory)
    (h : Resolves root follow links here.dropLast steps x) :
    Resolves root follow links here (.up :: steps) x
  /-- The last name may be free. -/
  | free {links : Nat} {here : List String} {name : String}
    (hhere : root.entryAt here = some .emptyDirectory) (hfits : name.utf8ByteSize ≤ maxNameBytes)
    (hname : root.entryAt (here ++ [name]) = none) :
    Resolves root follow links here [.enter name] (.free here name)
  /-- A link at the end stands for itself if it is not followed. -/
  | lastLink {links : Nat} {here : List String} {name target : String}
    (hhere : root.entryAt here = some .emptyDirectory) (hfits : name.utf8ByteSize ≤ maxNameBytes)
    (hname : root.entryAt (here ++ [name]) = some (.link target)) (hfollow : follow = false) :
    Resolves root follow links here [.enter name] (.found (here ++ [name]))
  /-- A link gives way to its target. -/
  | link {links : Nat} {here : List String} {name target : String} {steps : List PathStep}
    {x : Place} (hhere : root.entryAt here = some .emptyDirectory)
    (hfits : name.utf8ByteSize ≤ maxNameBytes)
    (hname : root.entryAt (here ++ [name]) = some (.link target))
    (hlast : steps = [] → follow = true) (htarget : target ≠ "")
    (h : Resolves root follow links (start here ⟨target⟩) (Path.steps ⟨target⟩ ++ steps) x) :
    Resolves root follow (links + 1) here (.enter name :: steps) x
  /-- Anything else is entered. -/
  | enter {links : Nat} {here : List String} {name : String} {n : Node} {steps : List PathStep}
    {x : Place} (hhere : root.entryAt here = some .emptyDirectory)
    (hfits : name.utf8ByteSize ≤ maxNameBytes) (hname : root.entryAt (here ++ [name]) = some n)
    (hlink : ∀ target, n ≠ .link target)
    (h : Resolves root follow links (here ++ [name]) steps x) :
    Resolves root follow links here (.enter name :: steps) x

namespace Node

theorem entryAt_concat {n : Node} {p : List String} {es : List (String × Node)}
    (hp : n.find? p = some (directory es)) (name : String) :
    n.entryAt (p ++ [name]) = (es.find? (·.1 = name)).map (·.2.bare) := by
  rw [entryAt_append, hp, Option.bind_some, entryAt_cons, child?, entries]
  cases es.find? (·.1 = name) <;> rfl

theorem entryAt_concat_of_find? {n : Node} {p : List String} {es : List (String × Node)}
    {name : String} {e : String × Node} (hp : n.find? p = some (directory es))
    (he : es.find? (·.1 = name) = some e) : n.entryAt (p ++ [name]) = some e.2.bare := by
  rw [entryAt_concat hp, he, Option.map_some]

theorem bare_eq_link_iff {n : Node} {target : String} : n.bare = link target ↔ n = link target := by
  cases n with
  | directory es => exact ⟨nofun, nofun⟩
  | _ => exact Iff.rfl

end Node

/-! ## Soundness and completeness -/

theorem resolves_of_resolveSteps {root : Node} {follow : Bool} {links : Nat} {here : List String}
    {steps : List PathStep} {x : Place} (h : resolveSteps root follow links here steps = .ok x) :
    Resolves root follow links here steps x := by
  have hdirectory {p : List String} {es : List (String × Node)}
      (hp : root.find? p = some (.directory es)) : root.entryAt p = some .emptyDirectory :=
    Node.entryAt_eq_emptyDirectory_iff.mpr ⟨es, hp⟩
  fun_induction resolveSteps root follow links here steps with
  | case1 =>
    cases h
    exact .done
  | case2 links here steps es hes ih => exact .stay (hdirectory hes) (ih h)
  | case3 links here steps es hes ih => exact .up (hdirectory hes) (ih h)
  | case4 => cases h
  | case5 links here es hes name hfits hname =>
    cases h
    refine .free (hdirectory hes) (Nat.le_of_not_lt hfits) ?_
    rw [Node.entryAt_concat hes, hname]
    rfl
  | case6 => cases h
  | case7 links here steps es hes name hfits fst target hname hlast =>
    cases h
    rw [hlast.1]
    exact .lastLink (hdirectory hes) (Nat.le_of_not_lt hfits)
      (Node.entryAt_concat_of_find? hes hname) hlast.2
  | case8 => cases h
  | case9 => cases h
  | case10 here steps es hes name hfits fst target hname hlast links htarget path ih =>
    refine .link (hdirectory hes) (Nat.le_of_not_lt hfits)
      (Node.entryAt_concat_of_find? hes hname) ?_ htarget (ih h)
    intro hsteps
    cases hf : follow with
    | true => rfl
    | false => exact absurd ⟨hsteps, hf⟩ hlast
  | case11 links here steps es hes name hfits e hlink hname ih =>
    refine .enter (hdirectory hes) (Nat.le_of_not_lt hfits)
      (Node.entryAt_concat_of_find? hes hname) ?_ (ih h)
    intro target htarget
    exact hlink e.1 target (by rw [← Node.bare_eq_link_iff.mp htarget])
  | case12 => cases h

section Steps

variable {root : Node} {follow : Bool} {links : Nat} {here : List String} {name : String}
  {steps : List PathStep}

theorem exists_find?_link {target : String} (hhere : root.entryAt here = some .emptyDirectory)
    (hname : root.entryAt (here ++ [name]) = some (.link target)) :
    ∃ es k, root.find? here = some (.directory es) ∧
      es.find? (·.1 = name) = some (k, .link target) := by
  obtain ⟨es, hes⟩ := Node.entryAt_eq_emptyDirectory_iff.mp hhere
  rw [Node.entryAt_concat hes, Option.map_eq_some_iff] at hname
  obtain ⟨⟨k, n⟩, hfind, hbare⟩ := hname
  cases Node.bare_eq_link_iff.mp hbare
  exact ⟨es, k, hes, hfind⟩

theorem resolveSteps_nil : resolveSteps root follow links here [] = .ok (.found here) := by
  rw [resolveSteps]

theorem resolveSteps_stay (hhere : root.entryAt here = some .emptyDirectory) :
    resolveSteps root follow links here (.stay :: steps) =
      resolveSteps root follow links here steps := by
  obtain ⟨es, hes⟩ := Node.entryAt_eq_emptyDirectory_iff.mp hhere
  rw [resolveSteps]
  simp only [hes]

theorem resolveSteps_up (hhere : root.entryAt here = some .emptyDirectory) :
    resolveSteps root follow links here (.up :: steps) =
      resolveSteps root follow links here.dropLast steps := by
  obtain ⟨es, hes⟩ := Node.entryAt_eq_emptyDirectory_iff.mp hhere
  rw [resolveSteps]
  simp only [hes]

theorem resolveSteps_missing (hhere : root.entryAt here = some .emptyDirectory)
    (hfits : name.utf8ByteSize ≤ maxNameBytes) (hname : root.entryAt (here ++ [name]) = none) :
    resolveSteps root follow links here (.enter name :: steps) =
      if steps = [] then .ok (.free here name) else .error .notFound := by
  obtain ⟨es, hes⟩ := Node.entryAt_eq_emptyDirectory_iff.mp hhere
  rw [Node.entryAt_concat hes, Option.map_eq_none_iff] at hname
  rw [resolveSteps]
  simp only [hes, hname, if_neg (Nat.not_lt.mpr hfits)]

theorem resolveSteps_lastLink {target : String} (hhere : root.entryAt here = some .emptyDirectory)
    (hfits : name.utf8ByteSize ≤ maxNameBytes)
    (hname : root.entryAt (here ++ [name]) = some (.link target)) :
    resolveSteps root false links here [.enter name] = .ok (.found (here ++ [name])) := by
  obtain ⟨es, k, hes, hfind⟩ := exists_find?_link hhere hname
  rw [resolveSteps]
  simp only [hes, hfind, if_neg (Nat.not_lt.mpr hfits), and_self, if_true]

theorem resolveSteps_link {target : String} (hhere : root.entryAt here = some .emptyDirectory)
    (hfits : name.utf8ByteSize ≤ maxNameBytes)
    (hname : root.entryAt (here ++ [name]) = some (.link target))
    (hlast : steps = [] → follow = true) (htarget : target ≠ "") :
    resolveSteps root follow (links + 1) here (.enter name :: steps) =
      resolveSteps root follow links (start here ⟨target⟩) (Path.steps ⟨target⟩ ++ steps) := by
  obtain ⟨es, k, hes, hfind⟩ := exists_find?_link hhere hname
  have hfollowed : ¬ (steps = [] ∧ follow = false) := by
    rintro ⟨hsteps, hfollow⟩
    exact absurd ((hlast hsteps).symm.trans hfollow) nofun
  rw [resolveSteps]
  simp only [hes, hfind, if_neg (Nat.not_lt.mpr hfits), if_neg hfollowed, if_neg htarget]

theorem resolveSteps_enter {n : Node} (hhere : root.entryAt here = some .emptyDirectory)
    (hfits : name.utf8ByteSize ≤ maxNameBytes) (hname : root.entryAt (here ++ [name]) = some n)
    (hlink : ∀ target, n ≠ .link target) :
    resolveSteps root follow links here (.enter name :: steps) =
      resolveSteps root follow links (here ++ [name]) steps := by
  obtain ⟨es, hes⟩ := Node.entryAt_eq_emptyDirectory_iff.mp hhere
  rw [Node.entryAt_concat hes, Option.map_eq_some_iff] at hname
  obtain ⟨⟨k, m⟩, hfind, rfl⟩ := hname
  rw [resolveSteps]
  cases m with
  | link target => exact absurd rfl (hlink target)
  | _ => simp only [hes, hfind, if_neg (Nat.not_lt.mpr hfits)]

/-! A walk stops at a step that cannot be made. -/

theorem resolveSteps_notDirectory {step : PathStep}
    (hhere : root.entryAt here ≠ some .emptyDirectory) :
    resolveSteps root follow links here (step :: steps) = .error .notDirectory := by
  rw [resolveSteps]
  split
  · next es hes => exact absurd (Node.entryAt_eq_emptyDirectory_iff.mpr ⟨es, hes⟩) hhere
  · rfl

theorem resolveSteps_nameTooLong (hhere : root.entryAt here = some .emptyDirectory)
    (hfits : maxNameBytes < name.utf8ByteSize) :
    resolveSteps root follow links here (.enter name :: steps) = .error .nameTooLong := by
  obtain ⟨es, hes⟩ := Node.entryAt_eq_emptyDirectory_iff.mp hhere
  rw [resolveSteps]
  simp only [hes, if_pos hfits]

theorem resolveSteps_linkLoop {target : String} (hhere : root.entryAt here = some .emptyDirectory)
    (hfits : name.utf8ByteSize ≤ maxNameBytes)
    (hname : root.entryAt (here ++ [name]) = some (.link target))
    (hfollowed : ¬ (steps = [] ∧ follow = false)) :
    resolveSteps root follow 0 here (.enter name :: steps) = .error .linkLoop := by
  obtain ⟨es, k, hes, hfind⟩ := exists_find?_link hhere hname
  rw [resolveSteps]
  simp only [hes, hfind, if_neg (Nat.not_lt.mpr hfits), if_neg hfollowed]

theorem resolveSteps_emptyTarget (hhere : root.entryAt here = some .emptyDirectory)
    (hfits : name.utf8ByteSize ≤ maxNameBytes)
    (hname : root.entryAt (here ++ [name]) = some (.link ""))
    (hfollowed : ¬ (steps = [] ∧ follow = false)) :
    resolveSteps root follow (links + 1) here (.enter name :: steps) = .error .notFound := by
  obtain ⟨es, k, hes, hfind⟩ := exists_find?_link hhere hname
  rw [resolveSteps]
  simp only [hes, hfind, if_neg (Nat.not_lt.mpr hfits), if_neg hfollowed, if_true]

end Steps

/-- The function finds what the relation says, and nothing else. -/
theorem resolveSteps_eq_ok_iff {root : Node} {follow : Bool} {links : Nat} {here : List String}
    {steps : List PathStep} {x : Place} :
    resolveSteps root follow links here steps = .ok x ↔
      Resolves root follow links here steps x := by
  refine ⟨resolves_of_resolveSteps, fun h ↦ ?_⟩
  induction h with
  | done => exact resolveSteps_nil
  | stay hhere h ih => rwa [resolveSteps_stay hhere]
  | up hhere h ih => rwa [resolveSteps_up hhere]
  | free hhere hfits hname =>
    rw [resolveSteps_missing hhere hfits hname]
    rfl
  | lastLink hhere hfits hname hfollow =>
    rw [hfollow]
    exact resolveSteps_lastLink hhere hfits hname
  | link hhere hfits hname hlast htarget h ih =>
    rwa [resolveSteps_link hhere hfits hname hlast htarget]
  | enter hhere hfits hname hlink h ih => rwa [resolveSteps_enter hhere hfits hname hlink]

namespace Resolves

variable {root : Node} {follow : Bool} {links : Nat} {here : List String} {steps : List PathStep}

theorem unique {x y : Place} (hx : Resolves root follow links here steps x)
    (hy : Resolves root follow links here steps y) : x = y :=
  Except.ok.inj ((resolveSteps_eq_ok_iff.mpr hx).symm.trans (resolveSteps_eq_ok_iff.mpr hy))

/-! ## What a way that ends tells

Mostly by induction on the way. A link at its end is followed or not, and what holds in both cases
is stated for both. -/

theorem eq_of_nil {names : List String} (h : Resolves root follow links here [] (.found names)) :
    here = names := by
  cases h
  rfl

theorem eq_of_stays {names : List String} (hsteps : ∀ step ∈ steps, step = .stay)
    (h : Resolves root follow links here steps (.found names)) : here = names := by
  induction steps with
  | nil => exact h.eq_of_nil
  | cons step steps ih =>
    cases hsteps step List.mem_cons_self
    cases h with
    | stay _ h => exact ih (fun step hstep ↦ hsteps step (List.mem_cons_of_mem _ hstep)) h

theorem directory {x : Place} (h : Resolves root follow links here steps x) (hsteps : steps ≠ []) :
    root.entryAt here = some .emptyDirectory := by
  cases h with
  | done => exact absurd rfl hsteps
  | stay hdirectory => exact hdirectory
  | up hdirectory => exact hdirectory
  | free hdirectory => exact hdirectory
  | lastLink hdirectory => exact hdirectory
  | link hdirectory => exact hdirectory
  | enter hdirectory => exact hdirectory

theorem entryAt_enter_ne_none {name : String} {names : List String}
    (h : Resolves root follow links here (.enter name :: steps) (.found names)) :
    root.entryAt (here ++ [name]) ≠ none := by
  cases h with
  | lastLink _ _ hname => exact hname ▸ nofun
  | link _ _ hname => exact hname ▸ nofun
  | enter _ _ hname => exact hname ▸ nofun

theorem isSome_entryAt {names : List String}
    (h : Resolves root follow links here steps (.found names))
    (hhere : steps = [] → (root.entryAt here).isSome) : (root.entryAt names).isSome := by
  generalize hx : Place.found names = x at h
  induction h with
  | done =>
    cases hx
    exact hhere rfl
  | stay hdirectory h ih => exact ih (fun _ ↦ by rw [hdirectory]; rfl) hx
  | @up links here steps x hdirectory h ih =>
    refine ih (fun _ ↦ Node.isSome_entryAt_of_isPrefix (List.dropLast_prefix here) ?_) hx
    rw [hdirectory]
    rfl
  | free => cases hx
  | lastLink hdirectory hfits hname =>
    cases hx
    rw [hname]
    rfl
  | @link _ _ _ target _ _ _ _ _ _ _ h ih =>
    refine ih (fun hnil ↦ absurd (List.append_eq_nil_iff.mp hnil).1 ?_) hx
    exact Path.steps_ne_nil _
  | enter hdirectory hfits hname hlink h ih => exact ih (fun _ ↦ by rw [hname]; rfl) hx

/-- A way to a free name ends in the directory in which it is free. -/
theorem of_free {D : List String} {name : String}
    (h : Resolves root follow links here steps (.free D name)) :
    root.entryAt D = some .emptyDirectory ∧ root.entryAt (D ++ [name]) = none := by
  generalize hx : Place.free D name = x at h
  induction h with
  | done | lastLink => cases hx
  | stay _ _ ih | up _ _ ih | link _ _ _ _ _ _ ih | enter _ _ _ _ _ ih => exact ih hx
  | free hhere _ hname =>
    cases hx
    exact ⟨hhere, hname⟩

theorem fits {x : Place} (h : Resolves root follow links here steps x) {name : String}
    (hname : .enter name ∈ steps) : name.utf8ByteSize ≤ maxNameBytes := by
  induction h with
  | done => cases hname
  | stay hdirectory h ih => exact ih ((List.mem_cons.mp hname).resolve_left nofun)
  | up hdirectory h ih => exact ih ((List.mem_cons.mp hname).resolve_left nofun)
  | free hdirectory hfits _ => cases List.mem_singleton.mp hname; exact hfits
  | lastLink hdirectory hfits _ _ => cases List.mem_singleton.mp hname; exact hfits
  | link hdirectory hfits _ _ _ h ih =>
    rcases List.mem_cons.mp hname with hfirst | hlater
    · cases hfirst
      exact hfits
    · exact ih (List.mem_append_right _ hlater)
  | enter hdirectory hfits _ _ h ih =>
    rcases List.mem_cons.mp hname with hfirst | hlater
    · cases hfirst
      exact hfits
    · exact ih hlater

/-- Where more entries exist, a way goes on as before. -/
theorem mono {root' : Node} (hsub : root.Sub root') {names : List String}
    (h : Resolves root follow links here steps (.found names)) :
    Resolves root' follow links here steps (.found names) := by
  generalize hx : Place.found names = x at h
  induction h with
  | done => exact .done
  | stay hdirectory h ih => exact .stay (hsub _ _ hdirectory) (ih hx)
  | up hdirectory h ih => exact .up (hsub _ _ hdirectory) (ih hx)
  | free => cases hx
  | lastLink hdirectory hfits hname hfollow =>
    exact .lastLink (hsub _ _ hdirectory) hfits (hsub _ _ hname) hfollow
  | link hdirectory hfits hname hlast htarget h ih =>
    exact .link (hsub _ _ hdirectory) hfits (hsub _ _ hname) hlast htarget (ih hx)
  | enter hdirectory hfits hname hlink h ih =>
    exact .enter (hsub _ _ hdirectory) hfits (hsub _ _ hname) hlink (ih hx)

theorem followed {names : List String}
    (h : Resolves root follow links here steps (.found names))
    (hlink : ∀ target, root.entryAt names ≠ some (.link target)) :
    Resolves root true links here steps (.found names) := by
  generalize hx : Place.found names = x at h
  induction h with
  | done => exact .done
  | stay hdirectory h ih => exact .stay hdirectory (ih hx)
  | up hdirectory h ih => exact .up hdirectory (ih hx)
  | free => cases hx
  | lastLink hdirectory hfits hname hfollow =>
    cases hx
    exact absurd hname (hlink _)
  | link hdirectory hfits hname hlast htarget h ih =>
    exact .link hdirectory hfits hname (fun _ ↦ rfl) htarget (ih hx)
  | enter hdirectory hfits hname hnode h ih => exact .enter hdirectory hfits hname hnode (ih hx)

/-! ## Cutting a way -/

/-- A way can be cut before any of its steps. -/
theorem cut {front back : List PathStep} {x : Place} (hback : back ≠ [])
    (h : Resolves root follow links here (front ++ back) x) :
    ∃ D links', Resolves root true links here front (.found D) ∧
      Resolves root follow links' D back x := by
  generalize hsteps : front ++ back = steps at h
  induction h generalizing front with
  | done => exact absurd (List.append_eq_nil_iff.mp hsteps).2 hback
  | @stay links here _ x hdirectory h ih =>
    rcases List.append_eq_cons_iff.mp hsteps with ⟨rfl, rfl⟩ | ⟨rest, rfl, rfl⟩
    · exact ⟨here, links, .done, .stay hdirectory h⟩
    · obtain ⟨D, links', hfront, hrest⟩ := ih rfl
      exact ⟨D, links', .stay hdirectory hfront, hrest⟩
  | @up links here _ x hdirectory h ih =>
    rcases List.append_eq_cons_iff.mp hsteps with ⟨rfl, rfl⟩ | ⟨rest, rfl, rfl⟩
    · exact ⟨here, links, .done, .up hdirectory h⟩
    · obtain ⟨D, links', hfront, hrest⟩ := ih rfl
      exact ⟨D, links', .up hdirectory hfront, hrest⟩
  | @free links here _ hdirectory hfits hname =>
    rcases List.append_eq_cons_iff.mp hsteps with ⟨rfl, rfl⟩ | ⟨rest, rfl, hrest⟩
    · exact ⟨here, links, .done, .free hdirectory hfits hname⟩
    · exact absurd (List.append_eq_nil_iff.mp hrest.symm).2 hback
  | @lastLink links here _ _ hdirectory hfits hname hfollow =>
    rcases List.append_eq_cons_iff.mp hsteps with ⟨rfl, rfl⟩ | ⟨rest, rfl, hrest⟩
    · exact ⟨here, links, .done, .lastLink hdirectory hfits hname hfollow⟩
    · exact absurd (List.append_eq_nil_iff.mp hrest.symm).2 hback
  | @link links here name target _ x hdirectory hfits hname hlast htarget h ih =>
    rcases List.append_eq_cons_iff.mp hsteps with ⟨rfl, rfl⟩ | ⟨rest, rfl, rfl⟩
    · exact ⟨here, links + 1, .done, .link hdirectory hfits hname hlast htarget h⟩
    · obtain ⟨D, links', hfront, hrest⟩ := ih (List.append_assoc _ _ _)
      exact ⟨D, links', .link hdirectory hfits hname (fun _ ↦ rfl) htarget hfront, hrest⟩
  | @enter links here name n _ x hdirectory hfits hname hlink h ih =>
    rcases List.append_eq_cons_iff.mp hsteps with ⟨rfl, rfl⟩ | ⟨rest, rfl, rfl⟩
    · exact ⟨here, links, .done, .enter hdirectory hfits hname hlink h⟩
    · obtain ⟨D, links', hfront, hrest⟩ := ih rfl
      exact ⟨D, links', .enter hdirectory hfits hname hlink hfront, hrest⟩

theorem exists_resolveSteps_append {front : List PathStep} {D : List String}
    (h : Resolves root true links here front (.found D)) :
    ∃ links', ∀ follow back, back ≠ [] →
      resolveSteps root follow links here (front ++ back) =
        resolveSteps root follow links' D back := by
  generalize hx : Place.found D = x at h
  induction h with
  | @done links here =>
    cases hx
    exact ⟨links, fun _ _ _ ↦ rfl⟩
  | stay hdirectory h ih =>
    obtain ⟨links', hback⟩ := ih hx
    exact ⟨links', fun follow back hne ↦
      (resolveSteps_stay hdirectory).trans (hback follow back hne)⟩
  | up hdirectory h ih =>
    obtain ⟨links', hback⟩ := ih hx
    exact ⟨links', fun follow back hne ↦
      (resolveSteps_up hdirectory).trans (hback follow back hne)⟩
  | free => cases hx
  | lastLink _ _ _ hfollow => cases hfollow
  | link hdirectory hfits hname hlast htarget h ih =>
    obtain ⟨links', hback⟩ := ih hx
    refine ⟨links', fun follow back hne ↦ ?_⟩
    have hnotLast : ∀ rest : List PathStep, rest ++ back = [] → follow = true := fun rest hrest ↦
      absurd (List.append_eq_nil_iff.mp hrest).2 hne
    rw [List.cons_append, resolveSteps_link hdirectory hfits hname (hnotLast _) htarget,
      ← List.append_assoc]
    exact hback follow back hne
  | enter hdirectory hfits hname hlink h ih =>
    obtain ⟨links', hback⟩ := ih hx
    exact ⟨links', fun follow back hne ↦
      (resolveSteps_enter hdirectory hfits hname hlink).trans (hback follow back hne)⟩

end Resolves

end JavaConstants
