import JavaConstants.Proofs.StyleStatements

/-!
# Rules of a stylesheet

What the members of a stylesheet depend on (`selectorMembers_reads`): the selectors of its style
rules in their order, and nothing else. So other declarations, one more at-rule between two
statements or one less change nothing.

A change moves everything behind it, so tokens are compared without their positions. The positions
show in errors alone (`toOption_membersOf_placeless`).
-/

namespace JavaConstants

namespace Stylesheet

/-! ## Positions -/

/-- A token without its position. -/
def Token.placeless (t : Token) : Token := { t with stop := .start }

theorem Token.kind_placeless (t : Token) : t.placeless.kind = t.kind := rfl

/-- An item without its positions. -/
def Item.placeless : Item → Item
  | single t => single t.placeless
  | block opener text _ => block opener.placeless text .start
  | broken e => broken ⟨e.cause, .start⟩

/-- A block being read, without its positions. -/
def OpenBlock.placeless (b : OpenBlock) : OpenBlock :=
  { b with opener := b.opener.placeless, stop := .start }

/-- No item depends on positions but for its own. -/
theorem items_map_placeless (b : Option OpenBlock) (ts : List Token) :
    items (b.map OpenBlock.placeless) (ts.map Token.placeless) =
      (items b ts).map Item.placeless := by
  fun_induction items b ts with
  | case1 | case2 => rfl
  | case3 t ts cause hbroken | case7 b t ts cause hbroken =>
    rw [List.map_cons, items_broken (by exact hbroken)]
    rfl
  | case4 t ts _ bracket hopens ih =>
    rw [← ih]
    exact items_start (o := t.placeless) hopens _
  | case5 t ts hbroken hopens hblank ih =>
    rw [← ih, List.map_cons, Option.map_none, items, Token.kind_placeless, hbroken]
    simp only [hopens]
    rw [if_pos hblank]
  | case6 t ts hbroken hopens hblank ih =>
    rw [List.map_cons, List.map_cons, ← ih, Option.map_none, items, Token.kind_placeless, hbroken]
    simp only [hopens]
    rw [if_neg hblank]
    rfl
  | case8 b t ts _ _ bracket hopens ih =>
    rw [← ih]
    exact items_enter (b := b.placeless) (t := t.placeless) _ hopens
  | case9 b t ts _ _ _ hend houter ih =>
    rw [List.map_cons, List.map_cons, ← ih]
    exact items_end (b := b.placeless) (t := t.placeless) _ houter hend
  | case10 b t ts _ _ _ hend bracket outer houter ih =>
    -- The block read so far, as it stood in front of the bracket that ends here.
    rw [← ih]
    obtain ⟨opener, texts, stop, innermost, _⟩ := b
    cases houter
    exact items_leave (b := ⟨opener.placeless, texts, .start, bracket, outer⟩)
      (t := t.placeless) _ hend []
  | case11 b t ts hbroken _ hopens hend ih =>
    rw [← ih]
    exact items_token (b := b.placeless) (t := t.placeless) _ hopens hend hbroken

/-- A part of a selector without its position. -/
def SelectorPart.placeless (p : SelectorPart) : SelectorPart :=
  { p with token := p.token.placeless }

/-- A state of the reading without its positions. -/
def RuleState.placeless : RuleState → RuleState
  | selectors completed begun =>
    selectors (completed.map (·.map SelectorPart.placeless)) (begun.map SelectorPart.placeless)
  | atRule => atRule

theorem firstMember?_map_placeless (parts : List SelectorPart) :
    firstMember? (parts.map SelectorPart.placeless) = firstMember? parts := by
  rcases parts with _ | ⟨⟨⟨kind, text, stop⟩, raw⟩, rest⟩
  · rfl
  · by_cases hdot : kind = .delim '.'
    · subst hdot
      rcases rest with _ | ⟨second, rest⟩ <;> rfl
    · by_cases hcolon : kind = .colon
      · subst hcolon
        rcases rest with _ | ⟨second, _ | ⟨third, rest⟩⟩ <;> rfl
      · simp [firstMember?, SelectorPart.placeless, Token.placeless, hdot, hcolon]

theorem toOption_ruleMembers_placeless (stop stop' : Position)
    (selectors : List (List SelectorPart)) :
    (ruleMembers stop' (selectors.map (·.map SelectorPart.placeless))).toOption =
      (ruleMembers stop selectors).toOption := by
  rw [toOption_ruleMembers, toOption_ruleMembers]
  induction selectors with
  | nil => rfl
  | cons parts selectors ih =>
    rw [List.map_cons, List.mapM_cons, List.mapM_cons, ih, firstMember?_map_placeless]

theorem toOption_membersOf_placeless (stop stop' : Position) (s : RuleState) (is : List Item) :
    (membersOf stop' s.placeless (is.map Item.placeless)).toOption =
      (membersOf stop s is).toOption := by
  fun_induction membersOf stop s is with
  | case1 | case3 => rfl
  | case2 completed begun hne =>
    exact membersOf_end (s := (completed.map _, begun.map _)) (by simpa using hne)
  | case4 =>
    rw [List.map_cons, Item.placeless, membersOf]
    rfl
  -- Whether a rule was begun does not depend on positions, either.
  | case5 completed begun t rest _ hdocument ih =>
    rw [← ih, List.map_cons, RuleState.placeless, Item.placeless, membersOf, List.isEmpty_map,
      List.isEmpty_map, if_pos (by exact hdocument)]
    rfl
  | case6 completed begun t rest _ hdocument hkey ih =>
    rw [← ih, List.map_cons, RuleState.placeless, Item.placeless, membersOf, List.isEmpty_map,
      List.isEmpty_map, if_neg (by exact hdocument), if_pos (by exact hkey)]
    rfl
  | case7 completed begun t rest _ hdocument hkey text htext =>
    rw [List.map_cons, RuleState.placeless, Item.placeless, membersOf, List.isEmpty_map,
      List.isEmpty_map, if_neg (by exact hdocument), if_neg (by exact hkey), Token.kind_placeless,
      htext]
    rfl
  | case8 completed begun t rest _ hdocument hkey htext hcomma ih =>
    rw [← ih, List.map_cons, RuleState.placeless, Item.placeless, membersOf, List.isEmpty_map,
      List.isEmpty_map, if_neg (by exact hdocument), if_neg (by exact hkey), Token.kind_placeless,
      htext]
    simp only
    rw [if_pos hcomma, RuleState.placeless, List.map_cons, List.map_reverse, List.map_nil]
  | case9 completed begun t rest _ hdocument hkey htext hcomma ih =>
    rw [← ih, List.map_cons, RuleState.placeless, Item.placeless, membersOf, List.isEmpty_map,
      List.isEmpty_map, if_neg (by exact hdocument), if_neg (by exact hkey), Token.kind_placeless,
      htext]
    simp only
    rw [if_neg hcomma]
    rfl
  | case10 completed begun opener _ blockStop rest hopener ih =>
    rw [List.map_cons, RuleState.placeless, Item.placeless, membersOf, if_pos (by exact hopener),
      toOption_append, toOption_append, ← toOption_ruleMembers_placeless blockStop .start, ← ih,
      List.map_reverse, List.map_cons, List.map_reverse]
    rfl
  | case11 completed begun opener text blockStop rest hopener ih =>
    rw [← ih, List.map_cons, RuleState.placeless, Item.placeless, membersOf,
      if_neg (by exact hopener)]
    rfl
  | case12 t rest hsemicolon ih =>
    rw [← ih, List.map_cons, RuleState.placeless, Item.placeless, membersOf,
      if_pos (by exact hsemicolon)]
    rfl
  | case13 t rest hsemicolon text htext =>
    rw [List.map_cons, RuleState.placeless, Item.placeless, membersOf,
      if_neg (by exact hsemicolon), Token.kind_placeless, htext]
    rfl
  | case14 t rest hsemicolon htext ih =>
    rw [← ih, List.map_cons, RuleState.placeless, Item.placeless, membersOf,
      if_neg (by exact hsemicolon), Token.kind_placeless, htext]
  | case15 opener text blockStop rest ih =>
    rw [← ih, List.map_cons, RuleState.placeless, Item.placeless, membersOf, Token.kind_placeless]
    split_ifs <;> rfl

/-- The tokens of a stylesheet, without their positions. -/
def tokensOf (css : String) : List Token := (tokenize .start css.toList).map Token.placeless

theorem toOption_selectorMembers (css : String) :
    (selectorMembers css).toOption = (membersIn? (tokensOf css)).map (·.map String.ofList) := by
  have hitems : items none (tokensOf css) =
      (items none (tokenize .start css.toList)).map Item.placeless :=
    items_map_placeless none _
  have hmembers := toOption_membersOf_placeless (Position.start.advance css.toList) .start .between
    (items none (tokenize .start css.toList))
  rw [← hitems] at hmembers
  rw [selectorMembers, membersIn?]
  refine Eq.trans ?_ (congrArg (Option.map (·.map String.ofList)) hmembers.symm)
  rcases membersOf _ _ (items none (tokenize .start css.toList)) <;> rfl

theorem selectorMembers_eq_ok_iff {css : String} {ms : List String} :
    selectorMembers css = .ok ms ↔ membersIn? (tokensOf css) = some (ms.map String.toList) := by
  have hmembers := toOption_selectorMembers css
  constructor
  · intro hok
    rw [hok] at hmembers
    obtain ⟨ns, hns, hms⟩ := Option.map_eq_some_iff.mp hmembers.symm
    subst hms
    simpa using hns
  · intro hsome
    rw [hsome] at hmembers
    rcases hresult : selectorMembers css with e | ns
    · rw [hresult] at hmembers
      cases hmembers
    · rw [hresult] at hmembers
      have hns : ns = ms := by simpa [Except.toOption] using hmembers
      rw [hns]

/-! ## Changes

A change to a list of statements is one to a stylesheet only if the tokens are read as the changed
list. A statement that is complete ends by itself, so others may follow it; a last one may end
with the input only. -/

namespace Statement

/-- The tokens. -/
def tokens (x : Statement) : List Token := x.components.flatMap Component.tokens

/-- Whether a statement, with everything in it, ends before the input. -/
def Complete (x : Statement) : Prop := x.Ended ∧ ∀ c ∈ x.components, c.Closed

end Statement

section Changes

variable {α : Type} {p : α → Prop} {as bs cs : List α} {b b' : α}

theorem forall_mem_dropLast_replace (hb : p b → p b') (h : ∀ a ∈ (as ++ b :: cs).dropLast, p a) :
    ∀ a ∈ (as ++ b' :: cs).dropLast, p a := by
  rw [List.dropLast_append_cons, List.forall_mem_append] at h ⊢
  refine ⟨h.1, ?_⟩
  rcases cs with _ | ⟨c, cs⟩
  · exact List.forall_mem_nil _
  · exact List.forall_mem_cons.mpr ((List.forall_mem_cons.mp h.2).imp_left hb)

theorem forall_mem_dropLast_insert (has : ∀ a ∈ as, p a) (hbs : ∀ a ∈ bs, p a)
    (h : ∀ a ∈ (as ++ cs).dropLast, p a) : ∀ a ∈ (as ++ (bs ++ cs)).dropLast, p a := by
  rcases cs with _ | ⟨c, cs⟩
  · rw [List.append_nil]
    exact fun a ha ↦ List.forall_mem_append.mpr ⟨has, hbs⟩ a (List.dropLast_subset _ ha)
  · rw [List.dropLast_append_cons, List.forall_mem_append] at h
    rw [← List.append_assoc, List.dropLast_append_cons, List.forall_mem_append,
      List.forall_mem_append]
    exact ⟨⟨has, hbs⟩, h.2⟩

theorem forall_mem_dropLast_remove (h : ∀ a ∈ (as ++ (bs ++ cs)).dropLast, p a) :
    ∀ a ∈ (as ++ cs).dropLast, p a := by
  rcases cs with _ | ⟨c, cs⟩
  · rw [List.append_nil] at h ⊢
    rcases bs with _ | ⟨b, bs⟩
    · rwa [List.append_nil] at h
    · rw [List.dropLast_append_cons, List.forall_mem_append] at h
      exact fun a ha ↦ h.1 a (List.dropLast_subset _ ha)
  · rw [← List.append_assoc, List.dropLast_append_cons, List.forall_mem_append,
      List.forall_mem_append] at h
    rw [List.dropLast_append_cons, List.forall_mem_append]
    exact ⟨h.1.1, h.2⟩

end Changes

theorem reads_iff {sheet : List Statement} {ts : List Token} :
    Reads sheet ts ↔ sheet.flatMap Statement.tokens = ts ∧ (∀ x ∈ sheet, x.Valid) ∧
      (∀ x ∈ sheet.dropLast, x.Ended) ∧ (∀ c ∈ sheet.flatMap Statement.components, c.Valid) ∧
      ∀ c ∈ (sheet.flatMap Statement.components).dropLast, c.Closed := by
  have htokens : sheet.flatMap Statement.tokens =
      (sheet.flatMap Statement.components).flatMap Component.tokens :=
    (List.flatMap_assoc ..).symm
  constructor
  · rintro ⟨cs, ⟨rfl, hcs, hclosed⟩, rfl, hsheet, hended⟩
    exact ⟨htokens, hsheet, hended, hcs, hclosed⟩
  · rintro ⟨rfl, hsheet, hended, hcs, hclosed⟩
    exact ⟨_, ⟨htokens.symm, hcs, hclosed⟩, rfl, hsheet, hended⟩

section Reads

variable {pre post : List Statement} {x : Statement} {ts : List Token}

theorem Reads.remove (h : Reads (pre ++ x :: post) ts) :
    Reads (pre ++ post) ((pre ++ post).flatMap Statement.tokens) := by
  obtain ⟨-, hsheet, hended, hcs, hclosed⟩ := reads_iff.mp h
  -- Statements and components are removed in the same way, so they take the same form first.
  rw [List.append_cons, List.append_assoc] at hended
  simp only [List.flatMap_append, List.flatMap_cons, List.forall_mem_append, List.forall_mem_cons]
    at hsheet hcs hclosed
  refine reads_iff.mpr ⟨rfl, List.forall_mem_append.mpr ⟨hsheet.1, hsheet.2.2⟩,
    forall_mem_dropLast_remove hended, ?_, ?_⟩
  · rw [List.flatMap_append]
    exact List.forall_mem_append.mpr ⟨hcs.1, hcs.2.2⟩
  · rw [List.flatMap_append]
    exact forall_mem_dropLast_remove hclosed

/-- Inserting a statement where the ones before it are complete. -/
theorem Reads.insert (h : Reads (pre ++ post) ts) (hpre : ∀ y ∈ pre, y.Complete) (hx : x.Valid)
    (hcomponents : ∀ c ∈ x.components, c.Valid) (hcomplete : x.Complete) :
    Reads (pre ++ x :: post) ((pre ++ x :: post).flatMap Statement.tokens) := by
  obtain ⟨-, hsheet, hended, hcs, hclosed⟩ := reads_iff.mp h
  rw [List.flatMap_append, List.forall_mem_append] at hcs
  rw [List.flatMap_append] at hclosed
  rw [List.forall_mem_append] at hsheet
  have hpreClosed : ∀ c ∈ pre.flatMap Statement.components, c.Closed := by
    intro c hc
    obtain ⟨y, hy, hc⟩ := List.mem_flatMap.mp hc
    exact (hpre y hy).2 c hc
  have hendedInsert : ∀ y ∈ (pre ++ ([x] ++ post)).dropLast, y.Ended :=
    forall_mem_dropLast_insert (fun y hy ↦ (hpre y hy).1)
      (List.forall_mem_singleton.mpr hcomplete.1) hended
  refine reads_iff.mpr ⟨rfl, ?_, hendedInsert, ?_, ?_⟩
  · exact List.forall_mem_append.mpr ⟨hsheet.1, List.forall_mem_cons.mpr ⟨hx, hsheet.2⟩⟩
  · rw [List.flatMap_append, List.flatMap_cons]
    exact List.forall_mem_append.mpr ⟨hcs.1, List.forall_mem_append.mpr ⟨hcomponents, hcs.2⟩⟩
  · rw [List.flatMap_append, List.flatMap_cons]
    exact forall_mem_dropLast_insert hpreClosed hcomplete.2 hclosed

theorem Reads.replace {p : List Component} {o : Token} {us vs : List Token} {closer : Option Token}
    (h : Reads (pre ++ .style p (.block o us closer) :: post) ts) (hvs : Balanced vs) :
    Reads (pre ++ .style p (.block o vs closer) :: post)
      ((pre ++ .style p (.block o vs closer) :: post).flatMap Statement.tokens) := by
  obtain ⟨-, hsheet, hended, hcs, hclosed⟩ := reads_iff.mp h
  simp only [List.flatMap_append, List.flatMap_cons, Statement.components, List.append_assoc,
    List.forall_mem_append, List.forall_mem_cons, List.singleton_append] at hsheet hcs hclosed
  rw [← List.append_assoc] at hclosed
  obtain ⟨hpre, ⟨hstart, hp, hbraces⟩, hpost⟩ := hsheet
  have hstart' : StartsRule (p ++ [.block o vs closer]) := by
    rcases p with _ | ⟨c, p⟩
    · intro c hc
      cases hc
      -- Where the block comes first, it has no kind.
      simp [Component.kind?]
    · exact hstart
  have hblock : (Component.block o vs closer).Valid := by
    obtain ⟨-, -, hblock, -⟩ := hcs
    rcases closer with _ | c
    · obtain ⟨b, hopens, -⟩ := hblock
      exact ⟨b, hopens, .closed (hvs.contents b)⟩
    · obtain ⟨b, hopens, -, hend⟩ := hblock
      exact ⟨b, hopens, hvs.contents b, hend⟩
  refine reads_iff.mpr ⟨rfl, ?_, forall_mem_dropLast_replace (fun _ ↦ trivial) hended, ?_, ?_⟩
  · exact List.forall_mem_append.mpr
      ⟨hpre, List.forall_mem_cons.mpr ⟨⟨hstart', hp, hbraces⟩, hpost⟩⟩
  · simp only [List.flatMap_append, List.flatMap_cons, Statement.components, List.append_assoc,
      List.forall_mem_append, List.forall_mem_cons, List.singleton_append]
    exact ⟨hcs.1, hcs.2.1, hblock, hcs.2.2.2⟩
  · simp only [List.flatMap_append, List.flatMap_cons, Statement.components, List.append_assoc,
      List.singleton_append]
    rw [← List.append_assoc]
    exact forall_mem_dropLast_replace (b := .block o us closer) (fun h ↦ h) hclosed

theorem Reads.complete (h : Reads (pre ++ post) ts) (hpost : post ≠ []) :
    ∀ x ∈ pre, x.Complete := by
  obtain ⟨-, hsheet, hended, -, hclosed⟩ := reads_iff.mp h
  obtain ⟨y, post, rfl⟩ := List.exists_cons_of_ne_nil hpost
  have hy := Statement.components_ne_nil (hsheet y (by simp))
  obtain ⟨c, cs, hcs⟩ := List.exists_cons_of_ne_nil hy
  rw [List.dropLast_append_cons, List.forall_mem_append] at hended
  rw [List.flatMap_append, List.flatMap_cons, hcs, List.cons_append, List.dropLast_append_cons,
    List.forall_mem_append] at hclosed
  exact fun x hx ↦ ⟨hended.1 x hx, fun c hc ↦ hclosed.1 c (List.mem_flatMap.mpr ⟨x, hx, hc⟩)⟩

end Reads

/-- A statement without members in it changes nothing. -/
theorem sheetMembers?_insert {pre post : List Statement} {x : Statement}
    (h : x.members? = some []) :
    sheetMembers? (pre ++ x :: post) = sheetMembers? (pre ++ post) := by
  rw [sheetMembers?_append, sheetMembers?_append, sheetMembers?_cons, h]
  simp

theorem eq_nil_of_members?_atRule {k : Token} {p : List Component} {e : Option Component}
    {ms : List (List Char)} (h : (Statement.atRule k p e).members? = some ms) : ms = [] := by
  rw [Statement.members?] at h
  split_ifs at h
  exact (Option.some.inj h).symm

theorem members?_atRule_of_insert {pre post : List Statement} {k : Token} {p : List Component}
    {e : Option Component} {ms : List (List Char)}
    (h : sheetMembers? (pre ++ .atRule k p e :: post) = some ms) :
    (Statement.atRule k p e).members? = some [] := by
  rw [sheetMembers?_append, sheetMembers?_cons] at h
  obtain ⟨_, -, h⟩ := Option.bind_eq_some_iff.mp h
  obtain ⟨_, h, -⟩ := Option.map_eq_some_iff.mp h
  obtain ⟨ns, hns, -⟩ := Option.bind_eq_some_iff.mp h
  rw [hns, eq_nil_of_members?_atRule hns]

section Reads

variable {pre post : List Statement} {x : Statement} {p : List Component} {k o : Token}
  {e : Option Component} {us vs ts : List Token} {closer : Option Token} {ms : List (List Char)}

theorem Reads.membersIn?_replace
    (h : Reads (pre ++ .style p (.block o us closer) :: post) ts) (hms : membersIn? ts = some ms)
    (hvs : Balanced vs) (hbroken : ∀ t ∈ vs, t.kind.broken? = none) :
    membersIn? ((pre ++ .style p (.block o vs closer) :: post).flatMap Statement.tokens) =
      some ms := by
  rw [h.membersIn?_eq_some_iff, ← (reads_iff.mp h).1] at hms
  obtain ⟨htokens, hms⟩ := hms
  refine (h.replace hvs).membersIn?_eq_some_iff.mpr ⟨?_, ?_⟩
  · simp only [List.flatMap_append, List.flatMap_cons, Statement.tokens, Statement.components,
      Component.tokens, List.flatMap_nil, List.append_nil, List.forall_mem_append,
      List.forall_mem_cons] at htokens ⊢
    obtain ⟨hpre, ⟨hp, ho, -, hcloser⟩, hpost⟩ := htokens
    exact ⟨hpre, ⟨hp, ho, hbroken, hcloser⟩, hpost⟩
  · -- The members of a style rule depend on its prelude only.
    rw [sheetMembers?_append, sheetMembers?_cons] at hms ⊢
    exact hms

theorem Reads.membersIn?_remove (h : Reads (pre ++ .atRule k p e :: post) ts)
    (hms : membersIn? ts = some ms) :
    membersIn? ((pre ++ post).flatMap Statement.tokens) = some ms := by
  rw [h.membersIn?_eq_some_iff, ← (reads_iff.mp h).1] at hms
  obtain ⟨htokens, hms⟩ := hms
  refine h.remove.membersIn?_eq_some_iff.mpr ⟨?_, ?_⟩
  · simp only [List.flatMap_append, List.flatMap_cons, List.forall_mem_append] at htokens ⊢
    exact ⟨htokens.1, htokens.2.2⟩
  · rw [← sheetMembers?_insert (members?_atRule_of_insert hms), hms]

theorem Reads.membersIn?_insert (h : Reads (pre ++ post) ts) (hms : membersIn? ts = some ms)
    (h' : Reads (pre ++ .atRule k p e :: post) us)
    (hbroken : ∀ t ∈ (Statement.atRule k p e).tokens, t.kind.broken? = none)
    (hstray : ∀ c ∈ p, c.isStray = false) : membersIn? us = some ms := by
  rw [h.membersIn?_eq_some_iff, ← (reads_iff.mp h).1] at hms
  obtain ⟨htokens, hms⟩ := hms
  rw [h'.membersIn?_eq_some_iff, ← (reads_iff.mp h').1]
  constructor
  · simp only [List.flatMap_append, List.flatMap_cons, List.forall_mem_append] at htokens ⊢
    exact ⟨htokens.1, hbroken, htokens.2⟩
  · have hmembers : (Statement.atRule k p e).members? = some [] :=
      if_neg (by simpa using hstray)
    rw [sheetMembers?_insert hmembers, hms]

end Reads

/-- The members of a stylesheet are the first members of the selectors of its style rules in their
order, and these only. They stay the same with other balanced contents in the declarations of a
rule, with a complete at-rule put in where the statements before it are complete, and with any
at-rule taken out. -/
theorem selectorMembers_reads (css : String) :
    (∃ sheet, Reads sheet (tokensOf css)) ∧
      ∀ sheet ms, Reads sheet (tokensOf css) → selectorMembers css = .ok ms →
        ms.map (fun m ↦ some m.toList) = (sheet.flatMap Statement.selectors).map firstMember? ∧
        (∀ pre p o us closer post vs css', sheet = pre ++ .style p (.block o us closer) :: post →
          Balanced vs → (∀ t ∈ vs, t.kind.broken? = none) →
          tokensOf css' =
            (pre ++ .style p (.block o vs closer) :: post).flatMap Statement.tokens →
          selectorMembers css' = .ok ms) ∧
        (∀ pre k p e post css', sheet = pre ++ post → post ≠ [] ∨ (∀ y ∈ pre, y.Complete) →
          (Statement.atRule k p (some e)).Valid →
          (∀ c ∈ (Statement.atRule k p (some e)).components, c.Valid ∧ c.Closed) →
          tokensOf css' = (pre ++ .atRule k p (some e) :: post).flatMap Statement.tokens →
          (∀ ms', selectorMembers css' = .ok ms' → ms' = ms) ∧
          ((∀ t ∈ (Statement.atRule k p (some e)).tokens, t.kind.broken? = none) →
            (∀ c ∈ p, c.isStray = false) → selectorMembers css' = .ok ms)) ∧
        (∀ pre k p e post css', sheet = pre ++ .atRule k p e :: post →
          tokensOf css' = (pre ++ post).flatMap Statement.tokens →
          selectorMembers css' = .ok ms) := by
  refine ⟨exists_reads _, fun sheet ms hreads hok ↦ ?_⟩
  have hms := selectorMembers_eq_ok_iff.mp hok
  refine ⟨?_, ?_, ?_, ?_⟩
  · rw [map_firstMember?_selectors (hreads.membersIn?_eq_some_iff.mp hms).2, List.map_map]
    rfl
  · rintro pre p o us closer post vs css' rfl hvs hbroken htokens
    rw [selectorMembers_eq_ok_iff, htokens]
    exact hreads.membersIn?_replace hms hvs hbroken
  · rintro pre k p e post css' rfl hpre hvalid hcs htokens
    have hreads' : Reads (pre ++ .atRule k p (some e) :: post) (tokensOf css') := by
      rw [htokens]
      exact hreads.insert (hpre.elim hreads.complete id) hvalid (fun c hc ↦ (hcs c hc).1)
        ⟨rfl, fun c hc ↦ (hcs c hc).2⟩
    constructor
    · intro ms' hok'
      have hms' := selectorMembers_eq_ok_iff.mp hok'
      -- Without the at-rule, what it was put in is back.
      have hremoved := hreads'.membersIn?_remove hms'
      rw [(reads_iff.mp hreads).1, hms] at hremoved
      have hinjective : Function.Injective (List.map String.toList) :=
        List.map_injective_iff.mpr fun _ _ ↦ String.toList_injective
      exact (hinjective (Option.some.inj hremoved)).symm
    · intro hbroken hstray
      rw [selectorMembers_eq_ok_iff]
      exact hreads.membersIn?_insert hms hreads' hbroken hstray
  · rintro pre k p e post css' rfl htokens
    rw [selectorMembers_eq_ok_iff, htokens]
    exact hreads.membersIn?_remove hms

/-- The at-rule `@m;`. -/
def sampleAtRule : Statement :=
  .atRule ⟨.atKeyword, ['@', 'm'], .start⟩ [] (some (.token ⟨.semicolon, [';'], .start⟩))

/-- The rule of the class `a` with some tokens in its declarations. -/
def sampleRule (us : List Token) : Statement :=
  .style [.token ⟨.delim '.', ['.'], .start⟩, .token ⟨.ident, ['a'], .start⟩]
    (.block ⟨.opening .brace, ['{'], .start⟩ us (some ⟨.closing .brace, ['}'], .start⟩))

theorem sampleAtRule_valid : sampleAtRule.Valid ∧
    ∀ c ∈ sampleAtRule.components, c.Valid ∧ c.Closed := by
  refine ⟨⟨rfl, List.forall_mem_nil _, fun c hc ↦ ?_⟩, ?_⟩
  · cases hc
    rfl
  · simp [sampleAtRule, Statement.components, Component.Valid, Component.Closed, TokenKind.opens?]

theorem reads_sample : Reads [sampleAtRule, sampleRule [⟨.ident, ['b'], .start⟩]]
    (tokensOf "@m;.a\x7bb\x7d") := by
  have hrule : (sampleRule [⟨.ident, ['b'], .start⟩]).Valid := by
    refine ⟨fun c hc ↦ ?_, by simp [Component.isBraces], rfl⟩
    cases hc
    simp [Component.kind?]
  have hblock : Contents .brace [⟨.ident, ['b'], .start⟩] := .token rfl (by simp) .nil
  refine reads_iff.mpr ⟨by cbv, by simp [sampleAtRule_valid.1, hrule], ?_, ?_, ?_⟩
  · simp [sampleAtRule, Statement.Ended]
  · simp only [List.flatMap_cons, List.forall_mem_append]
    refine ⟨fun c hc ↦ (sampleAtRule_valid.2 c hc).1, ?_, List.forall_mem_nil _⟩
    simp [sampleRule, Statement.components, Component.Valid, TokenKind.opens?, hblock]
  · simp [sampleAtRule, sampleRule, Statement.components, Component.Closed]

theorem selectorMembers_reads_sample :
    selectorMembers "@m;.a\x7bb\x7d" = .ok [".a"] ∧
      selectorMembers "@m;.a\x7b[;]\x7d" = .ok [".a"] ∧
      selectorMembers "@m;@m;.a\x7bb\x7d" = .ok [".a"] ∧
      selectorMembers ".a\x7bb\x7d" = .ok [".a"] := by
  have hok : selectorMembers "@m;.a\x7bb\x7d" = .ok [".a"] := by cbv
  obtain ⟨-, hreplace, hinsert, hremove⟩ :=
    (selectorMembers_reads "@m;.a\x7bb\x7d").2 _ _ reads_sample hok
  refine ⟨hok, ?_, ?_, ?_⟩
  · have hcontents : Balanced [⟨.semicolon, [';'], .start⟩] := .token rfl (by simp) .nil
    have hvs : Balanced (⟨.opening .square, ['['], .start⟩ :: ([⟨.semicolon, [';'], .start⟩] ++
        [⟨.closing .square, [']'], .start⟩])) := .block rfl hcontents rfl .nil
    exact hreplace [sampleAtRule] _ _ _ _ [] _ _ rfl hvs (by simp [TokenKind.broken?]) (by cbv)
  · have hinserted := hinsert [sampleAtRule] ⟨.atKeyword, ['@', 'm'], .start⟩ [] _
      [sampleRule [⟨.ident, ['b'], .start⟩]] "@m;@m;.a\x7bb\x7d" rfl (.inl (List.cons_ne_nil _ _))
      sampleAtRule_valid.1 sampleAtRule_valid.2 (by cbv)
    refine hinserted.2 ?_ (List.forall_mem_nil _)
    simp [Statement.tokens, Statement.components, Component.tokens, TokenKind.broken?]
  · exact hremove [] _ _ _ _ _ rfl (by cbv)

end Stylesheet

end JavaConstants
