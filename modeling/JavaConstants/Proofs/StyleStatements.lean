import JavaConstants.Proofs.Results
import JavaConstants.Proofs.StyleBlocks

/-!
# Statements of a stylesheet

The grammar of a stylesheet at its top level, apart from the state of any reader: gaps, at-rules,
style rules and an unfinished prelude (`Statement`). Every list of tokens is a list of statements
(`exists_reads`). The selectors of a style rule are what stands between the commas of its prelude
(`selectorsOf`); no other statement has any.

The reader of the rules goes through the statements one by one: it ends each where the grammar does,
and the members it takes along depend on that statement alone (`toOption_membersOf_statement`). So
tokens have members iff none of them is broken and no statement is malformed
(`Reads.membersIn?_eq_some_iff`), and then every selector gives its first member
(`map_firstMember?_selectors`).
-/

namespace JavaConstants

namespace Stylesheet

/-! ## Statements -/

namespace Component

/-- The kind of the token, if the component is no block. -/
def kind? : Component → Option TokenKind
  | token t => some t.kind
  | block _ _ _ => none

/-- Whether a component is white space or a comment. -/
def isBlank (c : Component) : Bool := c.kind? == some .blank

/-- Whether a component is a comma. -/
def isComma (c : Component) : Bool := c.kind? == some .comma

/-- Whether a component is a block in braces. -/
def isBraces : Component → Bool
  | token _ => false
  | block opener _ _ => opener.kind == .opening .brace

/-- Whether a component ends an at-rule: a semicolon or a block in braces. -/
def endsAtRule (c : Component) : Bool := c.kind? == some .semicolon || c.isBraces

/-- Whether a component is a closing bracket, which closes nothing there. -/
def isStray (c : Component) : Bool := (c.kind?.bind TokenKind.closes?).isSome

/-- Whether a component cannot stand in a selector: a stray closing bracket or a semicolon. -/
def isUnexpected (c : Component) : Bool := c.isStray || c.kind? == some .semicolon

/-- The part of a selector that a component is. -/
def part (c : Component) : SelectorPart := ⟨c.first, Unicode.trimWhere Unicode.isBlank c.text⟩

end Component

/-- A statement of a stylesheet. -/
inductive Statement where
  /-- White space, a comment or a mark of the surrounding document between two rules. -/
  | gap (t : Token)
  /-- An at-rule with its prelude, and what ends it unless that is the end of the input. -/
  | atRule (keyword : Token) (prelude : List Component) (ending : Option Component)
  /-- A style rule with its prelude and its declarations. -/
  | style (prelude : List Component) (declarations : Component)
  /-- A prelude that nothing follows. -/
  | unfinished (prelude : List Component)

/-- Whether a style rule may start with some components: not with white space or a comment, with a
mark of the surrounding document or with the keyword of an at-rule. -/
def StartsRule (cs : List Component) : Prop :=
  ∀ c, cs.head? = some c →
    c.kind? ≠ some .blank ∧ c.kind? ≠ some .documentComment ∧ c.kind? ≠ some .atKeyword

namespace Statement

/-- The components. -/
def components : Statement → List Component
  | gap t => [.token t]
  | atRule keyword prelude ending => .token keyword :: (prelude ++ ending.toList)
  | style prelude declarations => prelude ++ [declarations]
  | unfinished prelude => prelude

/-- Whether a statement is what it says. -/
def Valid : Statement → Prop
  | gap t => t.kind = .blank ∨ t.kind = .documentComment
  | atRule keyword prelude ending =>
    keyword.kind = .atKeyword ∧ (∀ c ∈ prelude, c.endsAtRule = false) ∧
      ∀ c ∈ ending, c.endsAtRule = true
  | style prelude declarations =>
    StartsRule (prelude ++ [declarations]) ∧ (∀ c ∈ prelude, c.isBraces = false) ∧
      declarations.isBraces = true
  | unfinished prelude =>
    prelude ≠ [] ∧ StartsRule prelude ∧ ∀ c ∈ prelude, c.isBraces = false

/-- Whether a statement ends before the input. -/
def Ended : Statement → Prop
  | gap _ => True
  | atRule _ _ ending => ending.isSome
  | style _ _ => True
  | unfinished _ => False

end Statement

/-- The selectors in a prelude: what stands between its commas. -/
def selectorsOf (prelude : List Component) : List (List SelectorPart) :=
  ((prelude.filter (!·.isBlank)).splitOnP Component.isComma).map (·.map Component.part)

/-- The selectors of a style rule; other statements have none. -/
def Statement.selectors : Statement → List (List SelectorPart)
  | style prelude _ => selectorsOf prelude
  | _ => []

/-- The statements that some components make up. Only the last can be without an end. -/
structure Statements (sheet : List Statement) (cs : List Component) : Prop where
  /-- The components are those of the statements. -/
  components : sheet.flatMap Statement.components = cs
  /-- Every statement is what it says. -/
  valid : ∀ x ∈ sheet, x.Valid
  /-- Every statement but the last ends before the input. -/
  ended : ∀ x ∈ sheet.dropLast, x.Ended

/-- The statements of a stylesheet with some tokens. -/
def Reads (sheet : List Statement) (ts : List Token) : Prop :=
  ∃ cs, Components cs ts ∧ Statements sheet cs

theorem Statements.cons {x : Statement} {sheet : List Statement} {cs : List Component}
    (hvalid : x.Valid) (hended : x.Ended) (h : Statements sheet cs) :
    Statements (x :: sheet) (x.components ++ cs) where
  components := by rw [List.flatMap_cons, h.components]
  valid := List.forall_mem_cons.mpr ⟨hvalid, h.valid⟩
  ended := forall_mem_dropLast_cons hended h.ended

theorem Statements.singleton {x : Statement} (hvalid : x.Valid) : Statements [x] x.components where
  components := List.flatMap_singleton _ x
  valid := List.forall_mem_singleton.mpr hvalid
  ended := List.forall_mem_nil _

theorem Statement.components_ne_nil {x : Statement} (h : x.Valid) : x.components ≠ [] := by
  cases x with
  | gap | atRule => exact List.cons_ne_nil _ _
  | style => exact List.append_ne_nil_of_right_ne_nil _ (List.cons_ne_nil _ _)
  | unfinished => exact h.1

section First

variable {cs : List Component}

theorem exists_style (hstart : StartsRule cs) (hne : cs ≠ []) :
    ∃ (x : Statement) (rest : List Component),
      x.components ++ rest = cs ∧ x.Valid ∧ (x.Ended ∨ rest = []) := by
  rcases hfind : cs.find? Component.isBraces with _ | b
  · have hvalid : (Statement.unfinished cs).Valid := ⟨hne, hstart, by simpa using hfind⟩
    exact ⟨.unfinished cs, [], List.append_nil cs, hvalid, .inr rfl⟩
  · obtain ⟨hb, prelude, rest, rfl, h⟩ := List.find?_eq_some_iff_append.mp hfind
    have hvalid : (Statement.style prelude b).Valid := by
      refine ⟨fun c hc ↦ hstart c ?_, by simpa using h, hb⟩
      rw [List.append_cons, List.head?_append, hc]
      rfl
    exact ⟨_, rest, (List.append_cons ..).symm, hvalid, .inl trivial⟩

theorem exists_atRule {t : Token} (hkey : t.kind = .atKeyword) :
    ∃ (x : Statement) (rest : List Component),
      x.components ++ rest = .token t :: cs ∧ x.Valid ∧ (x.Ended ∨ rest = []) := by
  rcases hfind : cs.find? Component.endsAtRule with _ | e
  · have hvalid : (Statement.atRule t cs none).Valid := ⟨hkey, by simpa using hfind, by simp⟩
    exact ⟨_, [], by simp [Statement.components], hvalid, .inr rfl⟩
  · obtain ⟨he, prelude, rest, rfl, h⟩ := List.find?_eq_some_iff_append.mp hfind
    have hvalid : (Statement.atRule t prelude (some e)).Valid :=
      ⟨hkey, by simpa using h, by simpa using he⟩
    exact ⟨_, rest, by simp [Statement.components], hvalid, .inl rfl⟩

theorem exists_statement (hne : cs ≠ []) :
    ∃ (x : Statement) (rest : List Component),
      x.components ++ rest = cs ∧ x.Valid ∧ (x.Ended ∨ rest = []) := by
  by_cases hstart : StartsRule cs
  · exact exists_style hstart hne
  · simp only [StartsRule, not_forall] at hstart
    obtain ⟨c, hhead, hkind⟩ := hstart
    obtain ⟨cs, rfl⟩ := List.head?_eq_some_iff.mp hhead
    cases c with
    | token t =>
      by_cases hkey : t.kind = .atKeyword
      · exact exists_atRule hkey
      · have hvalid : (Statement.gap t).Valid := by
          by_contra hgap
          rw [Statement.Valid, not_or] at hgap
          exact hkind (by simp [Component.kind?, hgap, hkey])
        exact ⟨_, cs, rfl, hvalid, .inl trivial⟩
    | block => exact absurd (by simp [Component.kind?]) hkind

end First

theorem exists_statements (cs : List Component) : ∃ sheet, Statements sheet cs := by
  induction hlength : cs.length using Nat.strongRecOn generalizing cs with
  | _ n ih =>
    subst hlength
    by_cases hne : cs = []
    · exact ⟨[], hne.symm, List.forall_mem_nil _, List.forall_mem_nil _⟩
    · obtain ⟨x, rest, rfl, hvalid, hended | rfl⟩ := exists_statement hne
      · have hlt : rest.length < (x.components ++ rest).length := by
          have hpos := List.length_pos_iff.mpr (Statement.components_ne_nil hvalid)
          rw [List.length_append]
          omega
        obtain ⟨sheet, hsheet⟩ := ih rest.length hlt rest rfl
        exact ⟨x :: sheet, hsheet.cons hvalid hended⟩
      · rw [List.append_nil]
        exact ⟨[x], .singleton hvalid⟩

/-- All tokens make up some stylesheet. -/
theorem exists_reads (ts : List Token) : ∃ sheet, Reads sheet ts := by
  obtain ⟨cs, hcs⟩ := exists_components ts
  obtain ⟨sheet, hsheet⟩ := exists_statements cs
  exact ⟨sheet, cs, hcs, hsheet⟩

/-! ## Members

The reader keeps the selectors that a prelude has so far and the parts of the last one. Its state
after some components is what `advance` makes of them one by one, as long as none of them is
unexpected. -/

/-- The members of the selectors of a statement. None where it is malformed. -/
def Statement.members? : Statement → Option (List (List Char))
  | gap _ => some []
  | atRule _ prelude _ => if prelude.any Component.isStray then none else some []
  | style prelude _ =>
    if prelude.any Component.isUnexpected then none else (selectorsOf prelude).mapM firstMember?
  | unfinished _ => none

/-- The members of the statements of a stylesheet. -/
def sheetMembers? (sheet : List Statement) : Option (List (List Char)) :=
  (sheet.mapM Statement.members?).map List.flatten

theorem sheetMembers?_append (pre post : List Statement) :
    sheetMembers? (pre ++ post) =
      (sheetMembers? pre).bind fun ms ↦ (sheetMembers? post).map (ms ++ ·) := by
  rw [sheetMembers?, sheetMembers?, sheetMembers?, List.mapM_append]
  rcases pre.mapM Statement.members? with _ | mss
  · rfl
  · rcases post.mapM Statement.members? with _ | nss
    · rfl
    · exact congrArg some List.flatten_append

theorem sheetMembers?_cons (x : Statement) (sheet : List Statement) :
    sheetMembers? (x :: sheet) = x.members?.bind fun ms ↦ (sheetMembers? sheet).map (ms ++ ·) := by
  rw [sheetMembers?, sheetMembers?, List.mapM_cons]
  rcases x.members? with _ | ms
  · rfl
  · rcases sheet.mapM Statement.members? <;> rfl

theorem filterMap_item?_cons (c : Component) (cs : List Component) :
    (c :: cs).filterMap Component.item? = c.item?.toList ++ cs.filterMap Component.item? := by
  rcases hitem : c.item? with _ | i <;> simp [hitem]

/-- The selectors completed and begun, last first, once a component is read. -/
def advance (s : List (List SelectorPart) × List SelectorPart) (c : Component) :
    List (List SelectorPart) × List SelectorPart :=
  if c.isBlank then s
  else if c.isComma then (s.2.reverse :: s.1, [])
  else (s.1, c.part :: s.2)

theorem item?_eq_none_iff {c : Component} : c.item? = none ↔ c.isBlank = true := by
  cases c <;> simp [Component.item?, Component.isBlank, Component.kind?]

theorem isSome_unexpected? {t : Token} :
    t.kind.unexpected?.isSome = (Component.token t).isUnexpected := by
  simp only [Component.isUnexpected, Component.isStray, Component.kind?, Option.bind_some]
  cases t.kind with
  | closing b => cases b <;> rfl
  | _ => rfl

theorem toOption_ruleMembers (stop : Position) (selectors : List (List SelectorPart)) :
    (ruleMembers stop selectors).toOption = selectors.mapM firstMember? := by
  rw [ruleMembers, toOption_mapM]
  refine congrArg (List.mapM · selectors) (funext fun parts ↦ ?_)
  rcases firstMember? parts <;> rfl

theorem toOption_append (ms others : Except StyleError (List (List Char))) :
    (do
      let ms ← ms
      let others ← others
      .ok (ms ++ others) : Except StyleError (List (List Char))).toOption =
      ms.toOption.bind fun ms ↦ others.toOption.map (ms ++ ·) := by
  rcases ms with e | ms
  · rfl
  · rcases others with e | others <;> rfl

section Preludes

variable {stop : Position} {s : List (List SelectorPart) × List SelectorPart} {c : Component}
  {cs : List Component} {rest : List Item}

/-- Whether a component goes into the selectors: where none is begun, a mark of the surrounding
document or a keyword does not. -/
def Component.Goes (s : List (List SelectorPart) × List SelectorPart) (c : Component) : Prop :=
  s = ([], []) → c.kind? ≠ some .documentComment ∧ c.kind? ≠ some .atKeyword

theorem Component.Goes.of_token {t : Token} (h : (Component.token t).Goes s) :
    ((s.1.isEmpty && s.2.isEmpty) && t.kind == .documentComment) = false ∧
      ((s.1.isEmpty && s.2.isEmpty) && t.kind == .atKeyword) = false := by
  obtain ⟨completed, begun⟩ := s
  cases completed with
  | cons => exact ⟨rfl, rfl⟩
  | nil =>
    cases begun with
    | cons => exact ⟨rfl, rfl⟩
    | nil => simpa [Component.Goes, Component.kind?] using h

/-- One component leads to the next state, or to an error. -/
theorem toOption_membersOf_component (hbraces : c.isBraces = false) (hgoes : c.Goes s) :
    (membersOf stop (.selectors s.1 s.2) (c.item?.toList ++ rest)).toOption =
      if c.isUnexpected then none
      else (membersOf stop (.selectors (advance s c).1 (advance s c).2) rest).toOption := by
  cases c with
  | token t =>
    rw [← isSome_unexpected?]
    by_cases hblank : t.kind = .blank
    · have hisBlank : (Component.token t).isBlank = true := beq_iff_eq.mpr (congrArg some hblank)
      rw [item?_eq_none_iff.mpr hisBlank, advance, if_pos hisBlank, hblank]
      rfl
    · have hisBlank : ¬(Component.token t).isBlank = true := by
        simpa [Component.isBlank, Component.kind?] using hblank
      rw [Component.item?, if_neg hblank, Option.toList_some, List.singleton_append, membersOf,
        hgoes.of_token.1, hgoes.of_token.2, advance, if_neg hisBlank]
      simp only [Bool.false_eq_true, if_false]
      rcases t.kind.unexpected? with _ | text
      · simp only [Option.isSome_none, Bool.false_eq_true, if_false]
        by_cases hcomma : t.kind = .comma
        · rw [if_pos hcomma, if_pos (by simpa [Component.isComma, Component.kind?] using hcomma)]
        · rw [if_neg hcomma, if_neg (by simpa [Component.isComma, Component.kind?] using hcomma)]
          simp [Component.part, Component.first, Component.text, Component.tokens]
      · rfl
  | block o us c =>
    have hopener : o.kind ≠ .opening .brace := by simpa [Component.isBraces] using hbraces
    rw [Component.item?, Option.toList_some, List.singleton_append, membersOf, if_neg hopener]
    rfl

theorem advance_ne (h : s ≠ ([], []) ∨ c.isBlank = false) : advance s c ≠ ([], []) := by
  rw [advance]
  split_ifs with hblank hcomma
  · exact h.resolve_right fun hfalse ↦ by rw [hblank] at hfalse; cases hfalse
  · exact fun heq ↦ List.cons_ne_nil _ _ (congrArg Prod.fst heq)
  · exact fun heq ↦ List.cons_ne_nil _ _ (congrArg Prod.snd heq)

/-- A whole prelude leads to the state its components come to, or to an error. -/
theorem toOption_membersOf_prelude (hbraces : ∀ c ∈ cs, c.isBraces = false)
    (hstart : s = ([], []) → StartsRule cs) :
    (membersOf stop (.selectors s.1 s.2) (cs.filterMap Component.item? ++ rest)).toOption =
      if cs.any Component.isUnexpected then none
      else
        (membersOf stop (.selectors (cs.foldl advance s).1 (cs.foldl advance s).2)
          rest).toOption := by
  induction cs generalizing s with
  | nil => rfl
  | cons c cs ih =>
    rw [List.forall_mem_cons] at hbraces
    -- The condition on the first component is used up here: behind it, a rule is begun.
    have hgoes : c.Goes s := fun hs ↦ (hstart hs c rfl).2
    have hne : advance s c ≠ ([], []) := by
      refine advance_ne ?_
      by_cases hs : s = ([], [])
      · exact .inr (beq_eq_false_iff_ne.mpr (hstart hs c rfl).1)
      · exact .inl hs
    rw [filterMap_item?_cons, List.append_assoc, toOption_membersOf_component hbraces.1 hgoes,
      ih hbraces.2 fun hs ↦ absurd hs hne, List.any_cons, List.foldl_cons]
    rcases c.isUnexpected <;> rfl

theorem toOption_membersOf_atRule_component (hends : c.endsAtRule = false) :
    (membersOf stop .atRule (c.item?.toList ++ rest)).toOption =
      if c.isStray then none else (membersOf stop .atRule rest).toOption := by
  rw [Component.endsAtRule, Bool.or_eq_false_iff] at hends
  cases c with
  | token t =>
    have hsemicolon : ¬t.kind = .semicolon := by
      intro h
      rw [show (Component.token t).kind? = some .semicolon from congrArg some h] at hends
      cases hends.1
    have hstray : (Component.token t).isStray = t.kind.unexpected?.isSome := by
      rw [isSome_unexpected?, Component.isUnexpected, hends.1, Bool.or_false]
    rw [hstray, Component.item?]
    by_cases hblank : t.kind = .blank
    · rw [if_pos hblank, hblank]
      rfl
    · rw [if_neg hblank, Option.toList_some, List.singleton_append, membersOf, if_neg hsemicolon]
      rcases t.kind.unexpected? <;> rfl
  | block o us c =>
    have hopener : o.kind ≠ .opening .brace := by simpa [Component.isBraces] using hends.2
    rw [Component.item?, Option.toList_some, List.singleton_append, membersOf, if_neg hopener]
    rfl

theorem toOption_membersOf_atRule (hends : ∀ c ∈ cs, c.endsAtRule = false) :
    (membersOf stop .atRule (cs.filterMap Component.item? ++ rest)).toOption =
      if cs.any Component.isStray then none else (membersOf stop .atRule rest).toOption := by
  induction cs with
  | nil => rfl
  | cons c cs ih =>
    rw [List.forall_mem_cons] at hends
    rw [filterMap_item?_cons, List.append_assoc, toOption_membersOf_atRule_component hends.1,
      ih hends.2, List.any_cons]
    rcases c.isStray <;> rfl

@[simp] theorem selectorsOf_nil : selectorsOf [] = [[]] := by simp [selectorsOf]

theorem selectorsOf_cons (c : Component) (cs : List Component) :
    selectorsOf (c :: cs) =
      if c.isBlank then selectorsOf cs
      else if c.isComma then [] :: selectorsOf cs
      else (selectorsOf cs).modifyHead (c.part :: ·) := by
  rw [selectorsOf, selectorsOf]
  rcases hblank : c.isBlank
  · rw [List.filter_cons_of_pos (by rw [hblank]; rfl), List.splitOnP_cons_eq_if_modifyHead,
      if_neg Bool.false_ne_true]
    split_ifs
    · rfl
    · rcases List.splitOnP Component.isComma (cs.filter (!·.isBlank)) <;> rfl
  · rw [List.filter_cons_of_neg (by rw [hblank]; decide), if_pos rfl]

theorem selectors_foldl_advance (cs : List Component)
    (s : List (List SelectorPart) × List SelectorPart) :
    ((cs.foldl advance s).2.reverse :: (cs.foldl advance s).1).reverse =
      s.1.reverse ++ (selectorsOf cs).modifyHead (s.2.reverse ++ ·) := by
  induction cs generalizing s with
  | nil => simp
  | cons c cs ih =>
    rw [List.foldl_cons, ih, advance, selectorsOf_cons]
    split_ifs with hblank hcomma
    · rfl
    · rcases selectorsOf cs <;> simp
    · simp [Function.comp_def]

theorem foldl_advance_ne (hstart : s = ([], []) → cs ≠ [] ∧ StartsRule cs) :
    cs.foldl advance s ≠ ([], []) := by
  induction cs generalizing s with
  | nil => exact fun hs ↦ (hstart hs).1 rfl
  | cons c cs ih =>
    refine ih fun hs ↦ absurd hs (advance_ne ?_)
    by_cases hs : s = ([], [])
    · exact .inr (beq_eq_false_iff_ne.mpr ((hstart hs).2 c rfl).1)
    · exact .inl hs

end Preludes

section Statements

variable {stop : Position} {rest : List Item}

theorem membersOf_gap {t : Token} (h : t.kind = .blank ∨ t.kind = .documentComment) :
    membersOf stop .between ((Component.token t).item?.toList ++ rest) =
      membersOf stop .between rest := by
  rw [Component.item?]
  rcases h with h | h
  · rw [if_pos h]
    rfl
  · rw [if_neg (by simp [h]), Option.toList_some, List.singleton_append, RuleState.between,
      membersOf, h]
    rfl

theorem membersOf_keyword {t : Token} (h : t.kind = .atKeyword) :
    membersOf stop .between ((Component.token t).item?.toList ++ rest) =
      membersOf stop .atRule rest := by
  rw [Component.item?, if_neg (by simp [h]), Option.toList_some, List.singleton_append,
    RuleState.between, membersOf, h]
  rfl

theorem membersOf_ending {c : Component} (h : c.endsAtRule = true) :
    membersOf stop .atRule (c.item?.toList ++ rest) = membersOf stop .between rest := by
  cases c with
  | token t =>
    have hsemicolon : t.kind = .semicolon := by
      simpa [Component.endsAtRule, Component.kind?, Component.isBraces] using h
    rw [Component.item?, if_neg (by simp [hsemicolon]), Option.toList_some, List.singleton_append,
      membersOf, if_pos hsemicolon]
  | block o us c =>
    have hopener : o.kind = .opening .brace := by
      simpa [Component.endsAtRule, Component.kind?, Component.isBraces] using h
    rw [Component.item?, Option.toList_some, List.singleton_append, membersOf, if_pos hopener]

theorem toOption_membersOf_braces {c : Component} (h : c.isBraces = true)
    (s : List (List SelectorPart) × List SelectorPart) :
    (membersOf stop (.selectors s.1 s.2) (c.item?.toList ++ rest)).toOption =
      ((s.2.reverse :: s.1).reverse.mapM firstMember?).bind fun ms ↦
        (membersOf stop .between rest).toOption.map (ms ++ ·) := by
  cases c with
  | token => cases h
  | block o us c =>
    rw [Component.item?, Option.toList_some, List.singleton_append, membersOf,
      if_pos (beq_iff_eq.mp h), toOption_append, toOption_ruleMembers]

theorem membersOf_end {s : List (List SelectorPart) × List SelectorPart} (h : s ≠ ([], [])) :
    (membersOf stop (.selectors s.1 s.2) []).toOption = none := by
  rcases s with ⟨_ | _, _ | _⟩
  · exact absurd rfl h
  all_goals rfl

theorem toOption_membersOf_start {cs : List Component} (hbraces : ∀ c ∈ cs, c.isBraces = false)
    (hstart : StartsRule cs) :
    (membersOf stop .between (cs.filterMap Component.item? ++ rest)).toOption =
      if cs.any Component.isUnexpected then none
      else
        (membersOf stop (.selectors (cs.foldl advance ([], [])).1 (cs.foldl advance ([], [])).2)
          rest).toOption :=
  toOption_membersOf_prelude (s := ([], [])) hbraces fun _ ↦ hstart

theorem toOption_membersOf_whole_atRule {k : Token} {prelude : List Component}
    {ending : Option Component} (hvalid : (Statement.atRule k prelude ending).Valid)
    (hended : ending.isSome ∨ rest = []) :
    (membersOf stop .between
      ((Statement.atRule k prelude ending).components.filterMap Component.item? ++ rest)).toOption =
      if prelude.any Component.isStray then none
      else (membersOf stop .between rest).toOption := by
  obtain ⟨hkey, hprelude, hending⟩ := hvalid
  have hrest : membersOf stop .atRule (ending.toList.filterMap Component.item? ++ rest) =
      membersOf stop .between rest := by
    cases ending with
    | none =>
      obtain rfl := hended.resolve_left Bool.false_ne_true
      rfl
    | some e =>
      rw [Option.toList_some, filterMap_item?_cons, List.append_assoc,
        membersOf_ending (hending e rfl)]
      rfl
  rw [Statement.components, filterMap_item?_cons, List.append_assoc, membersOf_keyword hkey,
    List.filterMap_append, List.append_assoc, toOption_membersOf_atRule hprelude, hrest]

theorem toOption_membersOf_style {prelude : List Component} {b : Component}
    (hvalid : (Statement.style prelude b).Valid) :
    (membersOf stop .between
      ((Statement.style prelude b).components.filterMap Component.item? ++ rest)).toOption =
      if prelude.any Component.isUnexpected then none
      else ((selectorsOf prelude).mapM firstMember?).bind fun ms ↦
        (membersOf stop .between rest).toOption.map (ms ++ ·) := by
  obtain ⟨hstart, hprelude, hb⟩ := hvalid
  have hstart' : StartsRule prelude := fun c hc ↦ hstart c (by rw [List.head?_append, hc]; rfl)
  have hselectors : ((prelude.foldl advance ([], [])).2.reverse ::
      (prelude.foldl advance ([], [])).1).reverse = selectorsOf prelude := by
    rw [selectors_foldl_advance]
    rcases selectorsOf prelude <;> rfl
  rw [Statement.components, List.filterMap_append, List.append_assoc,
    toOption_membersOf_start hprelude hstart', filterMap_item?_cons, List.filterMap_nil,
    List.append_nil, toOption_membersOf_braces hb, hselectors]

theorem toOption_membersOf_statement {x : Statement} (hvalid : x.Valid)
    (hended : x.Ended ∨ rest = []) :
    (membersOf stop .between (x.components.filterMap Component.item? ++ rest)).toOption =
      x.members?.bind fun ms ↦ (membersOf stop .between rest).toOption.map (ms ++ ·) := by
  cases x with
  | gap t =>
    rw [Statement.components, filterMap_item?_cons, List.append_assoc, membersOf_gap hvalid]
    simp [Statement.members?]
  | atRule k prelude ending =>
    rw [toOption_membersOf_whole_atRule hvalid hended, Statement.members?]
    split_ifs
    · rfl
    · simp
  | style prelude b =>
    rw [toOption_membersOf_style hvalid, Statement.members?]
    split_ifs <;> rfl
  | unfinished prelude =>
    -- The input ends behind the prelude, which a rule was begun with.
    obtain rfl := hended.resolve_left id
    obtain ⟨hne, hstart, hprelude⟩ := hvalid
    rw [Statement.components, toOption_membersOf_start hprelude hstart,
      membersOf_end (foldl_advance_ne fun _ ↦ ⟨hne, hstart⟩), ite_self]
    rfl

end Statements

theorem Statements.toOption_membersOf {sheet : List Statement} {cs : List Component}
    (h : Statements sheet cs) (stop : Position) :
    (membersOf stop .between (cs.filterMap Component.item?)).toOption = sheetMembers? sheet := by
  obtain ⟨rfl, hvalid, hended⟩ := h
  induction sheet with
  | nil => rfl
  | cons x sheet ih =>
    rw [List.forall_mem_cons] at hvalid
    have hx : x.Ended ∨ (sheet.flatMap Statement.components).filterMap Component.item? = [] := by
      cases sheet with
      | nil => exact .inr rfl
      | cons => exact .inl (hended x List.mem_cons_self)
    have hsheet : ∀ y ∈ sheet.dropLast, y.Ended := by
      cases sheet with
      | nil => exact List.forall_mem_nil _
      | cons => exact (List.forall_mem_cons.mp hended).2
    rw [List.flatMap_cons, List.filterMap_append, toOption_membersOf_statement hvalid.1 hx,
      ih hvalid.2 hsheet, sheetMembers?_cons]

/-- The members that some tokens come to. -/
def membersIn? (ts : List Token) : Option (List (List Char)) :=
  (membersOf .start .between (items none ts)).toOption

/-- Tokens of which none is broken have the members of the statements they make up. -/
theorem Reads.membersIn?_eq {sheet : List Statement} {ts : List Token} (h : Reads sheet ts)
    (hbroken : ∀ t ∈ ts, t.kind.broken? = none) :
    membersIn? ts = sheetMembers? sheet := by
  obtain ⟨cs, hcs, hsheet⟩ := h
  rw [membersIn?, hcs.items hbroken, hsheet.toOption_membersOf]

/-- Whatever else a stylesheet holds, a broken token is an error. -/
theorem toOption_membersOf_broken {stop : Position} {s : RuleState} {is : List Item}
    (h : ∃ e, Item.broken e ∈ is) : (membersOf stop s is).toOption = none := by
  have htail {i : Item} {is : List Item} (h : ∃ e, .broken e ∈ i :: is) (hi : ∀ e, i ≠ .broken e) :
      ∃ e, Item.broken e ∈ is := by
    obtain ⟨e, he⟩ := h
    exact ⟨e, (List.mem_cons.mp he).resolve_left fun heq ↦ hi e heq.symm⟩
  fun_induction membersOf stop s is with
  | case1 | case2 | case3 => simp at h
  | case4 | case7 | case13 => rfl
  | case5 _ _ _ _ _ _ ih | case6 _ _ _ _ _ _ _ ih | case8 _ _ _ _ _ _ _ _ _ ih
  | case9 _ _ _ _ _ _ _ _ _ ih | case11 _ _ _ _ _ _ _ ih | case12 _ _ _ ih
  | case14 _ _ _ _ ih | case15 _ _ _ _ ih => exact ih (htail h (by simp))
  | case10 _ _ _ _ _ _ _ ih =>
    rw [toOption_append, ih (htail h (by simp))]
    exact Option.bind_fun_none _

theorem Statement.map_firstMember?_selectors {x : Statement} {ms : List (List Char)}
    (h : x.members? = some ms) : x.selectors.map firstMember? = ms.map some := by
  cases x with
  | gap =>
    cases h
    rfl
  | atRule =>
    rw [Statement.members?] at h
    split_ifs at h
    cases h
    rfl
  | style =>
    rw [Statement.members?] at h
    split_ifs at h
    exact mapM_eq_some_iff.mp h
  | unfinished => cases h

theorem map_firstMember?_selectors {sheet : List Statement} {ms : List (List Char)}
    (h : sheetMembers? sheet = some ms) :
    (sheet.flatMap Statement.selectors).map firstMember? = ms.map some := by
  induction sheet generalizing ms with
  | nil =>
    cases h
    rfl
  | cons x sheet ih =>
    rw [sheetMembers?_cons] at h
    obtain ⟨ns, hx, h⟩ := Option.bind_eq_some_iff.mp h
    obtain ⟨others, hsheet, rfl⟩ := Option.map_eq_some_iff.mp h
    rw [List.flatMap_cons, List.map_append, x.map_firstMember?_selectors hx, ih hsheet,
      List.map_append]

/-- A stylesheet has members iff no token is broken and no statement is malformed. -/
theorem Reads.membersIn?_eq_some_iff {sheet : List Statement} {ts : List Token}
    (h : Reads sheet ts) {ms : List (List Char)} :
    membersIn? ts = some ms ↔
      (∀ t ∈ ts, t.kind.broken? = none) ∧ sheetMembers? sheet = some ms := by
  constructor
  · intro hms
    have hbroken : ∀ t ∈ ts, t.kind.broken? = none := by
      by_contra hne
      push Not at hne
      have hnone : (membersOf .start .between (items none ts)).toOption = none :=
        toOption_membersOf_broken (exists_broken_mem_items hne)
      rw [membersIn?, hnone] at hms
      cases hms
    exact ⟨hbroken, by rw [← hms, h.membersIn?_eq hbroken]⟩
  · rintro ⟨hbroken, hms⟩
    rw [h.membersIn?_eq hbroken, hms]

end Stylesheet

end JavaConstants
