import JavaConstants.Proofs.StyleRules

/-!
# Malformed stylesheets

When the selectors of a stylesheet are an error (`selectorMembers_error_iff`): a token is broken, a
closing bracket outside of blocks is a stray one, the prelude of a style rule has a semicolon or an
empty selector in it, or no block follows the last prelude.

A stray closing bracket inside a block is no error. So the stylesheets that are an error are those
with any of these flaws only where all stray brackets are outside of blocks, and
`strayInBlock_accepted` is a stylesheet with another one.
-/

namespace JavaConstants

namespace Stylesheet

/-- A flaw of a stylesheet that reads as some statements and has some tokens; `ss` are the stray
closing brackets that are flaws, with the brackets open there. -/
inductive Flawed (ss : List (List Bracket × Token)) (sheet : List Statement) (ts : List Token) :
    Prop where
  /-- A string or a `url(…)` is broken, at any depth. -/
  | broken {t : Token} (ht : t ∈ ts) (hbroken : t.kind.broken? ≠ none)
  /-- A closing bracket is a stray one. -/
  | stray {s : List Bracket × Token} (hs : s ∈ ss)
  /-- A semicolon stands in the prelude of a style rule. -/
  | semicolon {prelude : List Component} {declarations c : Component}
    (hx : .style prelude declarations ∈ sheet) (hc : c ∈ prelude)
    (hsemicolon : c.kind? = some .semicolon)
  /-- A selector of a style rule is empty. -/
  | empty {prelude : List Component} {declarations : Component}
    (hx : .style prelude declarations ∈ sheet) (hempty : [] ∈ selectorsOf prelude)
  /-- A prelude has no block. -/
  | unfinished {prelude : List Component} (hx : .unfinished prelude ∈ sheet)

/-- The stray closing brackets outside of blocks. -/
def outerStrays (ts : List Token) : List (List Bracket × Token) :=
  (strays [] ts).filter fun s ↦ s.1 = []

theorem Components.mem_outerStrays_iff {cs : List Component} {ts : List Token}
    (h : Components cs ts) {s : List Bracket × Token} :
    s ∈ outerStrays ts ↔ s.1 = [] ∧ .token s.2 ∈ cs ∧ s.2.kind.closes? ≠ none := by
  obtain ⟨brackets, t⟩ := s
  rw [outerStrays, List.mem_filter, decide_eq_true_eq, and_comm]
  refine and_congr_right ?_
  rintro rfl
  exact h.mem_strays_iff

/-! ## Statements without members -/

theorem exists_of_isStray {c : Component} (h : c.isStray = true) :
    ∃ t, c = .token t ∧ t.kind.closes? ≠ none := by
  cases c with
  | token t => exact ⟨t, rfl, Option.isSome_iff_ne_none.mp h⟩
  | block => cases h

theorem firstMember?_eq_none_iff {parts : List SelectorPart} :
    firstMember? parts = none ↔ parts = [] := by
  cases parts <;> simp [firstMember?]

/-- A stray closing bracket makes its statement malformed. It is no gap, no keyword and no end of an
at-rule, so it is in a prelude. -/
theorem Statement.members?_eq_none_of_closes {x : Statement} (hvalid : x.Valid) {t : Token}
    (ht : .token t ∈ x.components) (hcloses : t.kind.closes? ≠ none) : x.members? = none := by
  have hkind {k : TokenKind} (hk : k.closes? = none) : t.kind ≠ k := by
    rintro rfl
    exact hcloses hk
  have hstray : (Component.token t).isStray = true := Option.isSome_iff_ne_none.mpr hcloses
  cases x with
  | gap u =>
    obtain rfl : t = u := by simpa [components] using ht
    exact (hvalid.elim (hkind rfl) (hkind rfl)).elim
  | atRule k prelude ending =>
    obtain ⟨hkey, -, hending⟩ := hvalid
    have hmem : .token t ∈ prelude := by
      rcases List.mem_cons.mp ht with heq | ht
      · cases heq
        exact absurd hkey (hkind rfl)
      · refine (List.mem_append.mp ht).resolve_right fun ht ↦ ?_
        have hends := hending _ (Option.mem_toList.mp ht)
        have hsemicolon : t.kind = .semicolon := by
          simpa [Component.endsAtRule, Component.kind?, Component.isBraces] using hends
        exact hkind rfl hsemicolon
    exact if_pos (List.any_eq_true.mpr ⟨_, hmem, hstray⟩)
  | style prelude b =>
    have hmem : .token t ∈ prelude := by
      refine (List.mem_append.mp ht).resolve_right fun ht ↦ ?_
      obtain rfl := List.mem_singleton.mp ht
      cases hvalid.2.2
    have hunexpected : (Component.token t).isUnexpected = true := by
      rw [Component.isUnexpected, hstray]
      rfl
    exact if_pos (List.any_eq_true.mpr ⟨_, hmem, hunexpected⟩)
  | unfinished => rfl

section Flaws

variable {sheet : List Statement} {ts : List Token}

theorem Flawed.exists_members?_eq_none (hreads : Reads sheet ts)
    (h : Flawed (outerStrays ts) sheet ts) :
    (∃ t ∈ ts, t.kind.broken? ≠ none) ∨ ∃ x ∈ sheet, x.members? = none := by
  cases h with
  | broken ht hbroken => exact .inl ⟨_, ht, hbroken⟩
  | stray hs =>
    obtain ⟨cs, hcs, hsheet⟩ := hreads
    obtain ⟨-, ht, hcloses⟩ := hcs.mem_outerStrays_iff.mp hs
    rw [← hsheet.components, List.mem_flatMap] at ht
    obtain ⟨x, hx, ht⟩ := ht
    exact .inr ⟨x, hx, Statement.members?_eq_none_of_closes (hsheet.valid x hx) ht hcloses⟩
  | semicolon hx hc hsemicolon =>
    refine .inr ⟨_, hx, if_pos (List.any_eq_true.mpr ⟨_, hc, ?_⟩)⟩
    rw [Component.isUnexpected, hsemicolon, Bool.or_comm]
    rfl
  | empty hx hempty =>
    refine .inr ⟨_, hx, ?_⟩
    rw [Statement.members?, mapM_eq_none_iff.mpr ⟨_, hempty, rfl⟩, ite_self]
  | unfinished hx => exact .inr ⟨_, hx, rfl⟩

theorem Reads.flawed (hreads : Reads sheet ts) {x : Statement} (hx : x ∈ sheet)
    (hnone : x.members? = none) : Flawed (outerStrays ts) sheet ts := by
  have hstray {c : Component} (hc : c ∈ x.components) (h : c.isStray = true) :
      Flawed (outerStrays ts) sheet ts := by
    obtain ⟨cs, hcs, hsheet⟩ := hreads
    obtain ⟨t, rfl, hcloses⟩ := exists_of_isStray h
    have ht : .token t ∈ cs := by
      rw [← hsheet.components]
      exact List.mem_flatMap.mpr ⟨x, hx, hc⟩
    have hmem : ([], t) ∈ outerStrays ts := hcs.mem_outerStrays_iff.mpr ⟨rfl, ht, hcloses⟩
    exact .stray hmem
  cases x with
  | gap => cases hnone
  | atRule k prelude ending =>
    rw [Statement.members?] at hnone
    split_ifs at hnone with hany
    obtain ⟨c, hc, h⟩ := List.any_eq_true.mp hany
    exact hstray (List.mem_cons_of_mem _ (List.mem_append_left _ hc)) h
  | style prelude b =>
    rw [Statement.members?] at hnone
    split_ifs at hnone with hany
    · obtain ⟨c, hc, h⟩ := List.any_eq_true.mp hany
      rcases Bool.or_eq_true_iff.mp h with h | h
      · exact hstray (List.mem_append_left _ hc) h
      · exact .semicolon hx hc (beq_iff_eq.mp h)
    · obtain ⟨parts, hparts, hnone⟩ := mapM_eq_none_iff.mp hnone
      rw [firstMember?_eq_none_iff.mp hnone] at hparts
      exact .empty hx hparts
  | unfinished => exact .unfinished hx

/-- Tokens have no members iff the stylesheet has a flaw. -/
theorem Reads.membersIn?_eq_none_iff (hreads : Reads sheet ts) :
    membersIn? ts = none ↔ Flawed (outerStrays ts) sheet ts := by
  constructor
  · intro hnone
    by_cases hbroken : ∃ t ∈ ts, t.kind.broken? ≠ none
    · obtain ⟨t, ht, hbroken⟩ := hbroken
      exact .broken ht hbroken
    · push Not at hbroken
      rw [hreads.membersIn?_eq hbroken, sheetMembers?, Option.map_eq_none_iff,
        mapM_eq_none_iff] at hnone
      obtain ⟨x, hx, hnone⟩ := hnone
      exact hreads.flawed hx hnone
  · intro h
    -- A broken token hides what the statements are, so its case does not go through them.
    rcases h.exists_members?_eq_none hreads with hbroken | hnone
    · exact toOption_membersOf_broken (exists_broken_mem_items hbroken)
    · rw [Option.eq_none_iff_forall_ne_some]
      intro ms hms
      have hsheet := (hreads.membersIn?_eq_some_iff.mp hms).2
      rw [sheetMembers?, mapM_eq_none_iff.mpr hnone] at hsheet
      cases hsheet

end Flaws

/-! ## Stylesheets that are an error -/

theorem exists_selectorMembers_eq_error_iff {css : String} :
    (∃ e, selectorMembers css = .error e) ↔ membersIn? (tokensOf css) = none := by
  have hmembers := toOption_selectorMembers css
  rcases hresult : selectorMembers css with e | ms
  · rw [hresult] at hmembers
    exact iff_of_true ⟨e, rfl⟩ (Option.map_eq_none_iff.mp hmembers.symm)
  · rw [selectorMembers_eq_ok_iff.mp hresult]
    simp

/-- A stylesheet is an error iff it has a flaw, stray closing brackets being flaws outside of blocks
only. Where all of them are outside of blocks, every one is a flaw. -/
theorem selectorMembers_error_iff (css : String) :
    (∃ sheet, Reads sheet (tokensOf css)) ∧
      ∀ sheet, Reads sheet (tokensOf css) →
        ((∃ e, selectorMembers css = .error e) ↔
          Flawed (outerStrays (tokensOf css)) sheet (tokensOf css)) ∧
        ((∀ s ∈ strays [] (tokensOf css), s.1 = []) →
          ((∃ e, selectorMembers css = .error e) ↔
            Flawed (strays [] (tokensOf css)) sheet (tokensOf css))) := by
  refine ⟨exists_reads _, fun sheet hreads ↦ ?_⟩
  have hiff : (∃ e, selectorMembers css = .error e) ↔
      Flawed (outerStrays (tokensOf css)) sheet (tokensOf css) := by
    rw [exists_selectorMembers_eq_error_iff, hreads.membersIn?_eq_none_iff]
  refine ⟨hiff, fun hstrays ↦ ?_⟩
  have houter : outerStrays (tokensOf css) = strays [] (tokensOf css) :=
    List.filter_eq_self.mpr fun s hs ↦ decide_eq_true (hstrays s hs)
  rwa [houter] at hiff

/-- The rule `.a,` with an empty block. -/
def emptySelectorRule : Statement :=
  .style [.token ⟨.delim '.', ['.'], .start⟩, .token ⟨.ident, ['a'], .start⟩,
      .token ⟨.comma, [','], .start⟩]
    (.block ⟨.opening .brace, ['{'], .start⟩ [] (some ⟨.closing .brace, ['}'], .start⟩))

theorem reads_emptySelectorRule : Reads [emptySelectorRule] (tokensOf ".a,\x7b\x7d") := by
  have hvalid : emptySelectorRule.Valid := by
    refine ⟨fun c hc ↦ ?_, by simp [Component.isBraces], rfl⟩
    cases hc
    simp [Component.kind?]
  refine reads_iff.mpr ⟨by cbv, List.forall_mem_singleton.mpr hvalid, List.forall_mem_nil _, ?_, ?_⟩
  · simp [emptySelectorRule, Statement.components, Component.Valid, TokenKind.opens?, Contents.nil]
  · simp [emptySelectorRule, Statement.components, Component.Closed]

theorem selectorMembers_error_iff_emptySelector :
    (∀ s ∈ strays [] (tokensOf ".a,\x7b\x7d"), s.1 = []) ∧
      ∃ e, selectorMembers ".a,\x7b\x7d" = .error e := by
  have hstrays : strays [] (tokensOf ".a,\x7b\x7d") = [] := by cbv
  have hall : ∀ s ∈ strays [] (tokensOf ".a,\x7b\x7d"), s.1 = [] := by
    rw [hstrays]
    exact List.forall_mem_nil _
  obtain ⟨-, hiff⟩ := (selectorMembers_error_iff ".a,\x7b\x7d").2 _ reads_emptySelectorRule
  refine ⟨hall, (hiff hall).mpr (.empty List.mem_cons_self ?_)⟩
  simp [selectorsOf_cons, Component.isBlank, Component.isComma, Component.kind?]

/-- A block with a stray closing bracket in it is accepted. -/
theorem strayInBlock_accepted :
    selectorMembers ".a \x7b ) \x7d" = .ok [".a"] ∧ ∀ sheet,
      Flawed (strays [] (tokensOf ".a \x7b ) \x7d")) sheet (tokensOf ".a \x7b ) \x7d") := by
  have hstrays : strays [] (tokensOf ".a \x7b ) \x7d") =
      [([.brace], ⟨.closing .paren, [')'], .start⟩)] := by cbv
  refine ⟨by cbv, fun sheet ↦ ?_⟩
  rw [hstrays]
  exact .stray List.mem_cons_self

end Stylesheet

end JavaConstants
