import Mathlib
import JavaConstants.Stylesheet.Selectors

/-!
# Blocks of a stylesheet

The grammar of brackets, apart from any scanner. Only its own closing bracket ends a block, so other
closing brackets may stand in it (`Contents`), and the end of the input ends every block that is
still open (`OpenContents`). Every list of tokens is a list of components, each a token or a block
(`exists_components`), and the items of the tokens are the items of the components
(`Components.items`), unless a token is broken.

A closing bracket that does not match the innermost open bracket is a stray one (`strays`). Those
outside of blocks are components of their own (`Components.mem_strays_iff`); those in blocks are
contents like others.
-/

namespace JavaConstants

namespace Stylesheet

/-! ## Blocks -/

/-- Tokens that may stand in a block of a bracket, every block among them closed. -/
inductive Contents : Bracket → List Token → Prop where
  | nil {b : Bracket} : Contents b []
  | token {b : Bracket} {t : Token} {ts : List Token} (hopens : t.kind.opens? = none)
    (hend : t.kind ≠ .closing b) (h : Contents b ts) : Contents b (t :: ts)
  | block {b b' : Bracket} {o c : Token} {us ts : List Token} (hopens : o.kind.opens? = some b')
    (hus : Contents b' us) (hend : c.kind = .closing b') (h : Contents b ts) :
    Contents b (o :: (us ++ c :: ts))

/-- Tokens that may stand in a block of a bracket that the end of the input ends. -/
inductive OpenContents : Bracket → List Token → Prop where
  | closed {b : Bracket} {ts : List Token} (h : Contents b ts) : OpenContents b ts
  | block {b b' : Bracket} {o : Token} {ts us : List Token} (h : Contents b ts)
    (hopens : o.kind.opens? = some b') (hus : OpenContents b' us) : OpenContents b (ts ++ o :: us)

/-- Tokens whose brackets match, so no closing bracket among them is a stray one. -/
inductive Balanced : List Token → Prop where
  | nil : Balanced []
  | token {t : Token} {ts : List Token} (hopens : t.kind.opens? = none)
    (hcloses : ∀ b, t.kind ≠ .closing b) (h : Balanced ts) : Balanced (t :: ts)
  | block {b : Bracket} {o c : Token} {us ts : List Token} (hopens : o.kind.opens? = some b)
    (hus : Balanced us) (hend : c.kind = .closing b) (h : Balanced ts) :
    Balanced (o :: (us ++ c :: ts))

theorem Balanced.contents {ts : List Token} (h : Balanced ts) (b : Bracket) : Contents b ts := by
  induction h generalizing b with
  | nil => exact .nil
  | token hopens hcloses _ ih => exact .token hopens (hcloses b) (ih b)
  | block hopens _ hend _ ihus ih => exact .block hopens (ihus _) hend (ih b)

theorem OpenContents.token {b : Bracket} {t : Token} {ts : List Token}
    (hopens : t.kind.opens? = none) (hend : t.kind ≠ .closing b) (h : OpenContents b ts) :
    OpenContents b (t :: ts) := by
  rcases h with h | ⟨h, hopens', hus⟩
  · exact .closed (.token hopens hend h)
  · exact .block (.token hopens hend h) hopens' hus

theorem OpenContents.behind_block {b b' : Bracket} {o c : Token} {us ts : List Token}
    (hopens : o.kind.opens? = some b') (hus : Contents b' us) (hend : c.kind = .closing b')
    (h : OpenContents b ts) : OpenContents b (o :: (us ++ c :: ts)) := by
  rcases h with h | ⟨h, hopens', hvs⟩
  · exact .closed (.block hopens hus hend h)
  · have hblock := OpenContents.block (.block hopens hus hend h) hopens' hvs
    simpa only [List.cons_append, List.append_assoc] using hblock

/-- A block ends at a closing bracket of its own or with the input. -/
theorem exists_contents (b : Bracket) (ts : List Token) :
    (∃ us c rest, ts = us ++ c :: rest ∧ Contents b us ∧ c.kind = .closing b) ∨
      OpenContents b ts := by
  induction hlength : ts.length using Nat.strongRecOn generalizing b ts with
  | _ n ih =>
    subst hlength
    rcases ts with _ | ⟨t, ts⟩
    · exact .inr (.closed .nil)
    · have ih (b : Bracket) (rest : List Token) (h : rest.length ≤ ts.length) :=
        ih rest.length (Nat.lt_succ_of_le h) b rest rfl
      rcases hopens : t.kind.opens? with _ | b'
      · -- A token that opens nothing ends the block or stands in it.
        by_cases hend : t.kind = .closing b
        · exact .inl ⟨[], t, ts, rfl, .nil, hend⟩
        · rcases ih b ts (Nat.le_refl _) with ⟨us, c, rest, rfl, hus, hc⟩ | h
          · exact .inl ⟨t :: us, c, rest, rfl, .token hopens hend hus, hc⟩
          · exact .inr (h.token hopens hend)
      · -- The inner block comes first; what is behind it is still in the block of `b`.
        rcases ih b' ts (Nat.le_refl _) with ⟨us, c, rest, rfl, hus, hc⟩ | h
        · rcases ih b rest (by simp; omega) with ⟨vs, d, rest, rfl, hvs, hd⟩ | h
          · exact .inl ⟨t :: (us ++ c :: vs), d, rest, by simp, .block hopens hus hc hvs, hd⟩
          · exact .inr (h.behind_block hopens hus hc)
        · exact .inr (.block .nil hopens h)

/-! ## Components -/

/-- A part of a stylesheet: a token that opens no block, or a block with the tokens in it and its
closing bracket, if it has one. -/
inductive Component where
  | token (t : Token)
  | block (opener : Token) (contents : List Token) (closer : Option Token)

namespace Component

/-- The tokens. -/
def tokens : Component → List Token
  | token t => [t]
  | block opener contents closer => opener :: (contents ++ closer.toList)

/-- Whether a component is what it says. -/
def Valid : Component → Prop
  | token t => t.kind.opens? = none
  | block opener contents (some closer) =>
    ∃ b, opener.kind.opens? = some b ∧ Contents b contents ∧ closer.kind = .closing b
  | block opener contents none => ∃ b, opener.kind.opens? = some b ∧ OpenContents b contents

/-- Whether a component ends before the input. -/
def Closed : Component → Prop
  | token _ => True
  | block _ _ closer => closer.isSome

end Component

/-- The components of some tokens; only the last can be a block without an end. -/
structure Components (cs : List Component) (ts : List Token) : Prop where
  /-- The tokens are those of the components. -/
  tokens : cs.flatMap Component.tokens = ts
  /-- Every component is what it says. -/
  valid : ∀ c ∈ cs, c.Valid
  /-- Every component but the last ends before the input. -/
  closed : ∀ c ∈ cs.dropLast, c.Closed

theorem forall_mem_dropLast_cons {α : Type} {p : α → Prop} {a : α} {as : List α} (ha : p a)
    (h : ∀ b ∈ as.dropLast, p b) : ∀ b ∈ (a :: as).dropLast, p b := by
  rcases as with _ | ⟨b, as⟩
  · exact List.forall_mem_nil p
  · exact List.forall_mem_cons.mpr ⟨ha, h⟩

theorem Components.cons {c : Component} {cs : List Component} {ts : List Token} (hvalid : c.Valid)
    (hclosed : c.Closed) (h : Components cs ts) : Components (c :: cs) (c.tokens ++ ts) where
  tokens := by rw [List.flatMap_cons, h.tokens]
  valid := List.forall_mem_cons.mpr ⟨hvalid, h.valid⟩
  closed := forall_mem_dropLast_cons hclosed h.closed

theorem Components.uncons {c : Component} {cs : List Component} {ts : List Token}
    (h : Components (c :: cs) ts) : ∃ us, ts = c.tokens ++ us ∧ c.Valid ∧ (c.Closed ∨ us = []) ∧
      Components cs us := by
  have hvalid := List.forall_mem_cons.mp h.valid
  refine ⟨cs.flatMap Component.tokens, h.tokens.symm, hvalid.1, ?_, rfl, hvalid.2, ?_⟩
  · rcases cs with _ | ⟨d, cs⟩
    · exact .inr rfl
    · exact .inl (h.closed c List.mem_cons_self)
  · rcases cs with _ | ⟨d, cs⟩
    · exact List.forall_mem_nil _
    · exact (List.forall_mem_cons.mp h.closed).2

/-- All tokens are parts of components. -/
theorem exists_components (ts : List Token) : ∃ cs, Components cs ts := by
  induction hlength : ts.length using Nat.strongRecOn generalizing ts with
  | _ n ih =>
    subst hlength
    rcases ts with _ | ⟨t, ts⟩
    · exact ⟨[], rfl, List.forall_mem_nil _, List.forall_mem_nil _⟩
    · rcases hopens : t.kind.opens? with _ | b
      · obtain ⟨cs, hcs⟩ := ih ts.length (Nat.lt_succ_self _) ts rfl
        exact ⟨.token t :: cs, hcs.cons hopens trivial⟩
      · rcases exists_contents b ts with ⟨us, c, rest, rfl, hus, hc⟩ | h
        · obtain ⟨cs, hcs⟩ := ih rest.length (by simp; omega) rest rfl
          have hblock : Components (.block t us (some c) :: cs) _ :=
            hcs.cons ⟨b, hopens, hus, hc⟩ rfl
          exact ⟨_, by simpa [Component.tokens] using hblock⟩
        · -- Nothing is behind a block that the end of the input ends.
          refine ⟨[.block t ts none], by simp [Component.tokens], ?_, List.forall_mem_nil _⟩
          exact List.forall_mem_singleton.mpr ⟨b, hopens, h⟩

/-! ## Items

The scanner puts the text of a block together while it goes through it, and keeps the brackets
that are open. `OpenBlock.read` and `OpenBlock.enter` are what it knows some tokens later. -/

/-- A block being read, some tokens later. -/
def OpenBlock.read (b : OpenBlock) (ts : List Token) : OpenBlock :=
  { b with
    texts := (ts.map (·.text)).reverse ++ b.texts
    stop := ts.foldl (fun _ t ↦ t.stop) b.stop }

/-- A block being read, another one open inside. -/
def OpenBlock.enter (b : OpenBlock) (bracket : Bracket) : OpenBlock :=
  { b with innermost := bracket, outer := b.innermost :: b.outer }

theorem OpenBlock.read_append (b : OpenBlock) (ts us : List Token) :
    b.read (ts ++ us) = (b.read ts).read us := by
  simp [read]

theorem TokenKind.broken?_of_opens? {k : TokenKind} {b : Bracket} (h : k.opens? = some b) :
    k.broken? = none := by
  cases k with
  | opening | function => rfl
  | _ => cases h

theorem items_broken {b : Option OpenBlock} {t : Token} {cause : ErrorCause}
    (hbroken : t.kind.broken? = some cause) (ts : List Token) :
    items b (t :: ts) = [.broken ⟨cause, t.stop⟩] := by
  cases b <;> rw [items, hbroken]

section Reading

variable {b : OpenBlock} {t : Token} {bracket : Bracket} (ts : List Token)

theorem items_token (hopens : t.kind.opens? = none) (hend : t.kind ≠ .closing b.innermost)
    (hbroken : t.kind.broken? = none) :
    items (some b) (t :: ts) = items (some (b.read [t])) ts := by
  rw [items, hbroken]
  simp only [hopens]
  rw [if_neg hend]
  rfl

theorem items_enter (hopens : t.kind.opens? = some bracket) :
    items (some b) (t :: ts) = items (some ((b.read [t]).enter bracket)) ts := by
  rw [items, TokenKind.broken?_of_opens? hopens]
  simp only [hopens]
  rfl

theorem items_leave (hend : t.kind = .closing bracket) (us : List Token) :
    items (some ((b.enter bracket).read us)) (t :: ts) = items (some (b.read (us ++ [t]))) ts := by
  rw [items, hend, OpenBlock.read_append]
  simp only [TokenKind.broken?, TokenKind.opens?]
  exact if_pos rfl

theorem items_end (houter : b.outer = []) (hend : t.kind = .closing b.innermost) :
    items (some b) (t :: ts) = (b.read [t]).item :: items none ts := by
  rw [items, hend]
  simp only [TokenKind.broken?, TokenKind.opens?]
  rw [if_pos trivial, houter]
  rfl

end Reading

/-- What may stand in a block goes into its text, and nothing else changes. -/
theorem Contents.items {b : OpenBlock} {us : List Token} (h : Contents b.innermost us)
    (hbroken : ∀ t ∈ us, t.kind.broken? = none) (ts : List Token) :
    Stylesheet.items (some b) (us ++ ts) = Stylesheet.items (some (b.read us)) ts := by
  generalize hbracket : b.innermost = bracket at h
  induction h generalizing b ts with
  | nil => rfl
  | @token _ t us hopens hend h ih =>
    subst hbracket
    rw [List.forall_mem_cons] at hbroken
    rw [List.cons_append, items_token _ hopens hend hbroken.1,
      ih (b := b.read [t]) hbroken.2 ts rfl, ← OpenBlock.read_append, List.singleton_append]
  | @block _ b' o c us vs hopens hus hend h ihus ih =>
    subst hbracket
    rw [List.forall_mem_cons, List.forall_mem_append, List.forall_mem_cons] at hbroken
    obtain ⟨-, hus, -, hvs⟩ := hbroken
    rw [List.cons_append, items_enter _ hopens, List.append_assoc, ihus hus _ rfl,
      List.cons_append, items_leave _ hend, ← OpenBlock.read_append,
      ih (b := b.read ([o] ++ (us ++ [c]))) hvs ts rfl, ← OpenBlock.read_append]
    simp

theorem OpenContents.items {b : OpenBlock} {us : List Token} (h : OpenContents b.innermost us)
    (hbroken : ∀ t ∈ us, t.kind.broken? = none) :
    Stylesheet.items (some b) us = [(b.read us).item] := by
  generalize hbracket : b.innermost = bracket at h
  induction h generalizing b with
  | closed h =>
    subst hbracket
    have hitems := h.items hbroken []
    rw [List.append_nil] at hitems
    rw [hitems]
    rfl
  | @block _ b' o ts us h hopens hus ih =>
    subst hbracket
    rw [List.forall_mem_append, List.forall_mem_cons] at hbroken
    rw [h.items hbroken.1, items_enter _ hopens, ih hbroken.2.2 rfl, ← OpenBlock.read_append]
    -- The item of a block does not tell which brackets are open.
    have hitem (d : OpenBlock) : ((d.enter b').read us).item = (d.read us).item := rfl
    rw [hitem, ← OpenBlock.read_append, List.append_assoc, List.singleton_append]

/-! ### The items of components -/

namespace Component

/-- The first token. -/
def first : Component → Token
  | token t => t
  | block opener _ _ => opener

/-- The text. -/
def text (c : Component) : List Char := (c.tokens.map (·.text)).flatten

/-- The item. There is none for white space and comments. -/
def item? : Component → Option Item
  | token t => if t.kind = .blank then none else some (.single t)
  | block opener contents closer =>
    some (.block opener (block opener contents closer).text
      ((contents ++ closer.toList).foldl (fun _ t ↦ t.stop) opener.stop))

end Component

/-- A block begun by its first token. -/
def OpenBlock.start (opener : Token) (bracket : Bracket) : OpenBlock :=
  ⟨opener, [opener.text], opener.stop, bracket, []⟩

theorem items_start {o : Token} {b : Bracket} (hopens : o.kind.opens? = some b) (ts : List Token) :
    items none (o :: ts) = items (some (.start o b)) ts := by
  rw [items, TokenKind.broken?_of_opens? hopens]
  simp only [hopens]
  rfl

theorem item_read_start (o : Token) (b : Bracket) (us : List Token) (closer : Option Token) :
    (((OpenBlock.start o b).read us).read closer.toList).item =
      .block o (Component.block o us closer).text
        ((us ++ closer.toList).foldl (fun _ t ↦ t.stop) o.stop) := by
  rw [← OpenBlock.read_append]
  simp [OpenBlock.item, OpenBlock.read, OpenBlock.start, Component.text, Component.tokens]

theorem items_component {c : Component} (hvalid : c.Valid)
    (hbroken : ∀ t ∈ c.tokens, t.kind.broken? = none) {ts : List Token}
    (hclosed : c.Closed ∨ ts = []) :
    items none (c.tokens ++ ts) = c.item?.toList ++ items none ts := by
  rcases c with t | ⟨o, us, _ | c⟩
  · have hopens : t.kind.opens? = none := hvalid
    rw [Component.tokens, List.singleton_append, items, hbroken t List.mem_cons_self]
    simp only [hopens]
    rw [Component.item?]
    split_ifs <;> rfl
  · -- A block without an end is the last component, and its item is made where the input ends.
    obtain rfl := hclosed.resolve_left (by simp [Component.Closed])
    obtain ⟨b, hopens, hus⟩ := hvalid
    rw [Component.tokens, Option.toList_none, List.append_nil] at hbroken ⊢
    rw [List.forall_mem_cons] at hbroken
    have hblock : (((OpenBlock.start o b).read us).read (none : Option Token).toList).item =
        ((OpenBlock.start o b).read us).item := rfl
    rw [List.append_nil, items_start hopens, OpenContents.items hus hbroken.2, ← hblock,
      item_read_start]
    rfl
  · obtain ⟨b, hopens, hus, hend⟩ := hvalid
    rw [Component.tokens, Option.toList_some] at hbroken ⊢
    rw [List.forall_mem_cons, List.forall_mem_append] at hbroken
    rw [List.cons_append, List.append_assoc, List.singleton_append, items_start hopens,
      Contents.items hus hbroken.2.1, items_end _ rfl hend]
    have hblock := item_read_start o b us (some c)
    rw [Option.toList_some] at hblock
    rw [hblock]
    rfl

theorem Components.items {cs : List Component} {ts : List Token} (h : Components cs ts)
    (hbroken : ∀ t ∈ ts, t.kind.broken? = none) :
    Stylesheet.items none ts = cs.filterMap Component.item? := by
  induction cs generalizing ts with
  | nil =>
    obtain rfl := h.tokens
    rfl
  | cons c cs ih =>
    obtain ⟨us, rfl, hvalid, hclosed, h⟩ := h.uncons
    rw [List.forall_mem_append] at hbroken
    rw [items_component hvalid hbroken.1 hclosed, ih h hbroken.2]
    rcases hitem : c.item? with _ | i
    · rw [List.filterMap_cons_none hitem]
      rfl
    · rw [List.filterMap_cons_some hitem]
      rfl

theorem exists_broken_mem_items {b : Option OpenBlock} {ts : List Token}
    (h : ∃ t ∈ ts, t.kind.broken? ≠ none) : ∃ e, Item.broken e ∈ items b ts := by
  have htail {t : Token} {ts : List Token} (ht : t.kind.broken? = none)
      (h : ∃ u ∈ t :: ts, u.kind.broken? ≠ none) : ∃ u ∈ ts, u.kind.broken? ≠ none :=
    ((List.exists_mem_cons_iff _ _ _).mp h).resolve_left fun hne ↦ hne ht
  fun_induction items b ts with
  | case1 | case2 => simp at h
  | case3 | case7 => exact ⟨_, List.mem_singleton.mpr rfl⟩
  | case4 _ _ ht _ _ ih | case5 _ _ ht _ _ ih | case8 _ _ _ ht _ _ _ ih
  | case10 _ _ _ ht _ _ _ _ _ _ ih | case11 _ _ _ ht _ _ _ ih => exact ih (htail ht h)
  | case6 _ _ ht _ _ ih | case9 _ _ _ ht _ _ _ _ ih =>
    obtain ⟨e, he⟩ := ih (htail ht h)
    exact ⟨e, List.mem_cons_of_mem _ he⟩

/-! ## Stray closing brackets -/

/-- The bracket a token closes. -/
def TokenKind.closes? : TokenKind → Option Bracket
  | closing b => some b
  | _ => none

/-- The closing brackets that do not match the innermost open bracket, each with the brackets that
are open there, innermost first. -/
def strays (brackets : List Bracket) : List Token → List (List Bracket × Token)
  | [] => []
  | t :: ts =>
    match t.kind.opens?, t.kind.closes? with
    | some b, _ => strays (b :: brackets) ts
    | none, some b =>
      if brackets.head? = some b then strays brackets.tail ts
      else (brackets, t) :: strays brackets ts
    | none, none => strays brackets ts

theorem closes?_eq_some_iff {k : TokenKind} {b : Bracket} :
    k.closes? = some b ↔ k = .closing b := by
  cases k <;> simp [TokenKind.closes?]

section Strays

variable {b : Bracket} {brackets : List Bracket} {t u : Token} {us : List Token} (ts : List Token)

theorem strays_opening (hopens : t.kind.opens? = some b) :
    strays brackets (t :: ts) = strays (b :: brackets) ts := by
  rw [strays, hopens]

theorem strays_closing (hend : t.kind = .closing b) :
    strays (b :: brackets) (t :: ts) = strays brackets ts := by
  rw [strays, hend]
  exact if_pos rfl

theorem mem_strays_token_iff (hopens : t.kind.opens? = none) (hend : t.kind ≠ .closing b) :
    ([], u) ∈ strays (b :: brackets) (t :: ts) ↔ ([], u) ∈ strays (b :: brackets) ts := by
  rw [strays, hopens]
  rcases hcloses : t.kind.closes? with _ | b'
  · rfl
  · have hne : b ≠ b' := by
      rintro rfl
      exact hend (closes?_eq_some_iff.mp hcloses)
    simp [hne]

theorem Contents.mem_strays_iff (h : Contents b us) (brackets : List Bracket) :
    ([], u) ∈ strays (b :: brackets) (us ++ ts) ↔ ([], u) ∈ strays (b :: brackets) ts := by
  induction h generalizing brackets ts with
  | nil => rfl
  | token hopens hend h ih => rw [List.cons_append, mem_strays_token_iff _ hopens hend, ih]
  | block hopens hus hend h ihus ih =>
    rw [List.cons_append, strays_opening _ hopens, List.append_assoc, ihus, List.cons_append,
      strays_closing _ hend, ih]

theorem OpenContents.not_mem_strays (h : OpenContents b us) (brackets : List Bracket) :
    ([], u) ∉ strays (b :: brackets) us := by
  induction h generalizing brackets with
  | closed h =>
    have hstrays := h.mem_strays_iff (u := u) [] brackets
    rw [List.append_nil] at hstrays
    rw [hstrays]
    exact List.not_mem_nil
  | block h hopens hus ih =>
    rw [h.mem_strays_iff, strays_opening _ hopens]
    exact ih _

end Strays

theorem mem_strays_component_iff {c : Component} (hvalid : c.Valid) {ts : List Token}
    (hclosed : c.Closed ∨ ts = []) {u : Token} :
    ([], u) ∈ strays [] (c.tokens ++ ts) ↔
      (c = .token u ∧ u.kind.closes? ≠ none) ∨ ([], u) ∈ strays [] ts := by
  rcases c with t | ⟨o, us, _ | c⟩
  · have hopens : t.kind.opens? = none := hvalid
    rw [Component.tokens, List.singleton_append, strays, hopens]
    rcases hcloses : t.kind.closes? with _ | b
    · -- A token that closes nothing is no stray one.
      refine (or_iff_right ?_).symm
      rintro ⟨heq, hne⟩
      cases heq
      exact hne hcloses
    · simp only [List.head?_nil, reduceCtorEq, if_false, List.mem_cons, Prod.mk.injEq, true_and,
        Component.token.injEq]
      refine or_congr_left ⟨?_, fun h ↦ h.1.symm⟩
      rintro rfl
      exact ⟨rfl, by simp [hcloses]⟩
  · obtain rfl := hclosed.resolve_left (by simp [Component.Closed])
    obtain ⟨b, hopens, hus⟩ := hvalid
    rw [Component.tokens, Option.toList_none, List.append_nil, List.append_nil,
      strays_opening _ hopens]
    exact iff_of_false (OpenContents.not_mem_strays hus []) (by simp [strays])
  · obtain ⟨b, hopens, hus, hend⟩ := hvalid
    rw [Component.tokens, Option.toList_some, List.cons_append, List.append_assoc,
      List.singleton_append, strays_opening _ hopens, Contents.mem_strays_iff _ hus,
      strays_closing _ hend]
    simp

theorem Components.mem_strays_iff {cs : List Component} {ts : List Token} (h : Components cs ts)
    {u : Token} : ([], u) ∈ strays [] ts ↔ .token u ∈ cs ∧ u.kind.closes? ≠ none := by
  induction cs generalizing ts with
  | nil =>
    obtain rfl := h.tokens
    simp [strays]
  | cons c cs ih =>
    obtain ⟨us, rfl, hvalid, hclosed, h⟩ := h.uncons
    rw [mem_strays_component_iff hvalid hclosed, ih h, List.mem_cons, or_and_right, eq_comm]

end Stylesheet

end JavaConstants
