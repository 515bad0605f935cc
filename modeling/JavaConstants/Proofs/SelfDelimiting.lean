import Mathlib.Data.List.Basic

/-!
# Texts that tell where they end

A spelling *delimits* two values if the text of one, followed by anything, never equals the text of
the other, followed by anything, unless the values and what follows are the same. Values spelled
this way can stand one after another without a separator of their own, which is how one proves that
a layout can be read in one way only. The condition is stated for a pair of values and not for a
set of them, because the induction over a tree provides it for the members of one side alone.
-/

namespace JavaConstants

variable {α : Type}

/-- The texts of two values, each followed by anything, agree only if the values and what follows
agree. -/
def Delimits (spell : α → List Char) (a b : α) : Prop :=
  ∀ ⦃r s : List Char⦄, spell a ++ r = spell b ++ s → a = b ∧ r = s

/-- What stands before the first occurrence of a character is determined, and so is the rest. -/
theorem append_stop_inj {stop : Char} {a b r s : List Char} (ha : stop ∉ a) (hb : stop ∉ b)
    (h : a ++ stop :: r = b ++ stop :: s) : a = b ∧ r = s := by
  induction a generalizing b with
  | nil =>
    cases b with
    | nil => exact ⟨rfl, (List.cons.inj h).2⟩
    | cons y b => exact absurd ((List.cons.inj h).1 ▸ List.mem_cons_self) hb
  | cons x a ih =>
    cases b with
    | nil => exact absurd ((List.cons.inj h).1 ▸ List.mem_cons_self) ha
    | cons y b =>
      obtain ⟨hxy, htail⟩ := List.cons.inj h
      obtain ⟨hab, hrs⟩ := ih (fun hm ↦ ha (List.mem_cons_of_mem _ hm))
        (fun hm ↦ hb (List.mem_cons_of_mem _ hm)) htail
      exact ⟨by rw [hxy, hab], hrs⟩

/-- **Lists.** The texts of some values in a row, followed by something that starts with no such
text, determine the values and what follows. -/
theorem flatMap_append_inj {spell : α → List Char} {l m : List α} {r s : List Char}
    (h : ∀ a ∈ l, ∀ b ∈ m, Delimits spell a b) (hr : ∀ b ∈ m, ∀ t, spell b ++ t ≠ r)
    (hs : ∀ a ∈ l, ∀ t, spell a ++ t ≠ s) (heq : l.flatMap spell ++ r = m.flatMap spell ++ s) :
    l = m ∧ r = s := by
  induction l generalizing m with
  | nil =>
    cases m with
    | nil => exact ⟨rfl, heq⟩
    | cons b m =>
      rw [List.flatMap_nil, List.nil_append, List.flatMap_cons, List.append_assoc] at heq
      exact absurd heq.symm (hr b List.mem_cons_self _)
  | cons a l ih =>
    cases m with
    | nil =>
      rw [List.flatMap_nil, List.nil_append, List.flatMap_cons, List.append_assoc] at heq
      exact absurd heq (hs a List.mem_cons_self _)
    | cons b m =>
      rw [List.flatMap_cons, List.flatMap_cons, List.append_assoc, List.append_assoc] at heq
      obtain ⟨hab, hrest⟩ := h a List.mem_cons_self b List.mem_cons_self heq
      obtain ⟨hlm, hrs⟩ := ih
        (fun x hx y hy ↦ h x (List.mem_cons_of_mem _ hx) y (List.mem_cons_of_mem _ hy))
        (fun y hy ↦ hr y (List.mem_cons_of_mem _ hy))
        (fun x hx ↦ hs x (List.mem_cons_of_mem _ hx)) hrest
      exact ⟨by rw [hab, hlm], hrs⟩

end JavaConstants
