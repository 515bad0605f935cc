import Mathlib.Data.List.Forall2
import Mathlib.Data.List.Induction
import Mathlib.Data.List.Nodup

/-!
# Lists

First occurrences, separated lists, front parts, first members that fail a test and lists related
member by member, where the library has no lemma.
-/

namespace JavaConstants

/-! ## First occurrences -/

theorem eraseDups_concat (l : List String) (a : String) :
    (l ++ [a]).eraseDups = if a ∈ l then l.eraseDups else l.eraseDups ++ [a] := by
  rw [List.eraseDups_append, List.removeAll]
  by_cases ha : a ∈ l
  · rw [if_pos ha, List.filter_singleton, List.elem_eq_true_of_mem ha]
    exact List.append_nil _
  · rw [if_neg ha, List.filter_singleton, List.elem_eq_mem, decide_eq_false ha]
    rfl

theorem eraseDups_append_cons {l : List String} {a : String} (ha : a ∈ l) (l' : List String) :
    (l ++ a :: l').eraseDups = (l ++ l').eraseDups := by
  rw [List.append_cons, List.eraseDups_append, eraseDups_concat, if_pos ha, List.eraseDups_append]
  congr 2
  rw [List.removeAll, List.removeAll]
  refine List.filter_congr fun b _ ↦ ?_
  rw [List.elem_eq_mem, List.elem_eq_mem]
  have hmem : b ∈ l ++ [a] ↔ b ∈ l := by
    rw [List.mem_append, List.mem_singleton]
    exact ⟨fun h ↦ h.elim id fun h ↦ h ▸ ha, .inl⟩
  simp only [hmem]

theorem nodup_eraseDups (l : List String) : l.eraseDups.Nodup := by
  induction l using List.reverseRecOn with
  | nil => exact List.nodup_nil
  | append_singleton l a ih =>
    rw [eraseDups_concat]
    by_cases ha : a ∈ l
    · rwa [if_pos ha]
    · rw [if_neg ha, List.nodup_append_comm, List.singleton_append, List.nodup_cons]
      exact ⟨fun h ↦ ha (List.mem_eraseDups.mp h), ih⟩

/-! ## Separated lists -/

theorem mem_intercalate_iff {α : Type} {sep : List α} {c : α} (hc : c ∉ sep) {ls : List (List α)} :
    c ∈ sep.intercalate ls ↔ ∃ l ∈ ls, c ∈ l := by
  induction ls with
  | nil => simp
  | cons l ls ih =>
    rcases eq_or_ne ls [] with rfl | hls
    · simp
    · rw [List.intercalate_cons_of_ne_nil hls, List.mem_append, List.mem_append, ih]
      simp only [List.mem_cons, exists_eq_or_imp, hc, or_false]

theorem intercalate_append {ls ms : List (List Char)} (hls : ls ≠ []) (hms : ms ≠ []) (x : Char) :
    [x].intercalate (ls ++ ms) = [x].intercalate ls ++ x :: [x].intercalate ms := by
  induction ls with
  | nil => exact absurd rfl hls
  | cons l ls ih =>
    rcases eq_or_ne ls [] with rfl | hne
    · rw [List.singleton_append, List.intercalate_cons_of_ne_nil hms, List.intercalate_singleton,
        List.append_assoc, List.singleton_append]
    · rw [List.cons_append, List.intercalate_cons_of_ne_nil (by simp [hne]), ih hne,
        List.intercalate_cons_of_ne_nil hne]
      simp

/-! ## Front parts -/

theorem isPrefix_append_iff {α : Type} {front l l' : List α} :
    front <+: l ++ l' ↔ front <+: l ∨ ∃ more, more <+: l' ∧ front = l ++ more := by
  constructor
  · intro h
    rcases List.prefix_or_prefix_of_prefix h (List.prefix_append l l') with hfront | ⟨more, rfl⟩
    · exact .inl hfront
    · exact .inr ⟨more, (List.prefix_append_right_inj l).mp h, rfl⟩
  · rintro (hfront | ⟨more, hmore, rfl⟩)
    · exact hfront.trans (List.prefix_append l l')
    · exact (List.prefix_append_right_inj l).mpr hmore

/-! ## First members that fail a test -/

theorem of_dropWhile_eq_cons {α : Type} {p : α → Bool} {l l' : List α} {a : α}
    (h : l.dropWhile p = a :: l') : p a = false := by
  have hhead := List.head?_dropWhile_not p l
  rwa [h] at hhead

/-! ## Related lists -/

theorem exists_of_forall₂ {α β : Type} {R : α → β → Prop} {as : List α} {bs : List β}
    (h : List.Forall₂ R as bs) : ∀ b ∈ bs, ∃ a ∈ as, R a b := by
  induction h with
  | nil => exact nofun
  | cons hab h ih =>
    rw [List.forall_mem_cons]
    exact ⟨⟨_, List.mem_cons_self, hab⟩, fun b hb ↦
      have ⟨a, ha, hab⟩ := ih b hb
      ⟨a, List.mem_cons_of_mem _ ha, hab⟩⟩

end JavaConstants
