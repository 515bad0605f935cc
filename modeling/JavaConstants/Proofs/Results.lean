import Mathlib.Data.List.Basic

/-!
# Results and errors

Computations that may fail: what a success tells of its parts, and steps taken for each member of a
list, where the library has no lemma.
-/

namespace JavaConstants

theorem bind_eq_ok {ε α β : Type} {x : Except ε α} {f : α → Except ε β} {b : β}
    (h : (x >>= f) = .ok b) : ∃ a, x = .ok a ∧ f a = .ok b := by
  cases x with
  | error e => cases h
  | ok a => exact ⟨a, rfl, h⟩

theorem mapError_eq_ok {ε ε' α : Type} {f : ε → ε'} {x : Except ε α} {a : α}
    (h : x.mapError f = .ok a) : x = .ok a := by
  cases x with
  | error e => cases h
  | ok b => exact congrArg Except.ok (Except.ok.inj h)

/-! ## Lists -/

theorem toOption_mapM {ε α β : Type} (f : α → Except ε β) (l : List α) :
    (l.mapM f).toOption = l.mapM fun a ↦ (f a).toOption := by
  induction l with
  | nil => rfl
  | cons a l ih =>
    rw [List.mapM_cons, List.mapM_cons, ← ih]
    rcases f a with e | b
    · rfl
    · rcases l.mapM f with e | bs <;> rfl

theorem mapM_eq_some_iff {α β : Type} {f : α → Option β} {as : List α} {bs : List β} :
    as.mapM f = some bs ↔ as.map f = bs.map some := by
  induction as generalizing bs with
  | nil => rcases bs <;> simp
  | cons a as ih =>
    rw [List.mapM_cons, List.map_cons]
    rcases bs with _ | ⟨b, bs⟩
    · rcases f a with _ | b
      · simp
      · rcases as.mapM f <;> simp
    · rw [List.map_cons, List.cons.injEq, ← ih]
      rcases f a with _ | b'
      · simp
      · rcases as.mapM f <;> simp

theorem mapM_eq_none_iff {α β : Type} {f : α → Option β} {as : List α} :
    as.mapM f = none ↔ ∃ a ∈ as, f a = none := by
  induction as with
  | nil => simp
  | cons a as ih =>
    rw [List.mapM_cons, List.exists_mem_cons_iff, ← ih]
    rcases f a with _ | b
    · simp
    · rcases as.mapM f <;> simp

end JavaConstants
