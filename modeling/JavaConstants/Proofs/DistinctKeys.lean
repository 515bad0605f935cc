import Mathlib.Data.List.Nodup
import Mathlib.Tactic.SplitIfs
import JavaConstants.Json.Parser
import JavaConstants.Proofs.Results

/-!
# Distinct keys

A parsed value has no object with two members of one name (`distinct_of_parse`): a container keeps
its members as they come, and puts them together when it is closed, a later one of a name in the
place of the earlier one. What holds of all values read so far is kept by every step of the parser
(`distinctState_step`).
-/

namespace JavaConstants

namespace Json

/-- Whether no object in a value has two members of one name. -/
inductive Distinct : Value → Prop where
  | null : Distinct .null
  | bool (b : Bool) : Distinct (.bool b)
  | number (n : Nat) : Distinct (.number n)
  | string (s : String) : Distinct (.string s)
  | array {items : List Value} (h : ∀ v ∈ items, Distinct v) : Distinct (.array items)
  | object {members : List (String × Value)} (hnodup : (members.map Prod.fst).Nodup)
    (h : ∀ m ∈ members, Distinct m.2) : Distinct (.object members)

theorem map_fst_insertMember (name : String) (v : Value) (ms : List (String × Value)) :
    (insertMember name v ms).map Prod.fst =
      if name ∈ ms.map Prod.fst then ms.map Prod.fst else ms.map Prod.fst ++ [name] := by
  induction ms with
  | nil => rfl
  | cons m ms ih =>
    rw [insertMember]
    by_cases hm : m.1 = name
    · rw [if_pos hm, if_pos (by simp [hm]), List.map_cons, List.map_cons, hm]
    · rw [if_neg hm, List.map_cons, ih]
      have hiff : name ∈ (m :: ms).map Prod.fst ↔ name ∈ ms.map Prod.fst := by
        rw [List.map_cons, List.mem_cons, or_iff_right fun h ↦ hm h.symm]
      simp only [hiff]
      split_ifs <;> rfl

theorem mem_insertMember {name : String} {v : Value} {ms : List (String × Value)}
    {m : String × Value} (h : m ∈ insertMember name v ms) : m = (name, v) ∨ m ∈ ms := by
  induction ms with
  | nil => exact .inl (List.mem_singleton.mp h)
  | cons m' ms ih =>
    rw [insertMember] at h
    split_ifs at h
    · exact (List.mem_cons.mp h).imp_right (List.mem_cons_of_mem _)
    · rcases List.mem_cons.mp h with rfl | h
      · exact .inr List.mem_cons_self
      · exact (ih h).imp_right (List.mem_cons_of_mem _)

theorem Distinct.insertMember {name : String} {v : Value} {ms : List (String × Value)}
    (hv : Distinct v) (h : Distinct (.object ms)) :
    Distinct (.object (Json.insertMember name v ms)) := by
  obtain ⟨hnodup, hms⟩ : (ms.map Prod.fst).Nodup ∧ ∀ m ∈ ms, Distinct m.2 := by
    cases h with
    | object hnodup h => exact ⟨hnodup, h⟩
  refine .object ?_ fun m hm ↦ ?_
  · rw [map_fst_insertMember]
    split_ifs with hmem
    · exact hnodup
    · refine List.nodup_append.mpr ⟨hnodup, List.nodup_singleton _, fun k hk k' hk' ↦ ?_⟩
      obtain rfl := List.mem_singleton.mp hk'
      exact ne_of_mem_of_not_mem hk hmem
  · rcases mem_insertMember hm with rfl | hm
    · exact hv
    · exact hms m hm

/-- Whether the values in an open container have distinct keys. -/
def Frame.Distinct : Frame → Prop
  | .array items => ∀ v ∈ items, Json.Distinct v
  | .object members _ => ∀ m ∈ members, Json.Distinct m.2

theorem Distinct.foldl_insertMember {ms acc : List (String × Value)}
    (hms : ∀ m ∈ ms, Distinct m.2) (hacc : Distinct (.object acc)) :
    Distinct (.object (ms.foldl (fun ms (k, v) ↦ Json.insertMember k v ms) acc)) := by
  induction ms generalizing acc with
  | nil => exact hacc
  | cons m ms ih =>
    rw [List.forall_mem_cons] at hms
    exact ih hms.2 (hms.1.insertMember hacc)

theorem Frame.Distinct.value {frame : Frame} (h : frame.Distinct) : Json.Distinct frame.value := by
  cases frame with
  | array items => exact .array fun v hv ↦ h v (List.mem_reverse.mp hv)
  | object members key =>
    have hmembers : ∀ m ∈ members.reverse, Json.Distinct m.2 := fun m hm ↦
      h m (List.mem_reverse.mp hm)
    exact .foldl_insertMember hmembers (.object List.nodup_nil (List.forall_mem_nil _))

/-- Whether the values read so far have distinct keys. -/
def DistinctState (state : List Frame × Expect) : Prop :=
  (∀ frame ∈ state.1, frame.Distinct) ∧ ∀ v, state.2 = .nothing v → Distinct v

theorem Distinct.complete {v : Value} (hv : Distinct v) {frames : List Frame}
    (h : ∀ frame ∈ frames, frame.Distinct) : DistinctState (complete v frames) := by
  rcases frames with _ | ⟨items | ⟨members, key⟩, frames⟩
  · exact ⟨nofun, fun w hw ↦ by cases hw; exact hv⟩
  all_goals
    rw [List.forall_mem_cons] at h
    exact ⟨List.forall_mem_cons.mpr ⟨List.forall_mem_cons.mpr ⟨hv, h.1⟩, h.2⟩, nofun⟩

theorem distinctState_close {frames : List Frame} (h : ∀ frame ∈ frames, frame.Distinct) :
    DistinctState (close frames) := by
  rcases frames with _ | ⟨frame, frames⟩
  · exact ⟨nofun, fun v hv ↦ by cases hv; exact .null⟩
  · rw [List.forall_mem_cons] at h
    exact h.1.value.complete h.2

theorem distinctState_startValue {t : Token} {frames : List Frame} {state : List Frame × Expect}
    (h : ∀ frame ∈ frames, frame.Distinct) (hs : startValue t frames = .ok state) :
    DistinctState state := by
  have hopen {frame : Frame} (hframe : frame.Distinct) {e : Expect} (he : ∀ v, e ≠ .nothing v) :
      DistinctState (frame :: frames, e) :=
    ⟨List.forall_mem_cons.mpr ⟨hframe, h⟩, fun v hv ↦ absurd hv (he v)⟩
  have harray : (Frame.array []).Distinct := fun v hv ↦ absurd hv List.not_mem_nil
  have hobject : (Frame.object [] "").Distinct := fun m hm ↦ absurd hm List.not_mem_nil
  rw [startValue] at hs
  split_ifs at hs
  · cases hs
    exact hopen harray nofun
  · cases hs
    exact hopen hobject nofun
  · split at hs <;> cases hs
    · exact Distinct.null.complete h
    · exact (Distinct.bool _).complete h
    · exact (Distinct.number _).complete h
    · exact (Distinct.string _).complete h

theorem distinctState_startKey {t : Token} {frames : List Frame} {state : List Frame × Expect}
    (h : ∀ frame ∈ frames, frame.Distinct) (hs : startKey t frames = .ok state) :
    DistinctState state := by
  unfold startKey at hs
  split at hs
  · split at hs <;> cases hs
    rw [List.forall_mem_cons] at h
    exact ⟨List.forall_mem_cons.mpr ⟨h.1, h.2⟩, nofun⟩
  · cases hs

theorem distinctState_step {t : Token} {frames : List Frame} {expect : Expect}
    {state : List Frame × Expect} (h : ∀ frame ∈ frames, frame.Distinct)
    (hs : step t frames expect = .ok state) : DistinctState state := by
  have hstay {e : Expect} (he : ∀ v, e ≠ .nothing v) : DistinctState (frames, e) :=
    ⟨h, fun v hv ↦ absurd hv (he v)⟩
  cases expect with
  | value => exact distinctState_startValue h hs
  | key => exact distinctState_startKey h hs
  | firstItem =>
    rw [step] at hs
    split_ifs at hs
    · cases hs
      exact distinctState_close h
    · exact distinctState_startValue h hs
  | firstKey =>
    rw [step] at hs
    split_ifs at hs
    · cases hs
      exact distinctState_close h
    · exact distinctState_startKey h hs
  | nextItem | nextMember =>
    rw [step] at hs
    split_ifs at hs <;> cases hs
    · exact distinctState_close h
    · exact hstay nofun
  | colon =>
    rw [step] at hs
    split_ifs at hs
    cases hs
    exact hstay nofun
  | nothing => cases hs

theorem eq_nothing_of_atEnd {expect : Expect} {f : ErrorCause → Fault} {v : Value}
    (h : expect.atEnd.mapError f = .ok v) : expect = .nothing v := by
  cases expect with
  | nothing =>
    cases h
    rfl
  | _ => cases h

theorem distinct_of_run {frames : List Frame} {expect : Expect} {ts : List Token} {v : Value}
    (h : DistinctState (frames, expect)) (hrun : run frames expect ts = .ok v) : Distinct v := by
  induction ts generalizing frames expect with
  | nil => exact h.2 v (eq_nothing_of_atEnd hrun)
  | cons t ts ih =>
    rcases ts with _ | ⟨next, ts⟩
    · rw [run] at hrun
      obtain ⟨state, hs, hend⟩ := bind_eq_ok hrun
      exact (distinctState_step h.1 hs).2 v (eq_nothing_of_atEnd hend)
    · rw [run] at hrun
      obtain ⟨state, hs, hrest⟩ := bind_eq_ok hrun
      dsimp only at hrest
      split at hrest
      · cases hrest
      · exact ih (distinctState_step h.1 hs) hrest

/-- Every parsed value has distinct keys. -/
theorem distinct_of_parse {bytes : List UInt8} {v : Value} (h : parse bytes = .ok v) :
    Distinct v := by
  have hstart : DistinctState ([], .value) := ⟨List.forall_mem_nil _, nofun⟩
  exact distinct_of_run hstart (mapError_eq_ok h)

end Json

end JavaConstants
