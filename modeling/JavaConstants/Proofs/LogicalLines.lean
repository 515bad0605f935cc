import Mathlib.Data.List.TakeWhile
import JavaConstants.Proofs.StoredProperties
import JavaConstants.Proofs.Units

/-!
# Logical lines, unit by unit

A reader of properties that goes through the text once, unit by unit, and keeps a few flags
(`LineState`, `turn`, `readLines`). There are two of them. For one, a natural line that is joined is
part of a logical line in any case; it finds the logical lines that one finds by splitting the text
into natural lines and joining them (`readLines_textUnits`). For the other, which is that of the
class library, a logical line with nothing in it has not begun, even behind a join. The two find the
same unless nothing stands in a logical line when a natural line is joined that says nothing, or
that begins with the sign of a comment (`stumbles`, `readLines_of_not_stumbles`).
-/

namespace JavaConstants

namespace Properties

/-! ## The reader -/

/-- Whether a unit is a blank, a tab or a form feed. -/
def isBlank (u : Nat) : Bool := u == ' '.toNat || u == '\t'.toNat || u == '\x0c'.toNat

/-- Whether a unit makes a comment of the line it begins. -/
def isSign (u : Nat) : Bool := u == '#'.toNat || u == '!'.toNat

/-- What the reader knows of the logical line that it is in. -/
structure LineState where
  /-- The logical line so far. -/
  line : List Nat := []
  /-- Whether blanks are passed over. -/
  skips : Bool := true
  /-- Whether nothing but blanks was read since a natural line was joined. -/
  joined : Bool := false
  /-- Whether an odd number of backslashes stands right before. -/
  escaped : Bool := false

namespace LineState

/-- Whether a logical line has begun. Where `keeps` is set, a join is enough. -/
def isBegun (keeps : Bool) (s : LineState) : Bool := !s.line.isEmpty || keeps && s.joined

/-- The logical line at the end of the text. An open backslash is no part of it. -/
def last (s : LineState) : List Nat := if s.escaped then s.line.dropLast else s.line

theorem isBegun_empty (keeps : Bool) : isBegun keeps {} = false := Bool.and_false keeps

end LineState

/-- What follows a line end that begins with a unit: a line feed behind a carriage return is part of
it. -/
def behindLineEnd (u : Nat) (us : List Nat) : List Nat :=
  if u == '\r'.toNat && us.head? == some '\n'.toNat then us.drop 1 else us

theorem behindLineEnd_nil (u : Nat) : behindLineEnd u [] = [] := by simp [behindLineEnd]

/-- What the reader does with a unit: the logical line that it ends, if any, what is known then, and
what is left to read. -/
def turn (keeps : Bool) (s : LineState) (u : Nat) (us : List Nat) :
    Option (List Nat) × LineState × List Nat :=
  if s.skips && (isBlank u || (isLineEnd u && !s.joined)) then (none, s, us)
  else if !s.isBegun keeps && isSign u then (none, {}, (us.dropWhile (!isLineEnd ·)).drop 1)
  else if !isLineEnd u then
    (none, ⟨s.line ++ [u], false, false, u == '\\'.toNat && !s.escaped⟩, us)
  else if !s.isBegun keeps then (none, {}, us)
  else if s.escaped && !us.isEmpty then
    (none, ⟨s.line.dropLast, true, true, false⟩, behindLineEnd u us)
  else (some s.last, {}, us)

theorem length_turn_le (keeps : Bool) (s : LineState) (u : Nat) (us : List Nat) :
    (turn keeps s u us).2.2.length ≤ us.length := by
  have hcomment : ((us.dropWhile (!isLineEnd ·)).drop 1).length ≤ us.length := by
    have hdrop := List.length_dropWhile_le (!isLineEnd ·) us
    rw [List.length_drop]
    omega
  have hjoin : (behindLineEnd u us).length ≤ us.length := by
    rw [behindLineEnd]
    split_ifs
    · rw [List.length_drop]
      omega
    · exact Nat.le_refl _
  rw [turn]
  split_ifs
  · exact Nat.le_refl _
  · exact hcomment
  · exact Nat.le_refl _
  · exact Nat.le_refl _
  · exact hjoin
  · exact Nat.le_refl _

/-- The logical lines of a text, as the reader finds them. -/
def readLines (keeps : Bool) (s : LineState) : List Nat → List (List Nat)
  | [] => if s.isBegun keeps then [s.last] else []
  | u :: us =>
    (turn keeps s u us).1.toList ++ readLines keeps (turn keeps s u us).2.1 (turn keeps s u us).2.2
termination_by us => us.length
decreasing_by exact Nat.lt_succ_of_le (length_turn_le keeps s u us)

/-- Whether a join leaves nothing in a logical line, and blanks at most follow it up to a line end,
the sign of a comment or the end of the text. -/
def stumbles (s : LineState) : List Nat → Bool
  | [] => s.joined && s.line.isEmpty
  | u :: us => (s.joined && s.line.isEmpty && (isLineEnd u || isSign u)) ||
    stumbles (turn false s u us).2.1 (turn false s u us).2.2
termination_by us => us.length
decreasing_by exact Nat.lt_succ_of_le (length_turn_le false s u us)

theorem LineState.isBegun_of_not {s : LineState} (h : (s.joined && s.line.isEmpty) = false) :
    s.isBegun true = s.isBegun false := by
  rw [isBegun, isBegun]
  revert h
  rcases s.joined <;> rcases s.line.isEmpty <;> decide

theorem turn_of_not_stumbles {s : LineState} {u : Nat}
    (h : (s.joined && s.line.isEmpty && (isLineEnd u || isSign u)) = false) (us : List Nat) :
    turn true s u us = turn false s u us := by
  by_cases hempty : (s.joined && s.line.isEmpty) = true
  · -- The unit is an ordinary one, and whether a line has begun is not asked.
    rw [hempty, Bool.true_and, Bool.or_eq_false_iff] at h
    simp [turn, h.1, h.2]
  · rw [turn, turn, LineState.isBegun_of_not (Bool.not_eq_true _ ▸ hempty)]

/-- Where the reader does not stumble, it is all one what has begun a logical line. -/
theorem readLines_of_not_stumbles {s : LineState} {us : List Nat} (h : stumbles s us = false) :
    readLines true s us = readLines false s us := by
  fun_induction stumbles s us with
  | case1 s => rw [readLines, readLines, LineState.isBegun_of_not h]
  | case2 s u us ih =>
    rw [Bool.or_eq_false_iff] at h
    rw [readLines, readLines, turn_of_not_stumbles h.1, ih h.2]

/-! ## Turns

What one turn of the reader does, for each kind of unit that it may meet. -/

section Turns

variable {keeps : Bool} {s s' : LineState} {u : Nat} {us us' : List Nat}

theorem readLines_nil (keeps : Bool) : readLines keeps {} [] = [] := by
  rw [readLines, LineState.isBegun_empty]
  rfl

theorem readLines_of_turn (h : turn keeps s u us = (none, s', us')) :
    readLines keeps s (u :: us) = readLines keeps s' us' := by
  rw [readLines, h]
  rfl

theorem readLines_skip (hskips : s.skips = true)
    (hu : isBlank u = true ∨ isLineEnd u = true ∧ s.joined = false) :
    readLines keeps s (u :: us) = readLines keeps s us := by
  refine readLines_of_turn ?_
  rw [turn, if_pos]
  rcases hu with hu | ⟨hu, hjoined⟩
  · simp [hskips, hu]
  · simp [hskips, hu, hjoined]

theorem readLines_sign (hbegun : s.isBegun keeps = false) (hblank : isBlank u = false)
    (hend : isLineEnd u = false) (hsign : isSign u = true) :
    readLines keeps s (u :: us) = readLines keeps {} ((us.dropWhile (!isLineEnd ·)).drop 1) := by
  refine readLines_of_turn ?_
  rw [turn, if_neg (by simp [hblank, hend]), if_pos (by simp [hbegun, hsign])]

theorem readLines_unit (hblank : s.skips = true → isBlank u = false) (hend : isLineEnd u = false)
    (hsign : s.isBegun keeps = false → isSign u = false) :
    readLines keeps s (u :: us) =
      readLines keeps ⟨s.line ++ [u], false, false, u == '\\'.toNat && !s.escaped⟩ us := by
  refine readLines_of_turn ?_
  rw [turn, if_neg, if_neg, if_pos (by simp [hend])]
  · simpa using hsign
  · rw [hend, Bool.false_and, Bool.or_false]
    simpa using hblank

theorem readLines_join (hskips : s.skips = false) (hend : isLineEnd u = true)
    (hbegun : s.isBegun keeps = true) (hescaped : s.escaped = true) (hus : us ≠ []) :
    readLines keeps s (u :: us) =
      readLines keeps ⟨s.line.dropLast, true, true, false⟩ (behindLineEnd u us) := by
  refine readLines_of_turn ?_
  rw [turn, if_neg (by simp [hskips]), if_neg (by simp [hbegun]), if_neg (by simp [hend]),
    if_neg (by simp [hbegun]), if_pos (by simp [hescaped, hus])]

theorem readLines_end (hskips : s.skips = true → isBlank u = false ∧ s.joined = true)
    (hend : isLineEnd u = true) (hbegun : s.isBegun keeps = true)
    (hescaped : s.escaped = true → us = []) :
    readLines keeps s (u :: us) = s.last :: readLines keeps {} us := by
  have hturn : turn keeps s u us = (some s.last, {}, us) := by
    rw [turn, if_neg, if_neg (by simp [hbegun]), if_neg (by simp [hend]), if_neg (by simp [hbegun]),
      if_neg]
    · simpa using hescaped
    · intro h
      rw [Bool.and_eq_true] at h
      obtain ⟨hblank, hjoined⟩ := hskips h.1
      simp [hblank, hjoined] at h
  rw [readLines, hturn]
  rfl

end Turns

/-! ## Characters -/

theorem isBlank_toNat (c : Char) : isBlank c.toNat = isSpace c := by
  rw [isBlank, isSpace, beq_toNat, beq_toNat, beq_toNat]

theorem isLineEnd_toNat (c : Char) : isLineEnd c.toNat = (c == '\n' || c == '\r') := by
  rw [isLineEnd, beq_toNat, beq_toNat]

theorem isSign_toNat (c : Char) : isSign c.toNat = (c == '#' || c == '!') := by
  rw [isSign, beq_toNat, beq_toNat]

theorem of_surrogate {u : Nat} (hu : 0xD800 ≤ u) : isBlank u = false ∧ isLineEnd u = false ∧
    isSign u = false ∧ (u == '\\'.toNat) = false := by
  have hne (c : Char) (hc : c.toNat < 0xD800) : (u == c.toNat) = false :=
    beq_toNat_of_lt (Nat.lt_of_lt_of_le hc hu)
  refine ⟨?_, ?_, ?_, hne '\\' (by decide)⟩
  · rw [isBlank, hne ' ' (by decide), hne '\t' (by decide), hne '\x0c' (by decide)]
    rfl
  · rw [isLineEnd, hne '\n' (by decide), hne '\r' (by decide)]
    rfl
  · rw [isSign, hne '#' (by decide), hne '!' (by decide)]
    rfl

theorem isLineEnd_of_mem_textUnits {text : List Char} (htext : ∀ c ∈ text, c ≠ '\n' ∧ c ≠ '\r') :
    ∀ u ∈ textUnits text, isLineEnd u = false := by
  intro u hu
  obtain ⟨c, hc, hu⟩ := List.mem_flatMap.mp hu
  rcases charUnits_eq_or c with hunits | ⟨_, high, low, hunits, hhigh, hlow⟩
  · rw [hunits, List.mem_singleton] at hu
    simp [hu, isLineEnd_toNat, htext c hc]
  · rw [hunits, List.mem_cons, List.mem_singleton] at hu
    exact (of_surrogate (by omega)).2.1

theorem readLines_char {keeps : Bool} {s : LineState} {c : Char}
    (hblank : s.skips = true → isSpace c = false) (hend : c ≠ '\n' ∧ c ≠ '\r')
    (hsign : s.isBegun keeps = false → isSilent [c] = false) (us : List Nat) :
    readLines keeps s (charUnits c ++ us) =
      readLines keeps ⟨s.line ++ charUnits c, false, false, c == '\\' && !s.escaped⟩ us := by
  rcases charUnits_eq_or c with hunits | ⟨hlarge, high, low, hunits, hhigh, hlow⟩
  · rw [hunits, List.singleton_append, readLines_unit, beq_toNat]
    · rwa [isBlank_toNat]
    · simp [isLineEnd_toNat, hend]
    · rwa [isSign_toNat]
  · obtain ⟨hblankHigh, hendHigh, hsignHigh, hslashHigh⟩ := of_surrogate hhigh
    obtain ⟨_, hendLow, hsignLow, hslashLow⟩ := of_surrogate hlow
    have hslash : (c == '\\') = false := by
      rw [← beq_toNat, beq_toNat_of_lt (Nat.lt_of_lt_of_le (by decide) hlarge)]
    rw [hunits, List.cons_append, List.singleton_append,
      readLines_unit (fun _ ↦ hblankHigh) hendHigh (fun _ ↦ hsignHigh),
      readLines_unit (absurd · Bool.false_ne_true) hendLow (fun _ ↦ hsignLow), hslashHigh,
      hslashLow, hslash]
    simp

/-! ## Natural lines

A natural line is passed over, ends the logical line that it belongs to, or leaves it open.
`readLines_step` has the three together, as one step of the function that joins lines. -/

theorem isContinued_append_singleton (text : List Char) (c : Char) :
    isContinued (text ++ [c]) = (c == '\\' && !isContinued text) := by
  by_cases hc : c = '\\'
  · rw [hc, isContinued_concat]
    rfl
  · rw [isContinued_of_getLast hc, beq_eq_false_iff_ne.mpr hc, Bool.false_and]

/-- A line ends in one open backslash at most. -/
theorem isContinued_dropLast {text : List Char} (h : isContinued text = true) :
    isContinued text.dropLast = false := by
  rcases List.eq_nil_or_concat' text with rfl | ⟨front, c, rfl⟩
  · rfl
  · rw [isContinued_append_singleton, Bool.and_eq_true, Bool.not_eq_true'] at h
    rw [List.dropLast_concat, h.2]

theorem isContinued_of_mem_logicalLines {number : Nat} {begun : Option (Nat × List Char)}
    {lines : List (List Char)} (hbegun : ∀ b ∈ begun, isContinued b.2 = false) :
    ∀ l ∈ logicalLines number begun lines, isContinued l.2 = false := by
  fun_induction logicalLines number begun lines with
  | case1 => exact nofun
  | case2 number b => simpa using hbegun
  | case3 number line lines text hsilent ih => exact ih nofun
  | case4 number line lines text hsilent hcontinued ih =>
    exact ih (by rintro _ ⟨rfl⟩; exact isContinued_dropLast hcontinued)
  | case5 number line lines text hsilent hclosed ih =>
    exact List.forall_mem_cons.mpr ⟨Bool.not_eq_true _ ▸ hclosed, ih nofun⟩
  | case6 number line lines start text joined hcontinued ih =>
    exact ih (by rintro _ ⟨rfl⟩; exact isContinued_dropLast hcontinued)
  | case7 number line lines start text joined hclosed ih =>
    exact List.forall_mem_cons.mpr ⟨Bool.not_eq_true _ ▸ hclosed, ih nofun⟩

namespace LineState

/-- What the reader knows behind a character of a logical line. -/
def within (text : List Char) : LineState := ⟨textUnits text, false, false, isContinued text⟩

/-- What the reader knows at the start of a natural line, which may continue a text. -/
def start : Option (List Char) → LineState
  | none => {}
  | some text => ⟨textUnits text, true, true, false⟩

variable {text : List Char}

theorem textUnits_eq_nil_iff : textUnits text = [] ↔ text = [] := by
  rcases text with _ | ⟨c, cs⟩
  · simp
  · rcases charUnits_eq_or c with hunits | ⟨_, _, _, hunits, _⟩ <;> simp [hunits]

theorem isBegun_within (htext : text ≠ []) (keeps : Bool) : (within text).isBegun keeps = true := by
  simp [isBegun, within, textUnits_eq_nil_iff, htext]

theorem isBegun_start_some (text : List Char) : (start (some text)).isBegun true = true := by
  simp [isBegun, start]

end LineState

variable {text : List Char} {us rest : List Nat}

theorem readLines_within {keeps : Bool} (htext : text ≠ []) {more : List Char}
    (hmore : ∀ c ∈ more, c ≠ '\n' ∧ c ≠ '\r') (us : List Nat) :
    readLines keeps (.within text) (textUnits more ++ us) =
      readLines keeps (.within (text ++ more)) us := by
  induction more generalizing text with
  | nil => rw [List.append_nil]; rfl
  | cons c more ih =>
    rw [List.forall_mem_cons] at hmore
    have hbegun := LineState.isBegun_within htext keeps
    have hstate : LineState.within (text ++ [c]) = ⟨(LineState.within text).line ++ charUnits c,
        false, false, c == '\\' && !(LineState.within text).escaped⟩ := by
      simp [LineState.within, isContinued_append_singleton]
    rw [textUnits_cons, List.append_assoc, readLines_char (absurd · Bool.false_ne_true) hmore.1
        (by simp [hbegun]),
      ← hstate, ih (by simp) hmore.2, List.append_assoc, List.singleton_append]

theorem readLines_first {begun : Option (List Char)} (hbegun : isContinued (begun.getD []) = false)
    {c : Char} (hblank : isSpace c = false) (hend : c ≠ '\n' ∧ c ≠ '\r')
    (hsign : begun = none → isSilent [c] = false) (us : List Nat) :
    readLines true (.start begun) (charUnits c ++ us) =
      readLines true (.within (begun.getD [] ++ [c])) us := by
  have hstate : LineState.within (begun.getD [] ++ [c]) =
      ⟨(LineState.start begun).line ++ charUnits c, false, false,
        c == '\\' && !(LineState.start begun).escaped⟩ := by
    rw [LineState.within, isContinued_append_singleton, hbegun]
    rcases begun with _ | text <;> simp [LineState.start]
  rw [readLines_char (fun _ ↦ hblank) hend, hstate]
  intro h
  rcases begun with _ | text
  · exact hsign rfl
  · rw [LineState.isBegun_start_some] at h
    cases h

theorem readLines_blanks {keeps : Bool} {s : LineState} (hskips : s.skips = true)
    {blanks : List Char} (hblanks : ∀ c ∈ blanks, isSpace c = true) (us : List Nat) :
    readLines keeps s (textUnits blanks ++ us) = readLines keeps s us := by
  induction blanks with
  | nil => rfl
  | cons c blanks ih =>
    rw [List.forall_mem_cons] at hblanks
    have hunits : charUnits c = [c.toNat] := by
      rcases charUnits_eq_or c with hunits | ⟨hlarge, _⟩
      · exact hunits
      · have hblank := (of_surrogate (u := c.toNat) (by omega)).1
        rw [isBlank_toNat, hblanks.1] at hblank
        cases hblank
    rw [textUnits_cons, hunits, List.singleton_append, List.cons_append,
      readLines_skip hskips (.inl ((isBlank_toNat c).trans hblanks.1)), ih hblanks.2]

/-- The units from the end of a natural line on, and those behind it. -/
inductive EndsLine : List Nat → List Nat → Prop where
  /-- The end of the text. -/
  | last : EndsLine [] []
  /-- A line end. A second unit of it, if any, is passed over behind the first. -/
  | newline {u : Nat} {us rest : List Nat} (hend : isLineEnd u = true)
    (hjoin : behindLineEnd u us = rest) (hfirst : us = rest ∨ us = '\n'.toNat :: rest) :
    EndsLine (u :: us) rest

theorem isBlank_of_isLineEnd {u : Nat} (h : isLineEnd u = true) : isBlank u = false := by
  rw [isLineEnd, Bool.or_eq_true, beq_iff_eq, beq_iff_eq] at h
  rcases h with rfl | rfl <;> rfl

namespace EndsLine

variable {keeps : Bool}

theorem readLines_behind (h : us = rest ∨ us = '\n'.toNat :: rest) :
    readLines keeps {} us = readLines keeps {} rest := by
  rcases h with rfl | rfl
  · rfl
  · exact readLines_skip rfl (.inr ⟨rfl, rfl⟩)

theorem readLines_blank (h : EndsLine us rest) :
    readLines keeps {} us = readLines keeps {} rest := by
  rcases h with _ | ⟨hend, _, hfirst⟩
  · rfl
  · rw [readLines_skip rfl (.inr ⟨hend, rfl⟩), readLines_behind hfirst]

theorem readLines_comment (h : EndsLine us rest) (keeps : Bool) {sign : Char}
    (hsign : isSilent [sign] = true) {text : List Char}
    (htext : ∀ c ∈ text, c ≠ '\n' ∧ c ≠ '\r') :
    readLines keeps {} (textUnits (sign :: text) ++ us) = readLines keeps {} rest := by
  have hunits : charUnits sign = [sign.toNat] ∧ isBlank sign.toNat = false ∧
      isLineEnd sign.toNat = false ∧ isSign sign.toNat = true := by
    rw [isSilent, Bool.or_eq_true, beq_iff_eq, beq_iff_eq] at hsign
    rcases hsign with rfl | rfl <;> decide
  obtain ⟨hunits, hblank, hend, hsign⟩ := hunits
  have hdrop : ∀ u ∈ textUnits text, (!isLineEnd u) = true := by
    simpa using isLineEnd_of_mem_textUnits htext
  rw [textUnits_cons, hunits, List.singleton_append, List.cons_append,
    readLines_sign (LineState.isBegun_empty keeps) hblank hend hsign,
    List.dropWhile_append_of_pos hdrop]
  rcases h with _ | ⟨hend, _, hfirst⟩
  · rfl
  · rw [List.dropWhile_cons_of_neg (by simp [hend]), List.drop_one, List.tail_cons,
      readLines_behind hfirst]

theorem readLines_joined (h : EndsLine us rest) (text : List Char) :
    readLines true (.start (some text)) us = textUnits text :: readLines true {} rest := by
  have hbegun := LineState.isBegun_start_some text
  rcases h with _ | ⟨hend, _, hfirst⟩
  · rw [readLines, if_pos hbegun, readLines_nil]
    rfl
  · rw [readLines_end (fun _ ↦ ⟨isBlank_of_isLineEnd hend, rfl⟩) hend hbegun
      (absurd · Bool.false_ne_true), readLines_behind hfirst]
    rfl

theorem readLines_closed (h : EndsLine us rest) (htext : text ≠ [])
    (hclosed : isContinued text = false) :
    readLines true (.within text) us = textUnits text :: readLines true {} rest := by
  have hbegun := LineState.isBegun_within htext true
  have hlast : (LineState.within text).last = textUnits text := by
    rw [LineState.last, LineState.within, hclosed]
    rfl
  rcases h with _ | ⟨hend, _, hfirst⟩
  · rw [readLines, if_pos hbegun, hlast, readLines_nil]
  · rw [readLines_end (absurd · Bool.false_ne_true) hend hbegun, hlast, readLines_behind hfirst]
    intro hescaped
    rw [LineState.within, hclosed] at hescaped
    cases hescaped

theorem readLines_open (h : EndsLine us rest) (htext : isContinued text = true) :
    readLines true (.within text) us = readLines true (.start (some text.dropLast)) rest := by
  have hne : text ≠ [] := by
    rintro rfl
    cases htext
  have hbegun := LineState.isBegun_within hne true
  have hline : (textUnits text).dropLast = textUnits text.dropLast := by
    obtain ⟨front, c, rfl⟩ := (List.eq_nil_or_concat' text).resolve_left hne
    rw [isContinued_append_singleton, Bool.and_eq_true, beq_iff_eq] at htext
    rw [htext.1, textUnits_append, List.dropLast_concat]
    exact List.dropLast_concat
  have hlast : (LineState.within text).last = textUnits text.dropLast := by
    rw [LineState.last, LineState.within, htext]
    exact hline
  have hend : readLines true (.start (some text.dropLast)) [] = [textUnits text.dropLast] := by
    rw [readLines, if_pos (LineState.isBegun_start_some _)]
    rfl
  rcases h with _ | @⟨u, us, _, hu, hjoin, _⟩
  · rw [readLines, if_pos hbegun, hlast, hend]
  · by_cases hus : us = []
    · -- A line end that the text ends with joins nothing, and drops the backslash all the same.
      subst hus
      subst hjoin
      rw [readLines_end (absurd · Bool.false_ne_true) hu hbegun (fun _ ↦ rfl), hlast,
        behindLineEnd_nil, hend, readLines_nil]
    · rw [readLines_join rfl hu hbegun htext hus, hjoin, LineState.start, ← hline]
      rfl

end EndsLine

section Step

variable {lines : List (List Char)}
  (hrest : ∀ (begun : Option (Nat × List Char)) (number : Nat),
    (∀ b ∈ begun, isContinued b.2 = false) →
    readLines true (.start (begun.map (·.2))) rest =
      (logicalLines number begun lines).map fun l ↦ textUnits l.2)

include hrest

theorem readLines_joinedTo (h : EndsLine us rest) {line : List Char} {c : Char} {more : List Char}
    (hdrop : line.dropWhile isSpace = c :: more) (b : Nat × List Char) (number : Nat) :
    readLines true (.within (b.2 ++ c :: more)) us =
      (logicalLines number (some b) (line :: lines)).map fun l ↦ textUnits l.2 := by
  obtain ⟨start, text⟩ := b
  rw [logicalLines, hdrop]
  by_cases hcontinued : isContinued (text ++ c :: more) = true
  · -- The backslash that is dropped was the only open one.
    have hclosed := isContinued_dropLast hcontinued
    have hsome := hrest (some (start, (text ++ c :: more).dropLast)) (number + 1)
      (by rintro _ ⟨rfl⟩; exact hclosed)
    rw [h.readLines_open hcontinued, if_pos hcontinued, ← hsome]
    rfl
  · have hnone := hrest none (number + 1) (by rintro _ ⟨⟩)
    rw [h.readLines_closed (by simp) (Bool.not_eq_true _ ▸ hcontinued), if_neg hcontinued,
      List.map_cons, ← hnone]
    rfl

/-- A natural line is read into the logical lines that it is joined into. -/
theorem readLines_step (h : EndsLine us rest) {line : List Char}
    (hline : ∀ c ∈ line, c ≠ '\n' ∧ c ≠ '\r') (begun : Option (Nat × List Char)) (number : Nat)
    (hbegun : ∀ b ∈ begun, isContinued b.2 = false) :
    readLines true (.start (begun.map (·.2))) (textUnits line ++ us) =
      (logicalLines number begun (line :: lines)).map fun l ↦ textUnits l.2 := by
  have hskips : (LineState.start (begun.map (·.2))).skips = true := by
    rcases begun with _ | b <;> rfl
  have hnone := hrest none (number + 1) nofun
  have hblanks : readLines true (.start (begun.map (·.2))) (textUnits line ++ us) =
      readLines true (.start (begun.map (·.2))) (textUnits (line.dropWhile isSpace) ++ us) := by
    conv_lhs => rw [← line.takeWhile_append_dropWhile (p := isSpace), textUnits_append]
    rw [List.append_assoc, readLines_blanks hskips fun c ↦ List.mem_takeWhile_imp]
  rw [hblanks]
  rcases hdrop : line.dropWhile isSpace with _ | ⟨c, more⟩
  · rw [textUnits_nil, List.nil_append]
    rcases begun with _ | b
    · rw [logicalLines, hdrop]
      exact h.readLines_blank.trans hnone
    · rw [logicalLines, hdrop, List.append_nil, hbegun b rfl]
      exact (h.readLines_joined b.2).trans (congrArg _ hnone)
  · have hmem : ∀ d ∈ c :: more, d ≠ '\n' ∧ d ≠ '\r' := fun d hd ↦
      hline d (line.dropWhile_subset isSpace (hdrop ▸ hd))
    have hblank : isSpace c = false := of_dropWhile_eq_cons hdrop
    by_cases hsign : begun = none ∧ isSilent [c] = true
    · obtain ⟨rfl, hsign⟩ := hsign
      rw [logicalLines, hdrop]
      have hcomment := h.readLines_comment true hsign (List.forall_mem_cons.mp hmem).2
      exact hcomment.trans (hnone.trans (by rw [if_pos]; exact hsign))
    · -- A logical line that begins here is like one that continues the empty text.
      obtain ⟨b, hb, htext, hlines⟩ : ∃ b : Nat × List Char, isContinued b.2 = false ∧
          (begun.map (·.2)).getD [] = b.2 ∧
          logicalLines number begun (line :: lines) =
            logicalLines number (some b) (line :: lines) := by
        rcases begun with _ | b
        · refine ⟨(number, []), rfl, rfl, logicalLines_begin ?_ number lines⟩
          rw [hdrop]
          exact Bool.not_eq_true _ ▸ fun hc ↦ hsign ⟨rfl, hc⟩
        · exact ⟨b, hbegun b rfl, rfl, rfl⟩
      have hsilent : begun.map (·.2) = none → isSilent [c] = false := fun hnil ↦
        Bool.not_eq_true _ ▸ fun hc ↦ hsign ⟨Option.map_eq_none_iff.mp hnil, hc⟩
      rw [hlines, ← readLines_joinedTo hrest h hdrop b number, textUnits_cons, List.append_assoc,
        readLines_first (by rwa [htext]) hblank (hmem c List.mem_cons_self) hsilent, htext,
        readLines_within (by simp) (fun d hd ↦ hmem d (List.mem_cons_of_mem _ hd)),
        List.append_assoc, List.singleton_append]

end Step

/-! ## Texts in lines -/

/-- A text with its natural lines, each ended in one of three ways. -/
inductive InLines : List Char → List (List Char) → Prop where
  | last {line : List Char} (hline : ∀ c ∈ line, c ≠ '\n' ∧ c ≠ '\r') : InLines line [line]
  | more {line newline cs : List Char} {lines : List (List Char)}
    (hline : ∀ c ∈ line, c ≠ '\n' ∧ c ≠ '\r') (hnewline : newline ∈ [['\n'], ['\r', '\n'], ['\r']])
    (hcs : newline = ['\r'] → cs.head? ≠ some '\n') (h : InLines cs lines) :
    InLines (line ++ (newline ++ cs)) (line :: lines)

theorem exists_naturalLine (cs : List Char) : ∃ line rest, cs = line ++ rest ∧
    (∀ c ∈ line, c ≠ '\n' ∧ c ≠ '\r') ∧
    (rest = [] ∨ ∃ newline more, rest = newline ++ more ∧
      newline ∈ [['\n'], ['\r', '\n'], ['\r']] ∧ (newline = ['\r'] → more.head? ≠ some '\n')) := by
  let p (c : Char) : Bool := c != '\n' && c != '\r'
  refine ⟨cs.takeWhile p, cs.dropWhile p, List.takeWhile_append_dropWhile.symm, fun c hc ↦ ?_, ?_⟩
  · simpa [p] using List.mem_takeWhile_imp hc
  · rcases hdrop : cs.dropWhile p with _ | ⟨c, more⟩
    · exact .inl rfl
    · have hc : c = '\n' ∨ c = '\r' := by
        simpa [p, or_iff_not_imp_left] using of_dropWhile_eq_cons hdrop
      refine .inr ?_
      rcases hc with rfl | rfl
      · exact ⟨['\n'], more, rfl, by decide, nofun⟩
      · by_cases hfeed : more.head? = some '\n'
        · rcases more with _ | ⟨c, more⟩
          · cases hfeed
          · cases hfeed
            exact ⟨['\r', '\n'], more, rfl, by decide, nofun⟩
        · exact ⟨['\r'], more, rfl, by decide, fun _ ↦ hfeed⟩

/-- The natural lines are those that one finds with all line ends made line feeds. -/
theorem inLines_splitOn (cs : List Char) : InLines cs ((normalizeNewlines cs).splitOn '\n') := by
  induction hlength : cs.length using Nat.strong_induction_on generalizing cs with
  | _ n ih =>
    obtain ⟨line, rest, rfl, hline, hrest⟩ := exists_naturalLine cs
    have hfeed : '\n' ∉ line := fun h ↦ (hline _ h).1 rfl
    have hreturn : '\r' ∉ line := fun h ↦ (hline _ h).2 rfl
    rw [normalizeNewlines_append hreturn]
    rcases hrest with rfl | ⟨newline, more, rfl, hnewline, hmore⟩
    · rw [normalizeNewlines, List.append_nil, List.splitOn_eq_singleton hfeed]
      exact .last hline
    · have hpos : 0 < newline.length := by
        simp only [List.mem_cons, List.not_mem_nil, or_false] at hnewline
        rcases hnewline with rfl | rfl | rfl <;> decide
      rw [normalizeNewlines_newline hnewline hmore, List.splitOn_append_cons_self,
        List.splitOn_eq_singleton hfeed, List.singleton_append]
      rw [List.length_append, List.length_append] at hlength
      exact .more hline hnewline hmore (ih _ (by omega) more rfl)

theorem endsLine_newline {newline cs : List Char}
    (hnewline : newline ∈ [['\n'], ['\r', '\n'], ['\r']])
    (hcs : newline = ['\r'] → cs.head? ≠ some '\n') :
    EndsLine (textUnits (newline ++ cs)) (textUnits cs) := by
  simp only [List.mem_cons, List.not_mem_nil, or_false] at hnewline
  rcases hnewline with rfl | rfl | rfl
  · exact .newline rfl rfl (.inl rfl)
  · exact .newline rfl rfl (.inr rfl)
  · have hhead : (textUnits cs).head? ≠ some '\n'.toNat := by
      rcases cs with _ | ⟨c, cs⟩
      · exact nofun
      · rcases charUnits_eq_or c with hunits | ⟨_, high, low, hunits, hhigh, _⟩
        · rw [textUnits_cons, hunits, List.singleton_append, List.head?_cons, Ne, Option.some_inj,
            Char.toNat_inj]
          exact fun hc ↦ hcs rfl (congrArg some hc)
        · rw [textUnits_cons, hunits, List.cons_append, List.head?_cons, Ne, Option.some_inj]
          exact fun hfeed ↦ absurd (hfeed ▸ hhigh) (by decide)
    refine .newline rfl (if_neg ?_) (.inl rfl)
    rw [Bool.and_eq_true, beq_iff_eq, beq_iff_eq]
    exact fun h ↦ hhead h.2

theorem readLines_inLines {cs : List Char} {lines : List (List Char)} (h : InLines cs lines)
    (begun : Option (Nat × List Char)) (number : Nat)
    (hbegun : ∀ b ∈ begun, isContinued b.2 = false) :
    readLines true (.start (begun.map (·.2))) (textUnits cs) =
      (logicalLines number begun lines).map fun l ↦ textUnits l.2 := by
  induction h generalizing begun number with
  | @last line hline =>
    have hend (begun : Option (Nat × List Char)) (number : Nat)
        (_ : ∀ b ∈ begun, isContinued b.2 = false) :
        readLines true (.start (begun.map (·.2))) [] =
          (logicalLines number begun []).map fun l ↦ textUnits l.2 := by
      rcases begun with _ | b
      · exact readLines_nil true
      · exact (EndsLine.readLines_joined .last b.2).trans (congrArg _ (readLines_nil true))
    rw [← List.append_nil (textUnits line)]
    exact readLines_step hend .last hline begun number hbegun
  | @more line newline cs lines hline hnewline hcs h ih =>
    rw [textUnits_append]
    exact readLines_step ih (endsLine_newline hnewline hcs) hline begun number hbegun

/-- **One pass.** The reader for which every joined line counts finds the logical lines that one
finds by splitting a text into natural lines and joining them. -/
theorem readLines_textUnits (cs : List Char) (number : Nat) :
    readLines true {} (textUnits cs) =
      (logicalLines number none ((normalizeNewlines cs).splitOn '\n')).map fun l ↦ textUnits l.2 :=
  readLines_inLines (inLines_splitOn cs) none number nofun

end Properties

end JavaConstants
