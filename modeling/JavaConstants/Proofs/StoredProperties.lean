import Mathlib.Data.List.Forall2
import Mathlib.Data.List.Induction
import Mathlib.Tactic.SplitIfs
import JavaConstants.Proofs.Lists
import JavaConstants.Proofs.Units
import JavaConstants.Properties

/-!
# Stored properties

What a properties file says of the pairs written into it. There are many ways to write them: every
character has several spellings (`Spells`), a line can be broken behind any piece of one (`Broken`),
and comments, blank lines and blanks in front may stand between the pairs (`Stored`). Every list of
pairs can be written (`exists_stored`), and all ways are read back as the distinct keys with their
last values (`parse_stored`).

The spellings are made of pieces that end in no open backslash. So a line that is broken between two
pieces ends in an odd number of backslashes, and no other line does.
-/

namespace JavaConstants

namespace Properties

/-! ## Ways to write pairs -/

/-- Whether a character is never written as it is. -/
def isReserved (c : Char) : Bool := ['\\', '\t', '\n', '\r', '\x0c', '=', ':', '#', '!'].contains c

/-- The escape of a unit: its four hexadecimal digits, in either case, behind `\u`. -/
inductive SpellsUnit : Nat → List Char → Prop where
  | digits {a b c d : Char} (h : [a, b, c, d].all isHexDigit = true) :
    SpellsUnit (ofHexDigits [a, b, c, d]) ['\\', 'u', a, b, c, d]

/-- The ways to write one character, with the pieces a line can be broken between. A space is
written as it is only if `space` is set. -/
inductive Spells (space : Bool) : Char → List (List Char) → Prop where
  /-- As it is. -/
  | raw {c : Char} (h : isReserved c = false) (hspace : c = ' ' → space = true) :
    Spells space c [[c]]
  /-- Behind a backslash. -/
  | mark {c : Char} (h : c ∈ ['\\', '=', ':', '#', '!', ' ']) : Spells space c [['\\', c]]
  /-- By a letter behind a backslash. -/
  | control {letter c : Char}
    (h : (letter, c) ∈ [('t', '\t'), ('n', '\n'), ('r', '\r'), ('f', '\x0c')]) :
    Spells space c [['\\', letter]]
  /-- By the escapes of its units. -/
  | units {c : Char} {escapes : List (List Char)}
    (h : List.Forall₂ SpellsUnit (charUnits c) escapes) : Spells space c escapes

/-- The pieces of a value. A space at its start is not written as it is. -/
inductive SpelledValue : List Char → List (List Char) → Prop where
  | nil : SpelledValue [] []
  | cons {c : Char} {cs : List Char} {first : List (List Char)} {rest : List (List (List Char))}
    (hfirst : Spells false c first) (hrest : List.Forall₂ (Spells true) cs rest) :
    SpelledValue (c :: cs) (first ++ rest.flatten)

/-- The pieces of a pair: those of the key, the sign between, those of the value. -/
inductive SpelledPair (pair : String × String) : List (List Char) → Prop where
  | intro {key : List (List (List Char))} {value : List (List Char)}
    (hkey : List.Forall₂ (Spells false) pair.1.toList key)
    (hvalue : SpelledValue pair.2.toList value) :
    SpelledPair pair (key.flatten ++ ['='] :: value)

/-- Pieces over lines. A line may be ended by a backslash behind any piece; what stands in the next
one behind its blanks does not begin with a blank. -/
inductive Broken : List (List Char) → List (List Char) → Prop where
  | last (pieces : List (List Char)) : Broken pieces [pieces.flatten]
  | continued (front : List (List Char)) {back : List (List Char)} {blanks line : List Char}
    {lines : List (List Char)} (hblanks : ∀ c ∈ blanks, isSpace c = true)
    (hhead : ∀ c ∈ line.head?, isSpace c = false) (h : Broken back (line :: lines)) :
    Broken (front ++ back) ((front.flatten ++ ['\\']) :: (blanks ++ line) :: lines)

/-- Lines that say nothing. -/
inductive Silent : List Char → Prop where
  | blank {blanks : List Char} (hblanks : ∀ c ∈ blanks, isSpace c = true) : Silent blanks
  | comment {blanks text : List Char} {sign : Char} (hblanks : ∀ c ∈ blanks, isSpace c = true)
    (hsign : sign ∈ ['#', '!']) (htext : '\n' ∉ text ∧ '\r' ∉ text) :
    Silent (blanks ++ sign :: text)

/-- Lines that pairs are written into. -/
inductive Stored : List (String × String) → List (List Char) → Prop where
  /-- The end. -/
  | nil : Stored [] []
  /-- A comment or a blank line. -/
  | silent {pairs : List (String × String)} {line : List Char} {lines : List (List Char)}
    (hline : Silent line) (h : Stored pairs lines) : Stored pairs (line :: lines)
  /-- A pair. -/
  | pair {pair : String × String} {pairs : List (String × String)} {pieces : List (List Char)}
    {blanks line : List Char} {more lines : List (List Char)} (hpair : SpelledPair pair pieces)
    (hbroken : Broken pieces (line :: more)) (hblanks : ∀ c ∈ blanks, isSpace c = true)
    (h : Stored pairs lines) : Stored (pair :: pairs) ((blanks ++ line) :: (more ++ lines))

/-- The distinct keys in the order of their first occurrence, each with its last value. -/
def lastValues (pairs : List (String × String)) : List (String × String) :=
  (pairs.map (·.1)).eraseDups.map fun key ↦ (key, (pairs.reverse.lookup key).getD "")

/-! ## Open backslashes -/

theorem isContinued_concat (line : List Char) :
    isContinued (line ++ ['\\']) = !isContinued line := by
  rw [isContinued, isContinued, List.reverse_append, List.reverse_singleton, List.singleton_append,
    List.takeWhile_cons_of_pos (by decide), List.length_cons]
  rcases Nat.mod_two_eq_zero_or_one (line.reverse.takeWhile (· == '\\')).length with h | h <;>
    simp [Nat.add_mod, h]

theorem isContinued_append {front back : List Char} (hfront : isContinued front = false)
    (hback : isContinued back = false) : isContinued (front ++ back) = false := by
  rw [isContinued, beq_eq_false_iff_ne] at hfront hback ⊢
  rw [List.reverse_append, List.takeWhile_append]
  split_ifs with hall
  · rw [List.length_append, ← hall]
    omega
  · exact hback

theorem isContinued_of_getLast {front : List Char} {c : Char} (hc : c ≠ '\\') :
    isContinued (front ++ [c]) = false := by
  rw [isContinued, List.reverse_append, List.reverse_singleton, List.singleton_append,
    List.takeWhile_cons_of_neg (by simpa using hc)]
  rfl

theorem isContinued_flatten {pieces : List (List Char)}
    (h : ∀ piece ∈ pieces, isContinued piece = false) : isContinued pieces.flatten = false := by
  induction pieces with
  | nil => rfl
  | cons piece pieces ih =>
    rw [List.forall_mem_cons] at h
    exact isContinued_append h.1 (ih h.2)

/-! ## Inert texts -/

/-- Texts in which each backslash has a character behind it and nothing else has a meaning of its
own, but for spaces where `space` is set. -/
inductive Inert (space : Bool) : List Char → Prop where
  | nil : Inert space []
  | plain {c : Char} {cs : List Char} (hc : isReserved c = false) (hspace : c = ' ' → space = true)
    (h : Inert space cs) : Inert space (c :: cs)
  | escaped {c : Char} {cs : List Char} (hc : c ≠ '\n' ∧ c ≠ '\r') (h : Inert space cs) :
    Inert space ('\\' :: c :: cs)

theorem of_isReserved {c : Char} (h : isReserved c = false) :
    c ≠ '\\' ∧ c ≠ '\t' ∧ c ≠ '\n' ∧ c ≠ '\r' ∧ c ≠ '\x0c' ∧ c ≠ '=' ∧ c ≠ ':' ∧ c ≠ '#' ∧
      c ≠ '!' := by
  simpa [isReserved] using h

theorem isReserved_of_isHexDigit {c : Char} (h : isHexDigit c = true) :
    isReserved c = false ∧ c ≠ ' ' := by
  refine ⟨?_, fun hspace ↦ ?_⟩
  · by_contra hreserved
    rw [Bool.not_eq_false, isReserved, List.contains_iff_mem] at hreserved
    revert h
    simp only [List.mem_cons, List.not_mem_nil, or_false] at hreserved
    rcases hreserved with rfl | rfl | rfl | rfl | rfl | rfl | rfl | rfl | rfl <;> decide
  · rw [hspace] at h
    revert h
    decide

theorem isSpace_of_isReserved {c : Char} (h : isReserved c = false) (hspace : c ≠ ' ') :
    isSpace c = false := by
  obtain ⟨_, htab, _, _, hfeed, _⟩ := of_isReserved h
  simp [isSpace, htab, hfeed, hspace]

theorem controlFor_of_mark {c : Char} (h : c ∈ ['\\', '=', ':', '#', '!', ' ']) :
    controlFor c = c ∧ c ≠ 'u' ∧ c ≠ '\n' ∧ c ≠ '\r' := by
  simp only [List.mem_cons, List.not_mem_nil, or_false] at h
  rcases h with rfl | rfl | rfl | rfl | rfl | rfl <;> decide

theorem controlFor_of_letter {letter c : Char}
    (h : (letter, c) ∈ [('t', '\t'), ('n', '\n'), ('r', '\r'), ('f', '\x0c')]) :
    controlFor letter = c ∧ letter ≠ 'u' ∧ letter ≠ '\n' ∧ letter ≠ '\r' := by
  simp only [List.mem_cons, List.not_mem_nil, or_false, Prod.mk.injEq] at h
  rcases h with ⟨rfl, rfl⟩ | ⟨rfl, rfl⟩ | ⟨rfl, rfl⟩ | ⟨rfl, rfl⟩ <;> decide

namespace Inert

variable {space : Bool} {text more : List Char}

theorem append (h : Inert space text) (hmore : Inert space more) : Inert space (text ++ more) := by
  induction h with
  | nil => exact hmore
  | plain hc hspace h ih => exact .plain hc hspace ih
  | escaped hc h ih => exact .escaped hc ih

theorem flatten {pieces : List (List Char)} (h : ∀ piece ∈ pieces, Inert space piece) :
    Inert space pieces.flatten := by
  induction pieces with
  | nil => exact .nil
  | cons piece pieces ih =>
    rw [List.forall_mem_cons] at h
    exact h.1.append (ih h.2)

theorem of_false (h : Inert false text) (space : Bool) : Inert space text := by
  induction h with
  | nil => exact .nil
  | plain hc hspace h ih => exact .plain hc (fun hc' ↦ absurd (hspace hc') nofun) ih
  | escaped hc h ih => exact .escaped hc ih

theorem isContinued (h : Inert space text) : isContinued text = false := by
  induction h with
  | nil => rfl
  | @plain c cs hc hspace h ih =>
    have hplain : Properties.isContinued ([] ++ [c]) = false :=
      isContinued_of_getLast (of_isReserved hc).1
    exact isContinued_append hplain ih
  | @escaped c cs hc h ih =>
    have hescaped : Properties.isContinued (['\\'] ++ [c]) = false := by
      by_cases hslash : c = '\\'
      · rw [hslash]
        rfl
      · exact isContinued_of_getLast hslash
    exact isContinued_append hescaped ih

theorem notMem (h : Inert space text) : '\n' ∉ text ∧ '\r' ∉ text := by
  induction h with
  | nil => exact ⟨List.not_mem_nil, List.not_mem_nil⟩
  | plain hc hspace h ih =>
    obtain ⟨_, _, hfeed, hreturn, _⟩ := of_isReserved hc
    simp [ih, Ne.symm hfeed, Ne.symm hreturn]
  | escaped hc h ih => simp [ih, Ne.symm hc.1, Ne.symm hc.2]

theorem head (h : Inert false text) {c : Char} (hc : text.head? = some c) :
    isSpace c = false ∧ c ≠ '#' ∧ c ≠ '!' := by
  rcases h with _ | ⟨hreserved, hspace, _⟩ | _
  · cases hc
  · cases hc
    have hsigns := of_isReserved hreserved
    exact ⟨isSpace_of_isReserved hreserved fun hc ↦ absurd (hspace hc) nofun,
      hsigns.2.2.2.2.2.2.2⟩
  · cases hc
    decide

theorem splitKey (h : Inert false text) (value : List Char) :
    splitKey (text ++ '=' :: value) = (text, some '=', value) := by
  induction h with
  | nil => rfl
  | @plain c cs hc hspace h ih =>
    -- Nothing that would end the key stands as it is.
    have hspace : Properties.isSpace c = false :=
      isSpace_of_isReserved hc fun hc ↦ absurd (hspace hc) nofun
    obtain ⟨hslash, _, _, _, _, hequals, hcolon, _⟩ := of_isReserved hc
    have hseparator : isSeparator c = false := by simp [isSeparator, hequals, hcolon]
    rw [List.cons_append, Properties.splitKey, ih, hseparator, hspace]
    · rfl
    · exact fun _ _ hc _ ↦ absurd hc hslash
  | @escaped c cs hc h ih =>
    rw [List.cons_append, List.cons_append, Properties.splitKey, ih]

end Inert

theorem SpellsUnit.inert {unit : Nat} {escape : List Char} (h : SpellsUnit unit escape) :
    Inert false escape := by
  rcases h with ⟨hdigits⟩
  have hplain {c : Char} {cs : List Char} (hc : isHexDigit c = true) (hcs : Inert false cs) :
      Inert false (c :: cs) :=
    have ⟨hreserved, hspace⟩ := isReserved_of_isHexDigit hc
    .plain hreserved (fun h ↦ absurd h hspace) hcs
  simp only [List.all_cons, List.all_nil, Bool.and_true, Bool.and_eq_true] at hdigits
  obtain ⟨ha, hb, hc, hd⟩ := hdigits
  exact .escaped (by decide) (hplain ha (hplain hb (hplain hc (hplain hd .nil))))

theorem Spells.inert {space : Bool} {c : Char} {pieces : List (List Char)}
    (h : Spells space c pieces) : ∀ piece ∈ pieces, Inert space piece := by
  intro piece hpiece
  rcases h with ⟨hc, hspace⟩ | hc | hc | hunits
  · rw [List.mem_singleton.mp hpiece]
    exact .plain hc hspace .nil
  · rw [List.mem_singleton.mp hpiece]
    exact .escaped (controlFor_of_mark hc).2.2 .nil
  · rw [List.mem_singleton.mp hpiece]
    exact .escaped (controlFor_of_letter hc).2.2 .nil
  · obtain ⟨unit, _, hunit⟩ := exists_of_forall₂ hunits piece hpiece
    exact hunit.inert.of_false space

theorem inert_of_spells {space : Bool} {cs : List Char} {pieces : List (List (List Char))}
    (h : List.Forall₂ (Spells space) cs pieces) : ∀ piece ∈ pieces.flatten, Inert space piece := by
  intro piece hpiece
  obtain ⟨some, hsome, hpiece⟩ := List.mem_flatten.mp hpiece
  obtain ⟨c, _, hc⟩ := exists_of_forall₂ h some hsome
  exact hc.inert piece hpiece

/-! ## Reading pieces

An escape is read with whatever stands behind it, so a text is decoded piece by piece. Only a
first surrogate waits for what follows, and its second one is the next piece of the same
character. -/

/-- An escape is read as its unit. -/
theorem SpellsUnit.unescapeAfter {unit : Nat} {escape : List Char} (h : SpellsUnit unit escape)
    (high : Option Nat) (cs : List Char) :
    unescapeAfter high (escape ++ cs) =
      if isHighSurrogate unit then (unescapeAfter (some unit) cs).map (flush high ++ ·)
      else if isLowSurrogate unit then
        (unescapeAfter none cs).map ((match high with
          | some h => pairChar h unit
          | none => '\ufffd') :: ·)
      else (unescapeAfter none cs).map (flush high ++ Char.ofNat unit :: ·) := by
  rcases h with ⟨hdigits⟩
  simp only [List.cons_append, List.nil_append]
  rw [Properties.unescapeAfter]
  rcases high with _ | high <;> exact if_pos hdigits

theorem unescapeAfter_units {c : Char} {escapes : List (List Char)}
    (h : List.Forall₂ SpellsUnit (charUnits c) escapes) (cs : List Char) :
    unescapeAfter none (escapes.flatten ++ cs) = (unescapeAfter none cs).map (c :: ·) := by
  rcases charUnits_cases c with ⟨hbmp, hunits⟩ | ⟨_, high, low, hunits, hhigh, hlow, hpair⟩
  · rw [hunits] at h
    obtain ⟨escape, _, hunit, hrest, rfl⟩ := List.forall₂_cons_left_iff.mp h
    rw [List.forall₂_nil_left_iff.mp hrest]
    obtain ⟨hhigh, hlow⟩ := isScalar_toNat hbmp
    rw [List.flatten_singleton, hunit.unescapeAfter, hhigh, hlow, Char.ofNat_toNat]
    rfl
  · -- The first surrogate is held until the second one comes.
    rw [hunits] at h
    obtain ⟨first, _, hfirst, hrest, rfl⟩ := List.forall₂_cons_left_iff.mp h
    obtain ⟨second, _, hsecond, hnil, rfl⟩ := List.forall₂_cons_left_iff.mp hrest
    rw [List.forall₂_nil_left_iff.mp hnil]
    rw [List.flatten_cons, List.flatten_singleton, List.append_assoc, hfirst.unescapeAfter,
      if_pos hhigh, hsecond.unescapeAfter, isHighSurrogate_of_isLowSurrogate hlow, hlow]
    simp [flush, hpair, Function.comp_def]

theorem unescapeAfter_escaped {c : Char} (hc : c ≠ 'u') (cs : List Char) :
    unescapeAfter none ('\\' :: c :: cs) = (unescapeAfter none cs).map (controlFor c :: ·) := by
  rw [unescapeAfter]
  · rfl
  · exact hc

theorem Spells.unescapeAfter {space : Bool} {c : Char} {pieces : List (List Char)}
    (h : Spells space c pieces) (cs : List Char) :
    unescapeAfter none (pieces.flatten ++ cs) = (unescapeAfter none cs).map (c :: ·) := by
  rcases h with ⟨hc, _⟩ | hc | hc | hunits
  · have hslash := (of_isReserved hc).1
    rw [List.flatten_singleton, List.singleton_append, Properties.unescapeAfter]
    · rfl
    · exact fun hc _ ↦ absurd hc hslash
    · exact fun _ hc _ ↦ absurd hc hslash
    · exact fun _ _ hc _ ↦ absurd hc hslash
  · obtain ⟨hcontrol, hu, _⟩ := controlFor_of_mark hc
    exact (unescapeAfter_escaped hu cs).trans (by rw [hcontrol])
  · obtain ⟨hcontrol, hu, _⟩ := controlFor_of_letter hc
    exact (unescapeAfter_escaped hu cs).trans (by rw [hcontrol])
  · exact unescapeAfter_units hunits cs

theorem Spells.flatten_ne_nil {space : Bool} {c : Char} {pieces : List (List Char)}
    (h : Spells space c pieces) : pieces.flatten ≠ [] := by
  intro hnil
  -- Nothing would be read as nothing.
  have hread := h.unescapeAfter []
  rw [hnil] at hread
  simp [Properties.unescapeAfter, flush] at hread

theorem unescapeAfter_flatten {space : Bool} {cs : List Char} {pieces : List (List (List Char))}
    (h : List.Forall₂ (Spells space) cs pieces) :
    unescapeAfter none pieces.flatten.flatten = some cs := by
  induction h with
  | nil => rfl
  | cons hpieces h ih =>
    rw [List.flatten_cons, List.flatten_append, hpieces.unescapeAfter, ih]
    rfl

namespace SpelledValue

variable {cs : List Char} {pieces : List (List Char)}

theorem inert (h : SpelledValue cs pieces) : ∀ piece ∈ pieces, Inert true piece := by
  rcases h with _ | ⟨hfirst, hrest⟩
  · exact nofun
  · rw [List.forall_mem_append]
    exact ⟨fun piece hpiece ↦ (hfirst.inert piece hpiece).of_false true, inert_of_spells hrest⟩

theorem head (h : SpelledValue cs pieces) : ∀ c ∈ pieces.flatten.head?, isSpace c = false := by
  intro c hc
  rcases h with _ | @⟨_, _, first, rest, hfirst, _⟩
  · cases hc
  · have hinert := Inert.flatten hfirst.inert
    rw [List.flatten_append] at hc
    rcases hstart : first.flatten with _ | ⟨c', cs⟩
    · exact absurd hstart hfirst.flatten_ne_nil
    · rw [hstart] at hinert hc
      exact (hinert.head hc).1

theorem unescape? (h : SpelledValue cs pieces) : unescape? pieces.flatten = some cs := by
  rcases h with _ | ⟨hfirst, hrest⟩
  · rfl
  · rw [Properties.unescape?, List.flatten_append, hfirst.unescapeAfter,
      unescapeAfter_flatten hrest]
    rfl

end SpelledValue

/-! ## Joining lines

The blanks that a joined line begins with are dropped, and so are those of a line that begins a
pair. What is left of a line that says something begins with neither a blank nor, at the start of
a pair, the sign of a comment. -/

theorem dropWhile_blanks {blanks line : List Char} (hblanks : ∀ c ∈ blanks, isSpace c = true)
    (hhead : ∀ c ∈ line.head?, isSpace c = false) : (blanks ++ line).dropWhile isSpace = line := by
  rw [List.dropWhile_append_of_pos hblanks]
  rcases line with _ | ⟨c, line⟩
  · rfl
  · rw [List.dropWhile_cons_of_neg (by simp [hhead c rfl])]

theorem Silent.isSilent {line : List Char} (h : Silent line) :
    isSilent (line.dropWhile isSpace) = true := by
  rcases h with hblanks | ⟨hblanks, hsign, _⟩
  · rw [← List.append_nil line, dropWhile_blanks hblanks (by simp)]
    rfl
  · simp only [List.mem_cons, List.not_mem_nil, or_false] at hsign
    rcases hsign with rfl | rfl <;> rw [dropWhile_blanks hblanks (by simp; decide)] <;> rfl

/-- The lines that pieces are broken over are joined to the pieces. -/
theorem logicalLines_broken {pieces : List (List Char)} {blanks line : List Char}
    {more : List (List Char)} (hbroken : Broken pieces (line :: more))
    (hpieces : ∀ piece ∈ pieces, isContinued piece = false)
    (hblanks : ∀ c ∈ blanks, isSpace c = true) (hhead : ∀ c ∈ line.head?, isSpace c = false)
    {text : List Char} (htext : isContinued text = false) (start number : Nat)
    (lines : List (List Char)) :
    logicalLines number (some (start, text)) ((blanks ++ line) :: (more ++ lines)) =
      (start, text ++ pieces.flatten) :: logicalLines (number + (more.length + 1)) none lines := by
  generalize hall : line :: more = all at hbroken
  -- Each line joined leaves a text without an open backslash, which the next one is joined to.
  induction hbroken generalizing blanks line more text number with
  | last pieces =>
    cases hall
    rw [logicalLines, dropWhile_blanks hblanks hhead,
      isContinued_append htext (isContinued_flatten hpieces)]
    rfl
  | @continued front back blanks' line' lines' hblanks' hhead' h ih =>
    cases hall
    rw [List.forall_mem_append] at hpieces
    have hfront : isContinued (text ++ front.flatten) = false :=
      isContinued_append htext (isContinued_flatten hpieces.1)
    -- The backslash at the end is the only open one, and it is dropped.
    rw [logicalLines, dropWhile_blanks hblanks hhead, ← List.append_assoc, isContinued_concat,
      hfront, List.dropLast_concat, List.cons_append]
    simp only [Bool.not_false, if_true]
    rw [ih hpieces.2 hblanks' hhead' hfront _ rfl, List.flatten_append, List.append_assoc,
      List.length_cons, Nat.add_assoc, Nat.add_comm 1]

/-- A logical line begins like one that continues nothing. -/
theorem logicalLines_begin {line : List Char} (hline : isSilent (line.dropWhile isSpace) = false)
    (number : Nat) (lines : List (List Char)) :
    logicalLines number none (line :: lines) =
      logicalLines number (some (number, [])) (line :: lines) := by
  rw [logicalLines, logicalLines, hline]
  rfl

theorem Broken.head {pieces : List (List Char)} {line : List Char} {more : List (List Char)}
    (h : Broken pieces (line :: more)) :
    line.head? = pieces.flatten.head? ∨ line.head? = some '\\' := by
  rcases h with _ | ⟨front⟩
  · exact .inl rfl
  · rw [List.flatten_append, List.head?_append, List.head?_append]
    rcases front.flatten with _ | ⟨c, cs⟩
    · exact .inr rfl
    · exact .inl rfl

namespace SpelledPair

variable {pair : String × String} {pieces : List (List Char)}

theorem inert (h : SpelledPair pair pieces) :
    ∀ piece ∈ pieces, piece = ['='] ∨ Inert true piece := by
  rcases h with ⟨hkey, hvalue⟩
  intro piece hpiece
  rw [List.mem_append, List.mem_cons] at hpiece
  rcases hpiece with hpiece | rfl | hpiece
  · exact .inr ((inert_of_spells hkey piece hpiece).of_false true)
  · exact .inl rfl
  · exact .inr (hvalue.inert piece hpiece)

theorem isContinued (h : SpelledPair pair pieces) :
    ∀ piece ∈ pieces, isContinued piece = false := by
  intro piece hpiece
  rcases h.inert piece hpiece with rfl | hinert
  · rfl
  · exact hinert.isContinued

theorem head (h : SpelledPair pair pieces) :
    ∃ c, pieces.flatten.head? = some c ∧ isSpace c = false ∧ isSilent [c] = false := by
  rcases h with @⟨key, _, hkey, _⟩
  have hinert : Inert false key.flatten.flatten := .flatten (inert_of_spells hkey)
  rw [List.flatten_append, List.head?_append]
  rcases hstart : key.flatten.flatten with _ | ⟨c, cs⟩
  · exact ⟨'=', rfl, rfl, rfl⟩
  · obtain ⟨hspace, hhash, hmark⟩ := hinert.head (c := c) (by rw [hstart]; rfl)
    exact ⟨c, rfl, hspace, by simp [isSilent, hhash, hmark]⟩

theorem head_broken (h : SpelledPair pair pieces) {line : List Char} {more : List (List Char)}
    (hbroken : Broken pieces (line :: more)) :
    (∀ c ∈ line.head?, isSpace c = false) ∧ isSilent line = false := by
  obtain ⟨c, hc, hspace, hsilent⟩ : ∃ c, line.head? = some c ∧ isSpace c = false ∧
      isSilent [c] = false := by
    rcases hbroken.head with hhead | hhead
    · rw [hhead]
      exact h.head
    · exact ⟨'\\', hhead, rfl, rfl⟩
  rcases line with _ | ⟨c', line⟩
  · cases hc
  · cases hc
    exact ⟨fun c' hc' ↦ by rwa [← Option.some.inj hc'], hsilent⟩

theorem readEntry (h : SpelledPair pair pieces) (number : Nat) :
    readEntry (number, pieces.flatten) = .ok pair := by
  rcases h with @⟨key, value, hkey, hvalue⟩
  have hinert : Inert false key.flatten.flatten := .flatten (inert_of_spells hkey)
  have hsplit : splitEntry (key.flatten ++ ['='] :: value).flatten =
      (key.flatten.flatten, value.flatten) := by
    have hrest : value.flatten.dropWhile isSpace = value.flatten :=
      @dropWhile_blanks [] _ (by simp) hvalue.head
    rw [splitEntry, List.flatten_append, List.flatten_cons, List.singleton_append, hinert.splitKey]
    simp [hrest, isSeparator]
  have hkey : unescape? key.flatten.flatten = some pair.1.toList := unescapeAfter_flatten hkey
  simp only [Properties.readEntry, hsplit, hkey, hvalue.unescape?, String.ofList_toList]

end SpelledPair

/-- The logical lines are those of the pairs. -/
theorem logicalLines_stored {pairs : List (String × String)} {lines : List (List Char)}
    (h : Stored pairs lines) (number : Nat) :
    List.Forall₂ (fun pair line ↦ ∃ pieces, SpelledPair pair pieces ∧ line.2 = pieces.flatten)
      pairs (logicalLines number none lines) := by
  induction h generalizing number with
  | nil => exact .nil
  | silent hline h ih =>
    rw [logicalLines, hline.isSilent]
    exact ih (number + 1)
  | @pair pair pairs pieces blanks line more lines hpair hbroken hblanks h ih =>
    obtain ⟨hhead, hsilent⟩ := hpair.head_broken hbroken
    rw [logicalLines_begin (by rwa [dropWhile_blanks hblanks hhead]),
      logicalLines_broken hbroken hpair.isContinued hblanks hhead rfl]
    exact .cons ⟨pieces, hpair, rfl⟩ (ih _)

theorem mapM_readEntry {pairs : List (String × String)} {lines : List (Nat × List Char)}
    (h : List.Forall₂ (fun pair line ↦ ∃ pieces, SpelledPair pair pieces ∧ line.2 = pieces.flatten)
      pairs lines) : lines.mapM readEntry = .ok pairs := by
  induction h with
  | nil => rfl
  | @cons pair line pairs lines hline h ih =>
    obtain ⟨pieces, hpair, hpieces⟩ := hline
    obtain ⟨number, text⟩ := line
    rw [List.mapM_cons, show text = pieces.flatten from hpieces, hpair.readEntry, ih]
    rfl

/-! ## Last values -/

theorem lookup_map (values : String → String) (keys : List String) (key : String) :
    (keys.map fun k ↦ (k, values k)).lookup key =
      if key ∈ keys then some (values key) else none := by
  induction keys with
  | nil => rfl
  | cons k keys ih =>
    rw [List.map_cons, List.lookup_cons, ih]
    by_cases hk : key = k
    · simp [hk]
    · simp [hk, beq_eq_false_iff_ne.mpr hk]

/-- What the last values say of a key is what the last pair with it says. -/
theorem lookup_lastValues (pairs : List (String × String)) (key : String) :
    (lastValues pairs).lookup key = pairs.reverse.lookup key := by
  rw [lastValues, lookup_map]
  simp only [List.mem_eraseDups]
  rcases hlast : pairs.reverse.lookup key with _ | value
  · rw [if_neg]
    intro hkey
    obtain ⟨pair, hpair, rfl⟩ := List.mem_map.mp hkey
    have hother := List.lookup_eq_none_iff.mp hlast pair (List.mem_reverse.mpr hpair)
    simp at hother
  · rw [if_pos]
    · rfl
    · obtain ⟨front, back, hsplit, _⟩ := List.lookup_eq_some_iff.mp hlast
      have hmem : (key, value) ∈ pairs.reverse := by
        rw [hsplit]
        simp
      exact List.mem_map.mpr ⟨_, List.mem_reverse.mp hmem, rfl⟩

theorem insertEntry_map {keys : List String} (hkeys : keys.Nodup) (key value : String)
    (values : String → String) :
    insertEntry key value (keys.map fun k ↦ (k, values k)) =
      (if key ∈ keys then keys else keys ++ [key]).map fun k ↦
        (k, if k = key then value else values k) := by
  induction keys with
  | nil => simp [insertEntry]
  | cons k keys ih =>
    rw [List.nodup_cons] at hkeys
    rw [List.map_cons, insertEntry]
    by_cases hk : k = key
    · subst hk
      have hrest : ∀ k' ∈ keys, k' ≠ k := fun k' hk' hkk ↦ hkeys.1 (hkk ▸ hk')
      simp +contextual [hrest]
    · rw [if_neg hk, ih hkeys.2]
      by_cases hkey : key ∈ keys <;> simp [hkey, hk, Ne.symm hk]

theorem foldl_insertEntry (pairs : List (String × String)) :
    pairs.foldl (fun es (k, v) ↦ insertEntry k v es) [] = lastValues pairs := by
  -- From the end, since the last pair says what the value of its key is.
  induction pairs using List.reverseRecOn with
  | nil => rfl
  | append_singleton pairs pair ih =>
    obtain ⟨key, value⟩ := pair
    rw [List.foldl_append, ih, List.foldl_cons, List.foldl_nil, lastValues, lastValues]
    dsimp only
    rw [insertEntry_map (nodup_eraseDups _), List.map_append, List.map_singleton, eraseDups_concat]
    simp only [List.mem_eraseDups]
    refine List.map_congr_left fun k _ ↦ ?_
    rw [List.reverse_append, List.reverse_singleton, List.singleton_append, List.lookup_cons]
    by_cases hk : k = key
    · simp [hk]
    · rw [if_neg hk, beq_eq_false_iff_ne.mpr hk]

/-! ## Line ends -/

theorem normalizeNewlines_append {line : List Char} (hline : '\r' ∉ line) (cs : List Char) :
    normalizeNewlines (line ++ cs) = line ++ normalizeNewlines cs := by
  induction line with
  | nil => rfl
  | cons c line ih =>
    rw [List.mem_cons, not_or] at hline
    rw [List.cons_append, normalizeNewlines, if_neg (Ne.symm hline.1), ih hline.2, List.cons_append]
    exact fun _ hc _ ↦ absurd hc.symm hline.1

variable {newline : List Char}

/-- A lone carriage return is a line end of its own unless a line feed stands behind it. -/
theorem normalizeNewlines_newline (hnewline : newline ∈ [['\n'], ['\r', '\n'], ['\r']])
    {cs : List Char} (hcs : newline = ['\r'] → cs.head? ≠ some '\n') :
    normalizeNewlines (newline ++ cs) = '\n' :: normalizeNewlines cs := by
  simp only [List.mem_cons, List.not_mem_nil, or_false] at hnewline
  rcases hnewline with rfl | rfl | rfl
  · rfl
  · rfl
  · rw [List.singleton_append, normalizeNewlines, if_pos rfl]
    rintro cs' _ rfl
    exact hcs rfl rfl

theorem normalizeNewlines_intercalate (hnewline : newline ∈ [['\n'], ['\r', '\n'], ['\r']])
    {lines : List (List Char)} (hlines : ∀ line ∈ lines, '\n' ∉ line ∧ '\r' ∉ line) :
    normalizeNewlines (newline.intercalate lines) = ['\n'].intercalate lines := by
  induction lines with
  | nil => rfl
  | cons line lines ih =>
    rw [List.forall_mem_cons] at hlines
    rcases lines with _ | ⟨next, lines⟩
    · rw [List.intercalate_singleton, List.intercalate_singleton, ← List.append_nil line,
        normalizeNewlines_append hlines.1.2]
      rfl
    · -- The next line cannot turn a lone carriage return into half of a line end.
      have hhead : newline = ['\r'] → (newline.intercalate (next :: lines)).head? ≠ some '\n' := by
        rintro rfl hhead
        obtain ⟨line', hline', hfeed⟩ :=
          (mem_intercalate_iff (by decide)).mp (List.mem_of_mem_head? hhead)
        exact (hlines.2 line' hline').1 hfeed
      rw [List.intercalate_cons_cons, List.intercalate_cons_cons, List.append_assoc,
        List.append_assoc, normalizeNewlines_append hlines.1.2,
        normalizeNewlines_newline hnewline hhead, ih hlines.2]
      rfl

theorem notMem_blanks {blanks : List Char} (h : ∀ c ∈ blanks, isSpace c = true) :
    '\n' ∉ blanks ∧ '\r' ∉ blanks :=
  ⟨fun hc ↦ absurd (h _ hc) (by decide), fun hc ↦ absurd (h _ hc) (by decide)⟩

theorem Broken.notMem {pieces lines : List (List Char)} (h : Broken pieces lines)
    (hpieces : ∀ piece ∈ pieces, '\n' ∉ piece ∧ '\r' ∉ piece) :
    ∀ line ∈ lines, '\n' ∉ line ∧ '\r' ∉ line := by
  induction h with
  | last pieces => simpa using ⟨fun p hp ↦ (hpieces p hp).1, fun p hp ↦ (hpieces p hp).2⟩
  | @continued front back blanks line lines hblanks hhead h ih =>
    rw [List.forall_mem_append] at hpieces
    have hlines := ih hpieces.2
    have hblanks := notMem_blanks hblanks
    rw [List.forall_mem_cons] at hlines
    rw [List.forall_mem_cons, List.forall_mem_cons]
    refine ⟨?_, by simp [hblanks, hlines.1], hlines.2⟩
    simpa using ⟨fun p hp ↦ (hpieces.1 p hp).1, fun p hp ↦ (hpieces.1 p hp).2⟩

theorem Silent.notMem {line : List Char} (h : Silent line) : '\n' ∉ line ∧ '\r' ∉ line := by
  rcases h with hblanks | ⟨hblanks, hsign, htext⟩
  · exact notMem_blanks hblanks
  · have hblanks := notMem_blanks hblanks
    simp only [List.mem_cons, List.not_mem_nil, or_false] at hsign
    rcases hsign with rfl | rfl <;> simp [hblanks, htext]

theorem Stored.notMem {pairs : List (String × String)} {lines : List (List Char)}
    (h : Stored pairs lines) : ∀ line ∈ lines, '\n' ∉ line ∧ '\r' ∉ line := by
  induction h with
  | nil => exact nofun
  | silent hline h ih => exact List.forall_mem_cons.mpr ⟨hline.notMem, ih⟩
  | @pair pair pairs pieces blanks line more lines hpair hbroken hblanks h ih =>
    have hpieces : ∀ piece ∈ pieces, '\n' ∉ piece ∧ '\r' ∉ piece := by
      intro piece hpiece
      rcases hpair.inert piece hpiece with rfl | hinert
      · decide
      · exact hinert.notMem
    have hlines := hbroken.notMem hpieces
    have hblanks := notMem_blanks hblanks
    rw [List.forall_mem_cons] at hlines
    rw [List.forall_mem_cons, List.forall_mem_append]
    exact ⟨by simp [hblanks, hlines.1], hlines.2, ih⟩

/-! ## The parsed text -/

theorem exists_spells (space : Bool) (c : Char) : ∃ pieces, Spells space c pieces := by
  by_cases hmark : c ∈ ['\\', '=', ':', '#', '!', ' ']
  · exact ⟨_, .mark hmark⟩
  · by_cases hcontrol : c ∈ ['\t', '\n', '\r', '\x0c']
    · obtain ⟨⟨letter, c'⟩, hletter, rfl⟩ := List.mem_map.mp
        (show c ∈ [('t', '\t'), ('n', '\n'), ('r', '\r'), ('f', '\x0c')].map (·.2) from hcontrol)
      exact ⟨_, .control hletter⟩
    · have hraw : isReserved c = false ∧ c ≠ ' ' := by
        simp_all [isReserved]
      exact ⟨_, .raw hraw.1 fun hc ↦ absurd hc hraw.2⟩

theorem exists_forall₂_spells (space : Bool) (cs : List Char) :
    ∃ pieces, List.Forall₂ (Spells space) cs pieces := by
  induction cs with
  | nil => exact ⟨[], .nil⟩
  | cons c cs ih =>
    obtain ⟨first, hfirst⟩ := exists_spells space c
    obtain ⟨rest, hrest⟩ := ih
    exact ⟨first :: rest, .cons hfirst hrest⟩

/-- Every list of pairs can be written. -/
theorem exists_stored (pairs : List (String × String)) : ∃ lines, Stored pairs lines := by
  induction pairs with
  | nil => exact ⟨[], .nil⟩
  | cons pair pairs ih =>
    obtain ⟨lines, hlines⟩ := ih
    obtain ⟨key, hkey⟩ := exists_forall₂_spells false pair.1.toList
    obtain ⟨value, hvalue⟩ : ∃ value, SpelledValue pair.2.toList value := by
      rcases pair.2.toList with _ | ⟨c, cs⟩
      · exact ⟨[], .nil⟩
      · obtain ⟨first, hfirst⟩ := exists_spells false c
        obtain ⟨rest, hrest⟩ := exists_forall₂_spells true cs
        exact ⟨first ++ rest.flatten, .cons hfirst hrest⟩
    exact ⟨_, @Stored.pair _ _ _ [] _ _ _ (.intro hkey hvalue) (.last _) nofun hlines⟩

/-- **Parsing undoes storing.** However pairs are written into a text, with whichever line ends, the
text is parsed into the distinct keys in the order of their first occurrence, each with its last
value. -/
theorem parse_stored {pairs : List (String × String)} {lines : List (List Char)}
    (h : Stored pairs lines) (hnewline : newline ∈ [['\n'], ['\r', '\n'], ['\r']]) :
    parse (String.ofList (newline.intercalate lines)) = .ok (lastValues pairs) := by
  have hlines : logicalLines 1 none ((['\n'].intercalate lines).splitOn '\n') =
      logicalLines 1 none lines := by
    by_cases hnil : lines = []
    · rw [hnil]
      rfl
    · rw [List.splitOn_intercalate '\n' (fun line hline ↦ (h.notMem line hline).1) hnil]
  rw [parse, String.toList_ofList, normalizeNewlines_intercalate hnewline h.notMem, hlines,
    mapM_readEntry (logicalLines_stored h 1)]
  exact congrArg Except.ok (foldl_insertEntry pairs)

/-- The key begins with the sign of a comment, its first value is a backslash, and the line of its
last value is broken between the escapes of two surrogates. -/
theorem parse_stored_escaped :
    (Stored [("#k", "\\"), ("#k", "😀")]
        ["! note".toList, "\t\\#k\\".toList, "  =\\\\".toList, "\\#k=\\uD83d\\".toList,
          " \\uDe00".toList] ∧
      ['\r', '\n'] ∈ [['\n'], ['\r', '\n'], ['\r']]) ∧
    parse (String.ofList (['\r', '\n'].intercalate
        ["! note".toList, "\t\\#k\\".toList, "  =\\\\".toList, "\\#k=\\uD83d\\".toList,
          " \\uDe00".toList])) =
      .ok [("#k", "😀")] := by
  have hkey : List.Forall₂ (Spells false) "#k".toList [[['\\', '#']], [['k']]] :=
    .cons (.mark (by decide)) (.cons (.raw (by decide) nofun) .nil)
  have hfirst : SpelledPair ("#k", "\\") [['\\', '#'], ['k'], ['='], ['\\', '\\']] :=
    @SpelledPair.intro ("#k", "\\") _ _ hkey
      (@SpelledValue.cons '\\' [] [['\\', '\\']] [] (.mark (by decide)) .nil)
  have hunits : List.Forall₂ SpellsUnit (charUnits '😀') ["\\uD83d".toList, "\\uDe00".toList] :=
    .cons (@SpellsUnit.digits 'D' '8' '3' 'd' (by decide))
      (.cons (@SpellsUnit.digits 'D' 'e' '0' '0' (by decide)) .nil)
  have hlast : SpelledPair ("#k", "😀")
      [['\\', '#'], ['k'], ['='], "\\uD83d".toList, "\\uDe00".toList] :=
    @SpelledPair.intro ("#k", "😀") _ _ hkey
      (@SpelledValue.cons '😀' [] ["\\uD83d".toList, "\\uDe00".toList] [] (.units hunits) .nil)
  have hfirstBroken : Broken [['\\', '#'], ['k'], ['='], ['\\', '\\']]
      ["\\#k\\".toList, "  =\\\\".toList] :=
    @Broken.continued [['\\', '#'], ['k']] [['='], ['\\', '\\']] [' ', ' '] "=\\\\".toList []
      (by simp [isSpace]) (by simp [isSpace]) (.last _)
  have hlastBroken : Broken [['\\', '#'], ['k'], ['='], "\\uD83d".toList, "\\uDe00".toList]
      ["\\#k=\\uD83d\\".toList, " \\uDe00".toList] :=
    @Broken.continued [['\\', '#'], ['k'], ['='], "\\uD83d".toList] ["\\uDe00".toList] [' ']
      "\\uDe00".toList [] (by simp [isSpace]) (by simp [isSpace]) (.last _)
  have hstored : Stored [("#k", "\\"), ("#k", "😀")]
      ["! note".toList, "\t\\#k\\".toList, "  =\\\\".toList, "\\#k=\\uD83d\\".toList,
        " \\uDe00".toList] :=
    .silent (@Silent.comment [] " note".toList '!' nofun (by decide) (by decide))
      (@Stored.pair _ _ _ ['\t'] _ _ _ hfirst hfirstBroken (by simp [isSpace])
        (@Stored.pair _ _ _ [] _ _ [] hlast hlastBroken nofun .nil))
  exact ⟨⟨hstored, by decide⟩, (parse_stored hstored (by decide)).trans (by decide)⟩

end Properties

end JavaConstants
