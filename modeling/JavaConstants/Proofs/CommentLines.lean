import JavaConstants.Proofs.CodeText
import JavaConstants.Proofs.LiteralReading
import JavaConstants.Proofs.Repetition

/-!
# Lines of a file comment

A compiler finds the lines of a source behind its first phase, so an escape can end a line, and a
carriage return ends one on its own. A file comment is split at line feeds only before each of its
lines gets its slashes. So it is a comment to a compiler if and only if each of its lines is one
behind its slashes (`commentLines_iff`), and what follows it is read as in a file without a comment
in any case. A text without carriage returns and backslashes always stays a comment
(`isCommented_of_notMem`), which is what generated files have.
-/

namespace JavaConstants

/-! ## Lines of a source -/

/-- The lines of what the first phase leaves. `line` holds the units of the line begun. A line feed
belongs to the line end before it if a carriage return stands right `behind` it. -/
def sourceLinesAfter (behind : Bool) (line : List Nat) : List Nat → List (List Nat)
  | [] => if line = [] then [] else [line]
  | u :: us =>
    -- the line ended at the carriage return already
    if u = '\n'.toNat ∧ behind = true then sourceLinesAfter false [] us
    else if isLineEnd u then line :: sourceLinesAfter (u == '\r'.toNat) [] us
    else sourceLinesAfter false (line ++ [u]) us

/-- The lines of what the first phase leaves: they end in a line feed, in a carriage return, or in
both in this order. -/
def sourceLines (us : List Nat) : List (List Nat) := sourceLinesAfter false [] us

/-- The lines of a source as a compiler reads them. None where an escape is malformed. -/
def compiledLines (source : String) : Option (List (List Nat)) :=
  (Literal.translate (textUnits source.toList)).map sourceLines

/-- What begins a comment up to the end of its line. -/
def slashes : List Nat := ['/'.toNat, '/'.toNat]

/-- A line that is a comment behind slashes: its escapes are well-formed, and whatever else a
compiler takes for a line in it begins with slashes as well. -/
def StaysComment (line : String) : Prop :=
  ∃ us, Literal.translate (textUnits line.toList) = some us ∧
    ∀ further ∈ (sourceLines (us ++ ['\n'.toNat])).tail, slashes <+: further

theorem isLineEnd_lineFeed : isLineEnd '\n'.toNat = true := rfl

theorem sourceLinesAfter_append_lineFeed (behind : Bool) (line us vs : List Nat) :
    sourceLinesAfter behind line (us ++ '\n'.toNat :: vs) =
      sourceLinesAfter behind line (us ++ ['\n'.toNat]) ++ sourceLines vs := by
  induction us generalizing behind line with
  | nil =>
    simp only [List.nil_append, sourceLinesAfter, isLineEnd_lineFeed, true_and, if_true]
    split_ifs
    · rfl
    · rfl
  | cons u us ih =>
    rw [List.cons_append, List.cons_append, sourceLinesAfter, sourceLinesAfter]
    split_ifs
    · exact ih _ _
    · rw [ih, List.cons_append]
    · exact ih _ _

theorem sourceLines_append_lineFeed (us vs : List Nat) :
    sourceLines (us ++ '\n'.toNat :: vs) = sourceLines (us ++ ['\n'.toNat]) ++ sourceLines vs :=
  sourceLinesAfter_append_lineFeed false [] us vs

theorem sourceLinesAfter_cons (line : List Nat) (u : Nat) (us : List Nat) :
    sourceLinesAfter false line (u :: us) =
      if isLineEnd u then line :: sourceLinesAfter (u == '\r'.toNat) [] us
      else sourceLinesAfter false (line ++ [u]) us := by
  rw [sourceLinesAfter, if_neg fun h ↦ Bool.false_ne_true h.2]

theorem sourceLinesAfter_append_of_not_isLineEnd {front : List Nat}
    (hfront : ∀ u ∈ front, isLineEnd u = false) (line us : List Nat) :
    sourceLinesAfter false line (front ++ us) = sourceLinesAfter false (line ++ front) us := by
  induction front generalizing line with
  | nil => rw [List.nil_append, List.append_nil]
  | cons u front ih =>
    rw [List.forall_mem_cons] at hfront
    rw [List.cons_append, sourceLinesAfter_cons, if_neg (Bool.not_eq_true _ ▸ hfront.1),
      ih hfront.2, List.append_assoc, List.singleton_append]

theorem exists_sourceLinesAfter_lineFeed (us : List Nat) :
    ∃ first further, ∀ line,
      sourceLinesAfter false line (us ++ ['\n'.toNat]) = (line ++ first) :: further := by
  induction us with
  | nil => exact ⟨[], [], fun line ↦ by rw [List.append_nil]; rfl⟩
  | cons u us ih =>
    simp only [List.cons_append, sourceLinesAfter_cons]
    split_ifs
    · exact ⟨[], _, fun line ↦ by rw [List.append_nil]⟩
    · obtain ⟨first, further, hlines⟩ := ih
      refine ⟨u :: first, further, fun line ↦ ?_⟩
      rw [hlines, List.append_assoc, List.singleton_append]

/-! ## The first phase and line feeds

No escape has a line feed in it, so the first phase does with a line what it would do with the
line alone. What it makes of one line may still be several, as an escape may stand for a line
end. -/

namespace Literal

theorem hexNumber?_append_lineFeed {number width : Nat} {us : List Nat}
    (h : hexNumber? number width us = none) (vs : List Nat) :
    hexNumber? number width (us ++ '\n'.toNat :: vs) = none := by
  induction width generalizing number us with
  | zero => cases h
  | succ width ih =>
    rcases us with _ | ⟨u, us⟩
    · rfl
    · rw [List.cons_append, hexNumber?]
      rw [hexNumber?] at h
      rcases hdigit : hexUnit? u with _ | digit
      · rfl
      · rw [hdigit, Option.bind_some] at h
        exact ih h

theorem dropWhile_append_lineFeed (us vs : List Nat) :
    (us ++ '\n'.toNat :: vs).dropWhile (· == 'u'.toNat) =
      us.dropWhile (· == 'u'.toNat) ++ '\n'.toNat :: vs := by
  induction us with
  | nil => rfl
  | cons u us ih =>
    rw [List.cons_append, List.dropWhile_cons, List.dropWhile_cons]
    split_ifs
    · exact ih
    · rfl

theorem head?_append_lineFeed (us vs : List Nat) :
    (us ++ '\n'.toNat :: vs).head? = some 'u'.toNat ↔ us.head? = some 'u'.toNat := by
  rcases us with _ | ⟨u, us⟩
  · simp
  · rfl

/-- No escape goes on behind a line feed, and none begins before one and ends behind it. -/
theorem translateAfter_append_lineFeed (odd : Bool) (us vs : List Nat) :
    translateAfter odd (us ++ '\n'.toNat :: vs) =
      (translateAfter odd us).bind fun above ↦
        (translate vs).map fun below ↦ above ++ '\n'.toNat :: below := by
  fun_induction translateAfter odd us with
  | case1 odd =>
    rw [List.nil_append, translateAfter_cons (by decide), Option.bind_some]
    rfl
  | case2 odd u us hescape digits unit rest hdigits ih =>
    -- the four digits stand before the line feed, so the same ones are read
    obtain ⟨read, hread, hlength, _, hnumber⟩ := exists_of_hexNumber? hdigits
    rw [hread, List.drop_left' hlength] at ih
    rw [hread, List.drop_left' hlength, List.cons_append, translateAfter,
      if_pos ⟨hescape.1, hescape.2.1, (head?_append_lineFeed us vs).mpr hescape.2.2⟩]
    have hdrop : (us ++ '\n'.toNat :: vs).dropWhile (· == 'u'.toNat) =
        read ++ (rest ++ '\n'.toNat :: vs) := by
      rw [dropWhile_append_lineFeed, ← List.append_assoc, ← hread]
    simp only [hdrop, hnumber, List.drop_left' hlength, ih]
    cases translateAfter false rest <;> simp [Function.comp_def]
  | case3 odd u us hescape digits hdigits =>
    -- digits that break off before a line feed do not go on behind it
    have hnone := hexNumber?_append_lineFeed hdigits vs
    rw [List.cons_append, translateAfter,
      if_pos ⟨hescape.1, hescape.2.1, (head?_append_lineFeed us vs).mpr hescape.2.2⟩]
    simp only [dropWhile_append_lineFeed]
    rw [hnone]
    rfl
  | case4 odd u us hescape ih =>
    have hescape' : ¬ (u = '\\'.toNat ∧ odd = false ∧
        (us ++ '\n'.toNat :: vs).head? = some 'u'.toNat) := by
      rwa [head?_append_lineFeed]
    rw [List.cons_append, translateAfter, if_neg hescape', ih]
    cases translateAfter (u == '\\'.toNat && !odd) us <;> simp [Function.comp_def]

theorem translate_append_lineFeed (us vs : List Nat) :
    translate (us ++ '\n'.toNat :: vs) = (translate us).bind fun above ↦
      (translate vs).map fun below ↦ above ++ '\n'.toNat :: below :=
  translateAfter_append_lineFeed false us vs

end Literal

/-! ## Sources of comments

Behind a line feed a source is read as if it stood alone, so each line of a comment can be asked
for on its own. Its first line begins with the slashes. So all that matters is whether there are
more, and whether the first phase gets through. -/

/-- A source whose lines are all comments to a compiler. -/
def IsCommented (source : String) : Prop :=
  ∃ lines, compiledLines source = some lines ∧ ∀ line ∈ lines, slashes <+: line

theorem textUnits_newline (s t : String) :
    textUnits (s ++ "\n" ++ t).toList = textUnits s.toList ++ '\n'.toNat :: textUnits t.toList := by
  rw [String.toList_append, String.toList_append, textUnits_append, textUnits_append,
    List.append_assoc]
  rfl

theorem translate_newline (s : String) : Literal.translate (textUnits (s ++ "\n").toList) =
    (Literal.translate (textUnits s.toList)).map (· ++ ['\n'.toNat]) := by
  have hunits := textUnits_newline s ""
  rw [String.append_empty] at hunits
  rw [hunits, Literal.translate_append_lineFeed]
  cases Literal.translate (textUnits s.toList) with
  | none => rfl
  | some us =>
    have hempty : Literal.translate (textUnits "".toList) = some [] := Literal.translate_nil
    rw [hempty]
    rfl

/-- Behind a line feed a source is read as if it stood alone. -/
theorem compiledLines_newline_append (s t : String) :
    compiledLines (s ++ "\n" ++ t) = (compiledLines (s ++ "\n")).bind fun above ↦
      (compiledLines t).map (above ++ ·) := by
  rw [compiledLines, compiledLines, compiledLines, translate_newline, textUnits_newline,
    Literal.translate_append_lineFeed]
  cases Literal.translate (textUnits s.toList) with
  | none => rfl
  | some us =>
    cases Literal.translate (textUnits t.toList) with
    | none => rfl
    | some vs => exact congrArg some (sourceLines_append_lineFeed us vs)

theorem compiledLines_empty : compiledLines "" = some [] :=
  congrArg (Option.map sourceLines) Literal.translate_nil

theorem isCommented_empty : IsCommented "" := ⟨[], compiledLines_empty, nofun⟩

theorem isCommented_newline_append_iff {s t : String} :
    IsCommented (s ++ "\n" ++ t) ↔ IsCommented (s ++ "\n") ∧ IsCommented t := by
  rw [IsCommented, compiledLines_newline_append]
  constructor
  · rintro ⟨lines, hlines, hall⟩
    obtain ⟨above, habove, hlines⟩ := Option.bind_eq_some_iff.mp hlines
    obtain ⟨below, hbelow, rfl⟩ := Option.map_eq_some_iff.mp hlines
    rw [List.forall_mem_append] at hall
    exact ⟨⟨above, habove, hall.1⟩, below, hbelow, hall.2⟩
  · rintro ⟨⟨above, habove, hall⟩, below, hbelow, hall'⟩
    refine ⟨above ++ below, ?_, List.forall_mem_append.mpr ⟨hall, hall'⟩⟩
    rw [habove, hbelow]
    rfl

theorem translate_slashed (line : String) :
    Literal.translate (textUnits ("// " ++ line).toList) =
      (Literal.translate (textUnits line.toList)).map (textUnits "// ".toList ++ ·) := by
  rw [String.toList_append, textUnits_append]
  exact Literal.translate_append_of_notMem (by decide) _

/-- The first line that is seen behind slashes is a comment, so only further ones matter. -/
theorem isCommented_slashed_iff {line : String} :
    IsCommented ("// " ++ line ++ "\n") ↔ StaysComment line := by
  have hslashes : ∀ u ∈ textUnits "// ".toList, isLineEnd u = false := by decide
  -- the slashes end no line, so they stand at the start of the first one and change no other
  have hlines (us : List Nat) :
      (∀ l ∈ sourceLines (textUnits "// ".toList ++ us ++ ['\n'.toNat]), slashes <+: l) ↔
        ∀ further ∈ (sourceLines (us ++ ['\n'.toNat])).tail, slashes <+: further := by
    obtain ⟨first, further, hsplit⟩ := exists_sourceLinesAfter_lineFeed us
    rw [sourceLines, sourceLines, List.append_assoc,
      sourceLinesAfter_append_of_not_isLineEnd hslashes, hsplit, hsplit, List.forall_mem_cons]
    exact and_iff_right ⟨' '.toNat :: first, rfl⟩
  rw [IsCommented, compiledLines, translate_newline, translate_slashed, StaysComment]
  simp only [Option.map_map, Option.map_eq_some_iff, Function.comp_apply]
  constructor
  · rintro ⟨_, ⟨us, hus, rfl⟩, hall⟩
    exact ⟨us, hus, (hlines us).mp hall⟩
  · rintro ⟨us, hus, hall⟩
    exact ⟨_, ⟨us, hus, rfl⟩, (hlines us).mpr hall⟩

theorem mem_of_mem_linesAfter {line cs l : List Char} (hl : l ∈ linesAfter line cs) {c : Char}
    (hc : c ∈ l) : c ∈ line ∨ c ∈ cs := by
  induction cs generalizing line with
  | nil =>
    rw [linesAfter] at hl
    split at hl
    · cases hl
    · rw [List.mem_singleton.mp hl, List.mem_reverse] at hc
      exact .inl hc
  | cons d cs ih =>
    unfold linesAfter at hl
    split_ifs at hl
    · rcases List.mem_cons.mp hl with rfl | hl
      · left
        split at hc
        · exact List.mem_cons_of_mem _ (List.mem_reverse.mp hc)
        · exact List.mem_reverse.mp hc
      · exact .inr (List.mem_cons_of_mem _ ((ih hl).resolve_left List.not_mem_nil))
    · rcases ih hl with hmem | hmem
      · rcases List.mem_cons.mp hmem with rfl | hmem
        · exact .inr List.mem_cons_self
        · exact .inl hmem
      · exact .inr (List.mem_cons_of_mem _ hmem)

/-! ## File comments -/

namespace SourceFile

theorem renderComment_some (text : String) : renderComment (some text) =
    String.join ((textLines text).map fun line ↦ "// " ++ line ++ "\n") := rfl

theorem isCommented_join_iff {lines : List String} :
    IsCommented (String.join (lines.map fun line ↦ "// " ++ line ++ "\n")) ↔
      ∀ line ∈ lines, StaysComment line := by
  induction lines with
  | nil => exact iff_of_true isCommented_empty nofun
  | cons line lines ih =>
    rw [List.map_cons, String.join_cons, isCommented_newline_append_iff, isCommented_slashed_iff,
      ih, List.forall_mem_cons]

theorem isCommented_renderComment_iff {comment : Option String} :
    IsCommented (renderComment comment) ↔
      ∀ text ∈ comment, ∀ line ∈ textLines text, StaysComment line := by
  cases comment with
  | none => exact iff_of_true isCommented_empty nofun
  | some text =>
    rw [renderComment_some, isCommented_join_iff]
    simp only [Option.mem_some_iff, forall_eq']

theorem renderComment_eq_or (comment : Option String) :
    renderComment comment = "" ∨ ∃ s, renderComment comment = s ++ "\n" := by
  cases comment with
  | none => exact .inl rfl
  | some text =>
    rw [renderComment_some]
    rcases List.eq_nil_or_concat (textLines text) with hnil | ⟨lines, line, hlines⟩
    · left
      rw [hnil]
      rfl
    · right
      rw [hlines, List.concat_eq_append, List.map_append, String.join_append, List.map_singleton,
        String.join_cons, String.join_nil, String.append_empty, ← String.append_assoc]
      exact ⟨_, rfl⟩

theorem compiledLines_renderComment_append (comment : Option String) (t : String) :
    compiledLines (renderComment comment ++ t) =
      (compiledLines (renderComment comment)).bind fun above ↦
        (compiledLines t).map (above ++ ·) := by
  rcases renderComment_eq_or comment with hempty | ⟨s, hs⟩
  · rw [hempty, String.empty_append, compiledLines_empty, Option.bind_some]
    exact Option.map_id'.symm
  · rw [hs]
    exact compiledLines_newline_append s t

/-- A file with a comment is the comment and the file without it, to a compiler as well. Its lines
are comments if and only if each line of the comment stays one on its own. -/
theorem commentLines_iff (f : SourceFile) :
    f.render = renderComment f.comment ++ { f with comment := none }.render ∧
      (compiledLines f.render = (compiledLines (renderComment f.comment)).bind fun above ↦
        (compiledLines { f with comment := none }.render).map (above ++ ·)) ∧
      (IsCommented (renderComment f.comment) ↔
        ∀ text ∈ f.comment, ∀ line ∈ textLines text, StaysComment line) := by
  have hrender : f.render = renderComment f.comment ++ { f with comment := none }.render := by
    rw [render, render, renderComment, String.empty_append, String.append_assoc]
  refine ⟨hrender, ?_, isCommented_renderComment_iff⟩
  rw [hrender]
  exact compiledLines_renderComment_append _ _

/-- A carriage return in a comment ends its slashes, and so does an escape that stands for a line
end. A malformed escape leaves no lines at all. -/
theorem comment_broken_by_lineEnd :
    compiledLines (renderComment (some "a\rclass B \x7b\x7d")) =
        some [textUnits "// a".toList, textUnits "class B \x7b\x7d".toList] ∧
      compiledLines (renderComment (some "a\\u000aclass B \x7b\x7d")) =
        some [textUnits "// a".toList, textUnits "class B \x7b\x7d".toList] ∧
      compiledLines (renderComment (some "\\u")) = none ∧
      ¬ IsCommented (renderComment (some "a\rclass B \x7b\x7d")) ∧
      ¬ IsCommented (renderComment (some "a\\u000aclass B \x7b\x7d")) ∧
      ¬ IsCommented (renderComment (some "\\u")) := by
  have hbroken {source : String}
      (h : compiledLines source =
        some [textUnits "// a".toList, textUnits "class B \x7b\x7d".toList]) :
      ¬ IsCommented source := by
    rintro ⟨lines, hlines, hall⟩
    obtain rfl := Option.some.inj (h.symm.trans hlines)
    exact absurd (hall _ (List.mem_cons_of_mem _ List.mem_cons_self)) (by decide)
  have hreturn : compiledLines (renderComment (some "a\rclass B \x7b\x7d")) =
      some [textUnits "// a".toList, textUnits "class B \x7b\x7d".toList] := by cbv
  have hescape : compiledLines (renderComment (some "a\\u000aclass B \x7b\x7d")) =
      some [textUnits "// a".toList, textUnits "class B \x7b\x7d".toList] := by cbv
  have hmalformed : compiledLines (renderComment (some "\\u")) = none := by cbv
  refine ⟨hreturn, hescape, hmalformed, hbroken hreturn, hbroken hescape, ?_⟩
  rintro ⟨lines, hlines, -⟩
  cases hmalformed.symm.trans hlines

/-! ## Comments that always stay comments -/

theorem staysComment_of_mem_textLines {text line : String} (hreturn : '\r' ∉ text.toList)
    (hslash : '\\' ∉ text.toList) (hline : line ∈ textLines text) : StaysComment line := by
  obtain ⟨l, hl, rfl⟩ := List.mem_map.mp hline
  have hchars : ∀ c ∈ l, c ∈ text.toList := fun c hc ↦
    (mem_of_mem_linesAfter hl hc).resolve_left List.not_mem_nil
  have htranslate : Literal.translate (textUnits l) = some (textUnits l) := by
    have hleft := Literal.translate_append_of_notMem
      (mt ((toNat_mem_textUnits (by decide)).mp) fun hc ↦ hslash (hchars _ hc)) []
    rwa [List.append_nil, Literal.translate_nil, Option.map_some, List.append_nil] at hleft
  have hends : ∀ u ∈ textUnits l, isLineEnd u = false := by
    intro u hu
    refine isLineEnd_eq_false ?_ ?_
    · rintro rfl
      rw [toNat_mem_textUnits (by decide)] at hu
      exact notMem_of_mem_linesAfter List.not_mem_nil l hl hu
    · rintro rfl
      rw [toNat_mem_textUnits (by decide)] at hu
      exact hreturn (hchars _ hu)
  refine ⟨textUnits l, by rwa [String.toList_ofList], ?_⟩
  rw [sourceLines, sourceLinesAfter_append_of_not_isLineEnd hends]
  exact nofun

theorem isCommented_of_notMem {text : String} (hreturn : '\r' ∉ text.toList)
    (hslash : '\\' ∉ text.toList) : IsCommented (renderComment (some text)) := by
  rw [isCommented_renderComment_iff]
  rintro _ ⟨⟩ line hline
  exact staysComment_of_mem_textLines hreturn hslash hline

end SourceFile

/-- The comment with the time stays a comment, whatever the time. -/
theorem ResourceSettings.isCommented_sourceFile (s : ResourceSettings) (clock : Clock)
    (root : ClassNode) :
    IsCommented (SourceFile.renderComment (s.sourceFile clock root).comment) :=
  SourceFile.isCommented_of_notMem (DateTime.notMem_comment rfl clock.here)
    (DateTime.notMem_comment rfl clock.here)

end JavaConstants
