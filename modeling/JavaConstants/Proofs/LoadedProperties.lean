import Mathlib
import JavaConstants.Proofs.LogicalLines

/-!
# Loaded properties

The loader of the class library beside the parser: it reads logical lines unit by unit, ends a key
at the first separating unit without a backslash before it, passes over the blanks and the one sign
behind the key, and decodes escapes into units (`load`). A text is parsed into the entries that are
loaded from it (`parse_eq_load`), its units read as characters, whenever the loader does not
stumble; and whatever the text, if the loader is the one for which every joined line counts.
-/

namespace JavaConstants

namespace Properties

/-! ## The loader -/

/-- Whether a unit separates a key from its value beside blanks. -/
def isSeparatorUnit (u : Nat) : Bool := u == '='.toNat || u == ':'.toNat

/-- The key of a logical line, and the units from the one that ends it on. `escaped` says whether an
odd number of backslashes stands right before. -/
def loadKey (escaped : Bool) : List Nat → List Nat × List Nat
  | [] => ([], [])
  | u :: us =>
    if !escaped && (isSeparatorUnit u || isBlank u) then ([], u :: us)
    else
      let (key, rest) := loadKey (u == '\\'.toNat && !escaped) us
      (u :: key, rest)

/-- The value behind a key: blanks are passed over, and among them one separating unit unless that
was `separated` already. -/
def loadValue (separated : Bool) : List Nat → List Nat
  | [] => []
  | u :: us =>
    if isBlank u then loadValue separated us
    else if !separated && isSeparatorUnit u then loadValue true us
    else u :: us

/-- The unit that one behind a backslash stands for. -/
def controlUnit (u : Nat) : Nat :=
  if u = 't'.toNat then '\t'.toNat else if u = 'n'.toNat then '\n'.toNat
  else if u = 'r'.toNat then '\r'.toNat else if u = 'f'.toNat then '\x0c'.toNat else u

/-- The units that escapes stand for; none where four hexadecimal digits do not follow a `\u`. No
logical line ends in an open backslash, which would stand for nothing here. -/
def convert : List Nat → Option (List Nat)
  | [] => some []
  | u :: us =>
    if u = '\\'.toNat then
      match us with
      | [] => some []
      | v :: vs =>
        if v = 'u'.toNat then
          match hexNumber? 0 4 vs with
          | none => none
          | some (unit, _) => (convert (vs.drop 4)).map (unit :: ·)
        else (convert vs).map (controlUnit v :: ·)
    else (convert us).map (u :: ·)
termination_by us => us.length
decreasing_by
  · simp only [List.length_cons, List.length_drop]
    omega
  · simp only [List.length_cons]
    omega
  · exact Nat.lt_succ_self _

/-- The key and the value of a logical line. -/
def loadEntry (line : List Nat) : Option (List Nat × List Nat) := do
  let key ← convert (loadKey false line).1
  let value ← convert (loadValue false (loadKey false line).2)
  return (key, value)

/-- The entries of a text, line by line. -/
def load (keeps : Bool) (us : List Nat) : Option (List (List Nat × List Nat)) :=
  (readLines keeps {} us).mapM loadEntry

/-- The text that units make up, where a surrogate without its partner is lost. -/
def unitsText (us : List Nat) : String := String.ofList (unitsLossy us)

/-! ## Key and value

The parser goes through the characters of a line, the loader through its units. All signs that
either looks for are characters of one unit, so both cut at the same places. -/

theorem isSeparatorUnit_toNat (c : Char) : isSeparatorUnit c.toNat = isSeparator c := by
  rw [isSeparatorUnit, isSeparator, beq_toNat, beq_toNat]

theorem isSeparatorUnit_of_surrogate {u : Nat} (hu : 0xD800 ≤ u) : isSeparatorUnit u = false := by
  rw [isSeparatorUnit, beq_toNat_of_lt (Nat.lt_of_lt_of_le (by decide) hu),
    beq_toNat_of_lt (Nat.lt_of_lt_of_le (by decide) hu), Bool.or_false]

theorem charUnits_of_separates {c : Char} (h : (isSeparator c || isSpace c) = true) :
    charUnits c = [c.toNat] := by
  rcases charUnits_eq_or c with hunits | ⟨hlarge, _⟩
  · exact hunits
  · rw [← isSeparatorUnit_toNat, ← isBlank_toNat, isSeparatorUnit_of_surrogate (by omega),
      (of_surrogate (by omega)).1] at h
    cases h

theorem loadKey_separator {c : Char} (h : (isSeparator c || isSpace c) = true) (us : List Nat) :
    loadKey false (charUnits c ++ us) = ([], charUnits c ++ us) := by
  rw [charUnits_of_separates h, List.singleton_append, loadKey, isSeparatorUnit_toNat,
    isBlank_toNat, h]
  rfl

theorem loadKey_char {escaped : Bool} {c : Char}
    (h : escaped = false → (isSeparator c || isSpace c) = false) (us : List Nat) :
    loadKey escaped (charUnits c ++ us) =
      (charUnits c ++ (loadKey (c == '\\' && !escaped) us).1,
        (loadKey (c == '\\' && !escaped) us).2) := by
  rcases charUnits_eq_or c with hunits | ⟨hlarge, high, low, hunits, hhigh, hlow⟩
  · rw [hunits, List.singleton_append, loadKey, isSeparatorUnit_toNat, isBlank_toNat, beq_toNat,
      if_neg (by simpa using h)]
    rfl
  · obtain ⟨hblankHigh, _, _, hslashHigh⟩ := of_surrogate hhigh
    obtain ⟨hblankLow, _, _, hslashLow⟩ := of_surrogate hlow
    have hslash : (c == '\\') = false := by
      rw [← beq_toNat, beq_toNat_of_lt (Nat.lt_of_lt_of_le (by decide) hlarge)]
    rw [hunits, List.cons_append, List.singleton_append, loadKey, loadKey,
      isSeparatorUnit_of_surrogate hhigh, isSeparatorUnit_of_surrogate hlow, hblankHigh, hblankLow,
      hslashHigh, hslashLow, hslash]
    simp

theorem splitKey_cases (line : List Char) : (splitKey line).2 = (none, []) ∨
    ∃ c rest, (splitKey line).2 = (some c, rest) ∧ (isSeparator c || isSpace c) = true := by
  fun_induction splitKey line with
  | case1 => exact .inl rfl
  | case2 c cs key separator rest hsplit ih => rwa [hsplit] at ih
  | case3 c cs hcs hsep => exact .inr ⟨c, cs, rfl, hsep⟩
  | case4 c cs hcs hsep key separator rest hsplit ih => rwa [hsplit] at ih

theorem loadKey_textUnits (line : List Char) :
    loadKey false (textUnits line) = (textUnits (splitKey line).1,
      textUnits ((splitKey line).2.1.toList ++ (splitKey line).2.2)) := by
  fun_induction splitKey line with
  | case1 => rfl
  | case2 c cs key separator rest hsplit ih =>
    -- The second character is escaped, whatever it is, and nothing is escaped behind it.
    rw [hsplit] at ih
    rw [textUnits_cons, textUnits_cons, loadKey_char (by decide), loadKey_char (by simp)]
    simp [ih]
  | case3 c cs hcs hsep =>
    rw [textUnits_cons, loadKey_separator hsep]
    simp
  | case4 c cs hcs hsep key separator rest hsplit ih =>
    rw [hsplit] at ih
    have hnext : loadKey (c == '\\' && !false) (textUnits cs) = loadKey false (textUnits cs) := by
      by_cases hslash : c = '\\'
      · -- A backslash without a character behind it.
        rcases cs with _ | ⟨d, cs⟩
        · rfl
        · exact absurd rfl (hcs d cs hslash)
      · rw [beq_eq_false_iff_ne.mpr hslash, Bool.false_and]
    rw [textUnits_cons, loadKey_char (by simpa using hsep), hnext, ih]
    simp

theorem loadValue_blanks (separated : Bool) (cs : List Char) :
    loadValue separated (textUnits cs) =
      loadValue separated (textUnits (cs.dropWhile isSpace)) := by
  induction cs with
  | nil => rfl
  | cons c cs ih =>
    by_cases hblank : isSpace c = true
    · rw [List.dropWhile_cons_of_pos hblank, textUnits_cons,
        charUnits_of_separates (by rw [hblank, Bool.or_true]), List.singleton_append, loadValue,
        isBlank_toNat, if_pos hblank, ih]
    · rw [List.dropWhile_cons_of_neg hblank]

theorem loadValue_first {separated : Bool} {c : Char} (hblank : isSpace c = false)
    (hsep : separated = false → isSeparator c = false) (us : List Nat) :
    loadValue separated (charUnits c ++ us) = charUnits c ++ us := by
  rcases charUnits_eq_or c with hunits | ⟨_, high, low, hunits, hhigh, _⟩
  · rw [hunits, List.singleton_append, loadValue, isBlank_toNat, isSeparatorUnit_toNat, hblank,
      if_neg (by simp), if_neg (by simpa using hsep)]
  · rw [hunits, List.cons_append, loadValue, (of_surrogate hhigh).1,
      isSeparatorUnit_of_surrogate hhigh]
    simp

theorem loadValue_true (cs : List Char) :
    loadValue true (textUnits cs) = textUnits (cs.dropWhile isSpace) := by
  rw [loadValue_blanks]
  rcases hdrop : cs.dropWhile isSpace with _ | ⟨c, rest⟩
  · rfl
  · exact loadValue_first (of_dropWhile_eq_cons hdrop) (by simp) _

theorem loadValue_separator {c : Char} (h : isSeparator c = true) (cs : List Char) :
    loadValue false (textUnits (c :: cs)) = textUnits (cs.dropWhile isSpace) := by
  have hblank : isSpace c = false := by
    rw [isSeparator, Bool.or_eq_true, beq_iff_eq, beq_iff_eq] at h
    rcases h with rfl | rfl <;> rfl
  rw [textUnits_cons, charUnits_of_separates (by rw [h, Bool.true_or]), List.singleton_append,
    loadValue, isBlank_toNat, isSeparatorUnit_toNat, hblank, h, ← loadValue_true]
  rfl

/-- A logical line is split as it is split unit by unit. -/
theorem load_splitEntry (line : List Char) :
    (loadKey false (textUnits line)).1 = textUnits (splitEntry line).1 ∧
      loadValue false (loadKey false (textUnits line)).2 = textUnits (splitEntry line).2 := by
  rw [loadKey_textUnits, splitEntry]
  have hcases := splitKey_cases line
  generalize splitKey line = split at hcases
  obtain ⟨key, behind⟩ := split
  rcases hcases with rfl | ⟨c, rest, rfl, hc⟩
  · exact ⟨rfl, rfl⟩
  · by_cases hsep : isSeparator c = true
    · have hvalue := loadValue_separator hsep rest
      simpa [hsep] using hvalue
    · have hblank : isSpace c = true := by simpa [hsep] using hc
      have hvalue : loadValue false (textUnits (c :: rest)) =
          loadValue false (textUnits (rest.dropWhile isSpace)) := by
        rw [loadValue_blanks, List.dropWhile_cons_of_pos hblank]
      simp only [Option.toList_some, List.singleton_append, hvalue, Option.any_some, hsep]
      rcases hdrop : rest.dropWhile isSpace with _ | ⟨d, more⟩
      · exact ⟨rfl, rfl⟩
      · by_cases hsep : isSeparator d = true
        · simpa [hsep] using loadValue_separator hsep more
        · have hfirst := (loadValue_first (of_dropWhile_eq_cons hdrop)
            (fun _ ↦ Bool.not_eq_true _ ▸ hsep) (textUnits more) : loadValue false _ = _)
          simpa [hsep] using hfirst

/-! ## Escapes

The parser holds a first surrogate back until it knows what follows, and the loader does not. The
induction goes along the parser with what is held back in front of the units of the loader. -/

theorem convert_plain {u : Nat} (hu : u ≠ '\\'.toNat) (us : List Nat) :
    convert (u :: us) = (convert us).map (u :: ·) := by
  rw [convert.eq_def]
  exact if_neg hu

theorem convert_escaped {v : Nat} (hv : v ≠ 'u'.toNat) (us : List Nat) :
    convert ('\\'.toNat :: v :: us) = (convert us).map (controlUnit v :: ·) := by
  rw [convert.eq_def]
  exact (if_pos rfl).trans (if_neg hv)

theorem convert_unicode (us : List Nat) :
    convert ('\\'.toNat :: 'u'.toNat :: us) =
      (hexNumber? 0 4 us).bind fun read ↦ (convert read.2).map (read.1 :: ·) := by
  rw [convert.eq_def]
  simp only [if_true]
  rcases hread : hexNumber? 0 4 us with _ | ⟨unit, rest⟩
  · rfl
  · obtain ⟨digits, rfl, hlength, _⟩ := exists_of_hexNumber? hread
    rw [← hlength, List.drop_left]
    rfl

theorem convert_charUnits {c : Char} (hc : c ≠ '\\') (us : List Nat) :
    convert (charUnits c ++ us) = (convert us).map (charUnits c ++ ·) := by
  rcases charUnits_eq_or c with hunits | ⟨_, high, low, hunits, hhigh, hlow⟩
  · rw [hunits, List.singleton_append, convert_plain (by rwa [Ne, Char.toNat_inj])]
    rfl
  · have hslashHigh := (of_surrogate hhigh).2.2.2
    have hslashLow := (of_surrogate hlow).2.2.2
    rw [hunits, List.cons_append, List.singleton_append, convert_plain (by simpa using hslashHigh),
      convert_plain (by simpa using hslashLow), Option.map_map]
    rfl

theorem convert_controlFor {c : Char} (hc : c ≠ 'u') (us : List Nat) :
    convert ('\\'.toNat :: (charUnits c ++ us)) =
      (convert us).map (charUnits (controlFor c) ++ ·) := by
  rcases charUnits_eq_or c with hunits | ⟨hlarge, high, low, hunits, hhigh, hlow⟩
  · have hcontrol : charUnits (controlFor c) = [controlUnit c.toNat] := by
      simp only [controlUnit, Char.toNat_inj, controlFor]
      split_ifs
      · rfl
      · rfl
      · rfl
      · rfl
      · exact hunits
    rw [hunits, List.singleton_append, convert_escaped (by rwa [Ne, Char.toNat_inj]), hcontrol]
    rfl
  · have hne (d : Char) (hd : d.toNat < 0x10000) : c ≠ d := by
      rintro rfl
      omega
    have hcontrol : controlFor c = c := by
      rw [controlFor, if_neg (hne _ (by decide)), if_neg (hne _ (by decide)),
        if_neg (hne _ (by decide)), if_neg (hne _ (by decide))]
    have hunit (d : Char) (hd : d.toNat < 0xD800) : high ≠ d.toNat := by omega
    have hcontrolUnit : controlUnit high = high := by
      rw [controlUnit, if_neg (hunit _ (by decide)), if_neg (hunit _ (by decide)),
        if_neg (hunit _ (by decide)), if_neg (hunit _ (by decide))]
    have hslashLow := (of_surrogate hlow).2.2.2
    rw [hcontrol, hunits, List.cons_append, List.singleton_append,
      convert_escaped (hunit _ (by decide)), convert_plain (by simpa using hslashLow), hcontrolUnit,
      Option.map_map]
    rfl

theorem unitsLossy_flush {high : Option Nat} (hhigh : ∀ h ∈ high, isHighSurrogate h = true)
    {us : List Nat} (hus : ∀ u ∈ us.head?, isLowSurrogate u = false) :
    unitsLossy (high.toList ++ us) = flush high ++ unitsLossy us := by
  rcases high with _ | h
  · rfl
  · exact unitsLossy_high (hhigh h rfl) hus

theorem unitsLossy_char {high : Option Nat} (hhigh : ∀ h ∈ high, isHighSurrogate h = true)
    (c : Char) (us : List Nat) :
    unitsLossy (high.toList ++ (charUnits c ++ us)) = flush high ++ c :: unitsLossy us := by
  rw [unitsLossy_flush hhigh (head?_charUnits_append c us), unitsLossy_charUnits_append]

theorem convert_textUnits_unicode (cs : List Char) :
    convert (textUnits ('\\' :: 'u' :: cs)) =
      if 4 ≤ cs.length ∧ (cs.take 4).all isHexDigit then
        (convert (textUnits (cs.drop 4))).map (ofHexDigits (cs.take 4) :: ·)
      else none := by
  have hread := hexNumber?_textUnits 0 4 cs [] (fun _ ↦ rfl)
  rw [List.append_nil, List.append_nil] at hread
  refine (convert_unicode (textUnits cs)).trans ?_
  rw [hread]
  split_ifs <;> rfl

theorem convert_textUnits_digits {a b c d : Char} (h : [a, b, c, d].all isHexDigit = true)
    (rest : List Char) : convert (textUnits ('\\' :: 'u' :: a :: b :: c :: d :: rest)) =
      (convert (textUnits rest)).map (ofHexDigits [a, b, c, d] :: ·) := by
  rw [convert_textUnits_unicode, if_pos ⟨by simp, h⟩]
  rfl

/-- The escapes are decoded into the text of the units that they stand for. -/
theorem unescapeAfter_eq_convert {high : Option Nat}
    (hhigh : ∀ h ∈ high, isHighSurrogate h = true) (cs : List Char) :
    unescapeAfter high cs =
      (convert (textUnits cs)).map fun us ↦ unitsLossy (high.toList ++ us) := by
  fun_induction unescapeAfter high cs with
  | case1 high =>
    have hflush := @unitsLossy_flush _ hhigh [] nofun
    rw [textUnits_nil, convert, Option.map_some, hflush]
    exact congrArg some (List.append_nil _).symm
  | case2 high =>
    have hflush := @unitsLossy_flush _ hhigh [] nofun
    have hopen : convert (textUnits ['\\']) = some [] := by
      rw [convert.eq_def]
      rfl
    rw [hopen, Option.map_some, hflush]
    exact congrArg some (List.append_nil _).symm
  | case3 high a b c d rest hdigits unit hunit ih =>
    -- A first surrogate is held back, and one held before it is lost.
    rw [ih (by rintro _ ⟨rfl⟩; exact hunit), convert_textUnits_digits hdigits, Option.map_map,
      Option.map_map]
    refine congrArg (Option.map · _) (funext fun us ↦ (unitsLossy_flush hhigh ?_).symm)
    rintro _ ⟨rfl⟩
    exact Bool.not_eq_true _ ▸ fun hlow ↦
      Bool.false_ne_true ((isHighSurrogate_of_isLowSurrogate hlow).symm.trans hunit)
  | case4 high a b c d rest hdigits unit hunit hlow ih =>
    -- A second surrogate makes a pair with the one held back, or is lost.
    rw [ih nofun, convert_textUnits_digits hdigits, Option.map_map, Option.map_map]
    refine congrArg (Option.map · _) (funext fun us ↦ ?_)
    rcases high with _ | h
    · exact (unitsLossy_low hlow us).symm
    · exact (unitsLossy_pair (hhigh h rfl) hlow us).symm
  | case5 high a b c d rest hdigits unit hunit hlow ih =>
    have hscalar : IsScalar unit := ⟨Bool.not_eq_true _ ▸ hunit, Bool.not_eq_true _ ▸ hlow⟩
    rw [ih nofun, convert_textUnits_digits hdigits, Option.map_map, Option.map_map]
    refine congrArg (Option.map · _) (funext fun us ↦ Eq.symm ?_)
    exact (unitsLossy_flush hhigh (by rintro _ ⟨rfl⟩; exact hscalar.2)).trans
      (congrArg (flush high ++ ·) (unitsLossy_of_isScalar hscalar us))
  | case6 high a b c d rest hdigits =>
    rw [convert_textUnits_unicode, if_neg (by simpa using hdigits)]
    rfl
  | case7 high cs hshort =>
    rw [convert_textUnits_unicode, if_neg]
    · rfl
    · rintro ⟨hlength, _⟩
      match cs with
      | a :: b :: c :: d :: rest => exact hshort a b c d rest rfl
  | case8 high c cs hc ih =>
    have hconvert := convert_controlFor hc (textUnits cs)
    rw [ih nofun, textUnits_cons, textUnits_cons, charUnits_of_lt (by decide),
      List.singleton_append, hconvert, Option.map_map, Option.map_map]
    exact congrArg (Option.map · _) (funext fun us ↦ (unitsLossy_char hhigh (controlFor c) us).symm)
  | case9 high c cs hopen _ hescaped ih =>
    -- The cases of a backslash, with or without a character behind it, are done.
    have hslash : c ≠ '\\' := by
      rintro rfl
      rcases cs with _ | ⟨d, cs⟩
      · exact hopen rfl rfl
      · exact hescaped d cs rfl rfl
    rw [ih nofun, textUnits_cons, convert_charUnits hslash, Option.map_map, Option.map_map]
    exact congrArg (Option.map · _) (funext fun us ↦ (unitsLossy_char hhigh c us).symm)

/-! ## Loaded and parsed -/

theorem unescape?_eq_convert (cs : List Char) :
    (unescape? cs).map String.ofList = (convert (textUnits cs)).map unitsText := by
  have hread : unescape? cs = _ := unescapeAfter_eq_convert (by simp) cs
  rw [hread, Option.map_map]
  rfl

theorem readEntry_eq_loadEntry (number : Nat) (line : List Char) :
    (readEntry (number, line)).toOption =
      (loadEntry (textUnits line)).map fun e ↦ (unitsText e.1, unitsText e.2) := by
  obtain ⟨hkey, hvalue⟩ := load_splitEntry line
  have hkeyText := unescape?_eq_convert (splitEntry line).1
  have hvalueText := unescape?_eq_convert (splitEntry line).2
  rw [← hkey] at hkeyText
  rw [← hvalue] at hvalueText
  simp only [loadEntry, readEntry]
  rcases hk : unescape? (splitEntry line).1 with _ | k
  · rw [hk, Option.map_none, eq_comm, Option.map_eq_none_iff] at hkeyText
    rw [hkeyText]
    rfl
  · rw [hk, Option.map_some, eq_comm, Option.map_eq_some_iff] at hkeyText
    obtain ⟨us, hus, hk⟩ := hkeyText
    rcases hv : unescape? (splitEntry line).2 with _ | v
    · rw [hv, Option.map_none, eq_comm, Option.map_eq_none_iff] at hvalueText
      rw [hus, hvalueText]
      rfl
    · rw [hv, Option.map_some, eq_comm, Option.map_eq_some_iff] at hvalueText
      obtain ⟨vs, hvs, hv⟩ := hvalueText
      rw [hus, hvs]
      exact congrArg some (Prod.ext hk.symm hv.symm)

/-- The lines of a text are read alike, and both readers give up at the same line. -/
theorem mapM_readEntry_eq (lines : List (Nat × List Char)) :
    (lines.mapM readEntry).toOption =
      ((lines.map fun l ↦ textUnits l.2).mapM loadEntry).map
        (List.map fun e ↦ (unitsText e.1, unitsText e.2)) := by
  induction lines with
  | nil => rfl
  | cons line lines ih =>
    have hline : (readEntry line).toOption = _ := readEntry_eq_loadEntry line.1 line.2
    rw [List.map_cons, List.mapM_cons, List.mapM_cons]
    generalize readEntry line = read, loadEntry (textUnits line.2) = loaded at hline ⊢
    rcases read with error | pair <;> rcases loaded with _ | entry <;> cases hline
    · rfl
    · generalize lines.mapM readEntry = reads,
        (lines.map fun l ↦ textUnits l.2).mapM loadEntry = loads at ih ⊢
      rcases reads with error | pairs <;> rcases loads with _ | entries <;> cases ih <;> rfl

/-- **Parsing is loading.** The entries parsed from a text are those that are loaded from it, the
distinct keys in the order of their first occurrence, each with its last value; and there are none
just if there are none to load. -/
theorem parse_eq_load (text : String) {keeps : Bool}
    (h : keeps = true ∨ stumbles {} (textUnits text.toList) = false) :
    (parse text).toOption = (load keeps (textUnits text.toList)).map fun es ↦
      lastValues (es.map fun e ↦ (unitsText e.1, unitsText e.2)) := by
  have hlines : readLines keeps {} (textUnits text.toList) =
      (logicalLines 1 none ((normalizeNewlines text.toList).splitOn '\n')).map
        fun l ↦ textUnits l.2 := by
    rw [← readLines_textUnits]
    rcases keeps with _ | _
    · exact (readLines_of_not_stumbles (h.resolve_left Bool.false_ne_true)).symm
    · rfl
  have hread := mapM_readEntry_eq
    (logicalLines 1 none ((normalizeNewlines text.toList).splitOn '\n'))
  rw [load, hlines, parse]
  generalize ((logicalLines 1 none _).map _).mapM loadEntry = loads at hread ⊢
  generalize (logicalLines 1 none _).mapM readEntry = reads at hread ⊢
  rcases reads with error | pairs <;> rcases loads with _ | entries <;> cases hread
  · rfl
  · exact congrArg some (foldl_insertEntry _)

/-- A comment, blanks around an escaped key, and a line that is broken between two surrogates. -/
theorem parse_eq_load_surrogates :
    stumbles {} (textUnits "# c\nk\\ 1 = \\uD83D\\\r\n  \\uDE00\\t\n".toList) = false ∧
      (parse "# c\nk\\ 1 = \\uD83D\\\r\n  \\uDE00\\t\n").toOption = some [("k 1", "😀\t")] := by
  have hstumbles : stumbles {} (textUnits "# c\nk\\ 1 = \\uD83D\\\r\n  \\uDE00\\t\n".toList) =
      false := by cbv
  have hload : (load false (textUnits "# c\nk\\ 1 = \\uD83D\\\r\n  \\uDE00\\t\n".toList)).map
      (fun es ↦ lastValues (es.map fun e ↦ (unitsText e.1, unitsText e.2))) =
        some [("k 1", "😀\t")] := by cbv
  exact ⟨hstumbles, (parse_eq_load _ (.inr hstumbles)).trans hload⟩

/-- A blank line that is joined to nothing is parsed into an entry, and the loader of the class
library passes over it. -/
theorem parse_ne_load_joinedBlank :
    (parse "\\\n\nk=v").toOption ≠ (load false (textUnits "\\\n\nk=v".toList)).map fun es ↦
      lastValues (es.map fun e ↦ (unitsText e.1, unitsText e.2)) := by
  have hparse : (parse "\\\n\nk=v").toOption = some [("", ""), ("k", "v")] := by decide
  have hload : load false (textUnits "\\\n\nk=v".toList) = some [(['k'.toNat], ['v'.toNat])] := by
    cbv
  rw [hparse, hload]
  decide

end Properties

end JavaConstants
