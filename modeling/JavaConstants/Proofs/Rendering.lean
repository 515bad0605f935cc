import Mathlib.Tactic.SplitIfs
import JavaConstants.Identifier
import JavaConstants.Proofs.ClassTree
import JavaConstants.Proofs.Lists
import JavaConstants.Proofs.SelfDelimiting
import JavaConstants.Source.SourceFile
import JavaConstants.Unicode.Alphanumeric

/-!
# Generated source can be read in one way only

The text of a source file determines its package and its tree of classes: names, types, values, and
the order of constants and of nested classes, at every depth. What makes it so is that no text in
the layout can be taken for another one in its place. A name lacks the character behind it, an
escaped value lacks its own quote, and a nested class cannot be taken for a constant because no
type is spelled `class`. A value is any text at all; it may hold quotes, backslashes, line ends or
whole declarations.
-/

namespace JavaConstants

/-! ## Names -/

theorem isIdentifierPart_of_mem_name {s : String} (h : isName s = true) {c : Char}
    (hc : c ∈ s.toList) : isIdentifierPart c = true := by
  rw [isName] at h
  cases hs : s.toList with
  | nil => rw [hs] at hc; exact absurd hc List.not_mem_nil
  | cons d ds =>
    rw [hs] at h hc
    simp only [Bool.and_eq_true, List.all_eq_true] at h
    rcases List.mem_cons.mp hc with rfl | hd
    · exact isIdentifierPart_of_isIdentifierStart h.1.2
    · exact h.2 c hd

theorem notMem_of_isName {s : String} {c : Char} (h : isName s = true)
    (hc : isIdentifierPart c = false) : c ∉ s.toList := by
  intro hmem
  rw [isIdentifierPart_of_mem_name h hmem] at hc
  exact Bool.noConfusion hc

theorem isIdentifierPart_of_mem_package {s : String} (h : isPackageName s = true) {c : Char}
    (hc : c ∈ s.toList) : c = '.' ∨ isIdentifierPart c = true := by
  simp only [isPackageName, Bool.and_eq_true, List.all_eq_true] at h
  have hsplit : ['.'].intercalate (s.toList.splitOn '.') = s.toList := List.intercalate_splitOn _
  rw [← hsplit] at hc
  by_cases hdot : c = '.'
  · exact .inl hdot
  · obtain ⟨part, hpart, hcpart⟩ := (mem_intercalate_iff (by simpa using hdot)).mp hc
    refine .inr (isIdentifierPart_of_mem_name (h.2 part hpart) ?_)
    rwa [String.toList_ofList]

/-! ## Literals -/

theorem hexDigit?_lowerHexDigit : ∀ d < 16, hexDigit? (lowerHexDigit d) = some d := by decide

theorem ofHexDigits_lowerHex4 (n : ℕ) : ofHexDigits (lowerHex4 n) = n % 0x10000 := by
  have hd (i : ℕ) : (hexDigit? (lowerHexDigit (n / 2 ^ i % 16))).getD 0 = n / 2 ^ i % 16 := by
    rw [hexDigit?_lowerHexDigit _ (Nat.mod_lt _ (by decide)), Option.getD_some]
  have hlist : lowerHex4 n = [12, 8, 4, 0].map fun i ↦ lowerHexDigit (n >>> i % 16) := rfl
  simp only [hlist, ofHexDigits, List.map_cons, List.map_nil, List.foldl_cons, List.foldl_nil,
    Nat.shiftRight_eq_div_pow, hd]
  omega

theorem isControl_toNat_lt {c : Char} (h : isControl c = true) : c.toNat < 0x10000 := by
  simp only [isControl, Bool.or_eq_true, Bool.and_eq_true, decide_eq_true_eq] at h
  omega

/-- The character that a backslash and a character other than `u` behind it stand for. -/
def simpleEscape (c : Char) : Char :=
  if c = 'b' then '\x08'
  else if c = 't' then '\t'
  else if c = 'n' then '\n'
  else if c = 'f' then '\x0c'
  else if c = 'r' then '\r'
  else c

/-- Reads one character of a literal, spelled as itself or as an escape; gives it and the rest. -/
def readEscaped : List Char → Option (Char × List Char)
  | [] => none
  | c :: cs =>
    if c = '\\' then
      match cs with
      | [] => none
      | d :: ds =>
        if d = 'u' then some (Char.ofNat (ofHexDigits (ds.take 4)), ds.drop 4)
        else some (simpleEscape d, ds)
    else some (c, cs)

/-- The quotes that literals stand between. -/
def quotes : List Char := ['"', '\'']

/-- Every character is read back from its spelling in a literal, whatever follows it. -/
theorem readEscaped_escapeChar {quote : Char} (hq : quote ∈ quotes) (c : Char) (r : List Char) :
    readEscaped (escapeChar quote c ++ r) = some (c, r) := by
  unfold escapeChar
  split_ifs with hb ht hn hf hr hs hquote hctrl
  · rw [hb]; rfl
  · rw [ht]; rfl
  · rw [hn]; rfl
  · rw [hf]; rfl
  · rw [hr]; rfl
  · rw [hs]; rfl
  · simp only [quotes, List.mem_cons, List.not_mem_nil, or_false] at hq
    rcases hq with rfl | rfl <;> (rw [hquote]; rfl)
  · -- A control is below the first character that four digits cannot spell.
    have hlen : (lowerHex4 c.toNat).length = 4 := length_fixedHex _ _ _
    have hread : readEscaped ('\\' :: 'u' :: lowerHex4 c.toNat ++ r) =
        some (Char.ofNat (ofHexDigits ((lowerHex4 c.toNat ++ r).take 4)),
          (lowerHex4 c.toNat ++ r).drop 4) := rfl
    rw [hread, List.take_left' hlen, List.drop_left' hlen, ofHexDigits_lowerHex4,
      Nat.mod_eq_of_lt (isControl_toNat_lt hctrl), Char.ofNat_toNat]
  · exact if_neg hs

theorem escapeChar_delimits {quote : Char} (hq : quote ∈ quotes) (c d : Char) :
    Delimits (escapeChar quote) c d := by
  intro r s h
  have hread := congrArg readEscaped h
  rw [readEscaped_escapeChar hq, readEscaped_escapeChar hq] at hread
  exact Prod.mk.inj (Option.some.inj hread)

/-- No spelling of a character in a literal can be taken for the quote that ends it. -/
theorem escapeChar_append_ne {quote : Char} (hq : quote ∈ quotes) (c : Char) (r s : List Char) :
    escapeChar quote c ++ r ≠ quote :: s := by
  have hslash (spelling : List Char) : '\\' :: spelling ≠ quote :: s := by
    intro h
    rw [← (List.cons.inj h).1] at hq
    exact absurd hq (by decide)
  unfold escapeChar
  split_ifs with _ _ _ _ _ _ hquote
  · exact hslash _
  · exact hslash _
  · exact hslash _
  · exact hslash _
  · exact hslash _
  · exact hslash _
  · exact hslash _
  · exact hslash _
  · exact fun h ↦ hquote (List.cons.inj h).1

theorem stringLiteralChars_delimits (a b : List Char) : Delimits stringLiteralChars a b := by
  intro r s h
  have hq : '"' ∈ quotes := by decide
  simp only [stringLiteralChars, List.cons_append, List.append_assoc, List.cons.injEq,
    true_and] at h
  obtain ⟨hab, hrs⟩ := flatMap_append_inj (fun c _ d _ ↦ escapeChar_delimits hq c d)
    (fun d _ t ↦ escapeChar_append_ne hq d t r) (fun c _ t ↦ escapeChar_append_ne hq c t s) h
  exact ⟨hab, (List.cons.inj hrs).2⟩

theorem charLiteralChars_delimits (a b : Char) : Delimits charLiteralChars a b := by
  intro r s h
  simp only [charLiteralChars, List.cons_append, List.append_assoc, List.cons.injEq,
    true_and] at h
  obtain ⟨hab, hrs⟩ := escapeChar_delimits (by decide) a b h
  exact ⟨hab, (List.cons.inj hrs).2⟩

/-! ## Constants -/

/-- Whether a character may stand in a value that is written without quotes. -/
def isRawChar (c : Char) : Bool :=
  Unicode.isAlphanumeric c || c == '.' || c == '+' || c == '-'

/-- The constants that generated source declares: a text of any kind, a single character, or a
value of another type than `String` that consists of letters, digits, dots and signs. -/
inductive Field.Legible : Field → Prop where
  | text {name value : String} (hname : isName name = true) :
    Legible ⟨name, .string, value, .text⟩
  | character {name : String} {c : Char} (hname : isName name = true) :
    Legible ⟨name, .char, String.ofList [c], .character⟩
  | verbatim {name value : String} {type : JavaType} (hname : isName name = true)
    (htype : type ≠ .string) (hvalue : ∀ c ∈ value.toList, isRawChar c = true) :
    Legible ⟨name, type, value, .verbatim⟩

namespace Field

theorem Legible.isName_name {f : Field} (h : f.Legible) : isName f.name = true := by
  cases h <;> assumption

theorem raw_append_ne_charLiteral {value r s : List Char} {c : Char}
    (hvalue : ∀ c ∈ value, isRawChar c = true) :
    value ++ ';' :: r ≠ charLiteralChars c ++ s := by
  intro h
  cases value with
  | nil => exact absurd (List.cons.inj h).1 (by decide)
  | cons d value =>
    have hd := hvalue d List.mem_cons_self
    rw [(List.cons.inj h).1] at hd
    exact absurd hd (by decide)

/-- The initializer of a constant and the semicolon behind it determine the value. -/
theorem initializer_append_inj {f g : Field} (hf : f.Legible) (hg : g.Legible)
    (htype : f.type = g.type) {r s : List Char}
    (h : f.initializer.toList ++ ';' :: r = g.initializer.toList ++ ';' :: s) :
    f.value = g.value ∧ f.kind = g.kind ∧ r = s := by
  cases hf with
  | text =>
    cases hg with
    | text =>
      simp only [initializer, stringLiteral, String.toList_ofList] at h
      obtain ⟨hvalue, hrest⟩ := stringLiteralChars_delimits _ _ h
      exact ⟨String.toList_inj.mp hvalue, rfl, (List.cons.inj hrest).2⟩
    | character => cases htype
    | verbatim _ hne => exact absurd htype.symm hne
  | character =>
    cases hg with
    | text => cases htype
    | character =>
      simp only [initializer, charLiteral, String.toList_ofList] at h
      obtain ⟨hvalue, hrest⟩ := charLiteralChars_delimits _ _ h
      exact ⟨by rw [hvalue], rfl, (List.cons.inj hrest).2⟩
    | verbatim _ _ hvalue =>
      simp only [initializer, charLiteral, String.toList_ofList] at h
      exact absurd h.symm (raw_append_ne_charLiteral hvalue)
  | verbatim _ hne hvalue =>
    cases hg with
    | text => exact absurd htype hne
    | character =>
      simp only [initializer, charLiteral, String.toList_ofList] at h
      exact absurd h (raw_append_ne_charLiteral hvalue)
    | verbatim _ _ hvalue' =>
      have hraw : isRawChar ';' = false := by decide
      obtain ⟨hval, hrest⟩ := append_stop_inj (fun hm ↦ by simp [hvalue _ hm] at hraw)
        (fun hm ↦ by simp [hvalue' _ hm] at hraw) h
      exact ⟨String.toList_inj.mp hval, rfl, hrest⟩

end Field

namespace JavaType

theorem notMem_keyword (t : JavaType) : ' ' ∉ t.keyword.toList := by
  cases t <;> decide

theorem keyword_injective {t u : JavaType} (h : t.keyword = u.keyword) : t = u := by
  revert h
  cases t <;> cases u <;> decide

theorem keyword_ne_class (t : JavaType) : t.keyword ≠ "class" := by
  cases t <;> decide

end JavaType

namespace Field

/-- The modifiers of every constant, and of every class but the root. -/
def modifiers : List Char := "public static final ".toList

theorem toList_declaration (f : Field) :
    f.declaration.toList = modifiers ++ (f.type.keyword.toList ++ ' ' :: (f.name.toList ++
      ' ' :: '=' :: ' ' :: (f.initializer.toList ++ [';']))) := by
  have hblank : " ".toList = [' '] := rfl
  have hsign : " = ".toList = [' ', '=', ' '] := rfl
  have hend : ";".toList = [';'] := rfl
  unfold declaration modifiers
  simp only [String.toList_append, List.append_assoc, hblank, hsign, hend, List.cons_append,
    List.nil_append]

theorem declaration_delimits {f g : Field} (hf : f.Legible) (hg : g.Legible) :
    Delimits (fun f : Field ↦ f.declaration.toList) f g := by
  intro r s h
  have hblank : isIdentifierPart ' ' = false := by decide
  simp only [toList_declaration, List.append_assoc, List.cons_append, List.nil_append,
    List.append_cancel_left_eq] at h
  obtain ⟨htype, h⟩ := append_stop_inj (JavaType.notMem_keyword _) (JavaType.notMem_keyword _) h
  have htype := JavaType.keyword_injective (String.toList_inj.mp htype)
  obtain ⟨hname, h⟩ := append_stop_inj (notMem_of_isName hf.isName_name hblank)
    (notMem_of_isName hg.isName_name hblank) h
  simp only [List.cons.injEq, true_and] at h
  obtain ⟨hvalue, hkind, hrest⟩ := initializer_append_inj hf hg htype h
  obtain ⟨name, type, value, kind⟩ := f
  obtain ⟨name', type', value', kind'⟩ := g
  obtain rfl : name = name' := String.toList_inj.mp hname
  obtain rfl : type = type' := htype
  obtain rfl : value = value' := hvalue
  obtain rfl : kind = kind' := hkind
  exact ⟨rfl, hrest⟩

end Field

/-! ## Classes

Each line of a class has to be told from the line that could stand there instead: a constant from
the header of a nested class, and either from the line that ends the class. With that, members in
a row are read one by one (`flatMap_append_inj`). -/

/-- What a class needs so that its text tells everything about it: a name, constants that generated
source declares, and every member under its own name as its key. -/
structure ClassNode.Legible (c : ClassNode) : Prop where
  isName_name : isName c.name = true
  field : ∀ k f, (k, f) ∈ c.fieldMap → f.name = k ∧ f.Legible
  nested : ∀ k d, (k, d) ∈ c.classMap → d.name = k

namespace ClassNode

theorem forall_holds_legible {name : String} {fs : List (String × Field)}
    {cs : List (String × ClassNode)} (hname : isName name = true)
    (hfs : ∀ e ∈ fs, e.2.name = e.1 ∧ e.2.Legible)
    (hcs : ∀ e ∈ cs, e.2.name = e.1 ∧ ∀ d, e.2.Holds d → d.Legible) :
    ∀ d, (mk name fs cs).Holds d → d.Legible :=
  forall_holds_iff.mpr ⟨⟨hname, fun _ _ hf ↦ hfs _ hf, fun _ _ hd ↦ (hcs _ hd).1⟩,
    fun _ _ hd ↦ (hcs _ hd).2⟩

/-- The lines of a class before its first member. -/
def opening (depth : ℕ) (name : String) : List Char :=
  (sourceLine depth (header name depth)).toList ++
    ((sourceLine (depth + 1) ("private " ++ name ++ "() \x7b")).toList ++
      (sourceLine (depth + 1) "\x7d").toList)

/-- The line that ends a class. -/
def closing (depth : ℕ) : List Char := (sourceLine depth "\x7d").toList

/-- An empty line and the declaration of a constant. -/
def fieldText (depth : ℕ) (e : String × Field) : List Char :=
  '\n' :: (sourceLine depth e.2.declaration).toList

/-- An empty line and the text of a nested class. -/
def classText (depth : ℕ) (e : String × ClassNode) : List Char :=
  '\n' :: (render depth e.2).toList

theorem toList_renderNested (depth : ℕ) (cs : List (String × ClassNode)) :
    (renderNested depth cs).toList = cs.flatMap (classText depth) := by
  induction cs with
  | nil => rw [renderNested, List.flatMap_nil, String.toList_empty]
  | cons e cs ih =>
    rw [renderNested, String.toList_append, String.toList_append, ih, List.flatMap_cons]
    rfl

theorem toList_render (depth : ℕ) (c : ClassNode) :
    (c.render depth).toList = opening depth c.name ++
      (c.fieldMap.flatMap (fieldText (depth + 1)) ++
        (c.classMap.flatMap (classText (depth + 1)) ++ closing depth)) := by
  cases c with
  | mk name fs cs =>
    rw [render]
    simp only [String.toList_append, String.toList_join, toList_renderNested, opening, closing,
      List.flatMap_map, List.append_assoc, name_mk, fieldMap_mk, classMap_mk]
    rfl

theorem toList_sourceLine (depth : ℕ) (text : String) :
    (sourceLine depth text).toList = List.replicate (2 * depth) ' ' ++ (text.toList ++ ['\n']) := by
  have hend : "\n".toList = ['\n'] := rfl
  unfold sourceLine indent
  rw [String.toList_append, String.toList_append, String.toList_ofList, hend, List.append_assoc]

/-- The words before the name of a class. -/
def headerWords (depth : ℕ) : List Char :=
  (if depth = 0 then "public final" else "public static final").toList ++ " class ".toList

theorem toList_header (name : String) (depth : ℕ) :
    (header name depth).toList = headerWords depth ++ (name.toList ++ [' ', '\x7b']) := by
  have hbrace : " \x7b".toList = [' ', '\x7b'] := rfl
  unfold header headerWords
  simp only [String.toList_append, List.append_assoc, hbrace]

/-- The words before the name of a nested class are those of a constant with the type `class`. -/
theorem headerWords_succ (depth : ℕ) :
    headerWords (depth + 1) = Field.modifiers ++ ("class".toList ++ [' ']) := by
  unfold headerWords
  rw [if_neg (Nat.succ_ne_zero depth)]
  decide

theorem opening_delimits {depth : ℕ} {name name' : String} (h : isName name = true)
    (h' : isName name' = true) : Delimits (opening depth) name name' := by
  intro r s heq
  have hblank : isIdentifierPart ' ' = false := by decide
  have hcut := heq
  simp only [opening, toList_sourceLine, toList_header, List.append_assoc, List.cons_append,
    List.append_cancel_left_eq] at hcut
  obtain ⟨hname, -⟩ := append_stop_inj (notMem_of_isName h hblank) (notMem_of_isName h' hblank)
    hcut
  rw [String.toList_inj] at hname
  subst hname
  exact ⟨rfl, List.append_cancel_left heq⟩

theorem fieldText_delimits {depth : ℕ} {a b : String × Field} (ha : a.2.name = a.1 ∧ a.2.Legible)
    (hb : b.2.name = b.1 ∧ b.2.Legible) : Delimits (fieldText depth) a b := by
  intro r s h
  simp only [fieldText, toList_sourceLine, List.append_assoc, List.cons_append, List.cons.injEq,
    true_and, List.append_cancel_left_eq] at h
  obtain ⟨hfield, hrest⟩ := Field.declaration_delimits ha.2 hb.2 h
  refine ⟨Prod.ext ?_ hfield, (List.cons.inj hrest).2⟩
  rw [← ha.1, ← hb.1, hfield]

theorem cons_ne_closing_append (depth : ℕ) (r s : List Char) : '\n' :: r ≠ closing depth ++ s := by
  intro h
  cases depth with
  | zero => exact absurd (List.cons.inj h).1 (by decide)
  | succ depth =>
    rw [closing, toList_sourceLine, Nat.mul_succ, List.replicate_succ] at h
    exact absurd (List.cons.inj h).1 (by decide)

theorem fieldText_append_ne (depth : ℕ) (e : String × Field) (cs : List (String × ClassNode))
    (r s : List Char) : fieldText (depth + 1) e ++ r ≠
      cs.flatMap (classText (depth + 1)) ++ (closing depth ++ s) := by
  intro h
  cases cs with
  | nil => exact cons_ne_closing_append depth _ _ h
  | cons d cs =>
    simp only [List.flatMap_cons, fieldText, classText, toList_render, opening, toList_sourceLine,
      toList_header, headerWords_succ, Field.toList_declaration, List.append_assoc,
      List.cons_append, List.nil_append, List.cons.injEq, true_and,
      List.append_cancel_left_eq] at h
    -- Behind the same modifiers stands a type in one text and `class` in the other.
    obtain ⟨hword, -⟩ := append_stop_inj (JavaType.notMem_keyword _) (by decide) h
    exact JavaType.keyword_ne_class _ (String.toList_inj.mp hword)

/-- **Classes.** The text of a class, followed by anything, determines the class and what follows.
The induction is on the first of the two classes. -/
theorem render_delimits {c : ClassNode} (hc : ∀ e, c.Holds e → e.Legible) (d : ClassNode)
    (hd : ∀ e, d.Holds e → e.Legible) (depth : ℕ) :
    Delimits (fun c ↦ (render depth c).toList) c d := by
  induction c using ClassNode.induction generalizing d depth with
  | h c ih =>
    intro r s h
    rw [forall_holds_iff] at hc hd
    obtain ⟨hc, hcbelow⟩ := hc
    obtain ⟨hd, hdbelow⟩ := hd
    simp only [toList_render, List.append_assoc] at h
    obtain ⟨hname, h⟩ := opening_delimits hc.isName_name hd.isName_name h
    -- Constants end where the text of a member begins in another way, and so do nested classes.
    obtain ⟨hfields, h⟩ := flatMap_append_inj
      (fun a ha b hb ↦ fieldText_delimits (hc.field _ _ ha) (hd.field _ _ hb))
      (fun b _ t ↦ fieldText_append_ne depth b c.classMap t r)
      (fun a _ t ↦ fieldText_append_ne depth a d.classMap t s) h
    -- Keys are no part of the text, but they are the names of the members, which are.
    obtain ⟨hnested, h⟩ := flatMap_append_inj
      (fun a ha b hb r s hab ↦ by
        obtain ⟨hclass, hrest⟩ := ih a.1 a.2 ha (hcbelow _ _ ha) b.2 (hdbelow _ _ hb) (depth + 1)
          (List.cons.inj hab).2
        refine ⟨Prod.ext ?_ hclass, hrest⟩
        rw [← hc.nested _ _ ha, ← hd.nested _ _ hb, hclass])
      (fun b _ t ↦ cons_ne_closing_append depth _ _)
      (fun a _ t ↦ cons_ne_closing_append depth _ _) h
    refine ⟨?_, List.append_cancel_left h⟩
    rw [← eta c, ← eta d, hname, hfields, hnested]

end ClassNode

/-! ## Source files -/

namespace SourceFile

/-- What a source file needs so that its text tells everything about it. -/
structure Legible (f : SourceFile) : Prop where
  package : f.package = "" ∨ isPackageName f.package = true
  root : ∀ c, f.root.Holds c → c.Legible

theorem toList_renderPackage {package : String} (h : package ≠ "") :
    (renderPackage package).toList =
      "package ".toList ++ (package.toList ++ [';', '\n', '\n']) := by
  have hend : ";\n\n".toList = [';', '\n', '\n'] := rfl
  unfold renderPackage
  rw [if_neg h, String.toList_append, String.toList_append, hend, List.append_assoc]

theorem package_append_ne (package r : List Char) (c : ClassNode) :
    "package ".toList ++ package ++ r ≠ (c.render 0).toList := by
  intro h
  simp only [ClassNode.toList_render, ClassNode.opening, ClassNode.toList_sourceLine,
    ClassNode.toList_header, List.append_assoc] at h
  exact absurd (List.cons.inj (List.cons.inj h).2).1 (by decide)

theorem package_root_inj {f g : SourceFile} (hf : f.Legible) (hg : g.Legible)
    (h : (renderPackage f.package).toList ++ (f.root.render 0).toList =
      (renderPackage g.package).toList ++ (g.root.render 0).toList) :
    f.package = g.package ∧ f.root = g.root := by
  have hroot (h : (f.root.render 0).toList = (g.root.render 0).toList) : f.root = g.root :=
    (ClassNode.render_delimits hf.root g.root hg.root 0 (congrArg (· ++ []) h)).1
  have hempty : (renderPackage "").toList = [] := rfl
  by_cases hfp : f.package = ""
  · by_cases hgp : g.package = ""
    · rw [hfp, hgp] at h ⊢
      exact ⟨rfl, hroot (List.append_cancel_left h)⟩
    · rw [hfp, hempty, toList_renderPackage hgp, List.nil_append] at h
      exact absurd h.symm (package_append_ne _ _ _)
  · by_cases hgp : g.package = ""
    · rw [hgp, hempty, toList_renderPackage hfp, List.nil_append] at h
      exact absurd h (package_append_ne _ _ _)
    · have hstop {p : String} (hp : p = "" ∨ isPackageName p = true) (hne : p ≠ "") :
          ';' ∉ p.toList := by
        intro hmem
        rcases isIdentifierPart_of_mem_package (hp.resolve_left hne) hmem with h | h <;>
          exact absurd h (by decide)
      simp only [toList_renderPackage hfp, toList_renderPackage hgp, List.append_assoc,
        List.cons_append, List.append_cancel_left_eq] at h
      obtain ⟨hpackage, hrest⟩ := append_stop_inj (hstop hf.package hfp) (hstop hg.package hgp) h
      simp only [List.cons.injEq, true_and, List.nil_append] at hrest
      exact ⟨String.toList_inj.mp hpackage, hroot hrest⟩

theorem toList_render (f : SourceFile) :
    f.render.toList = (renderComment f.comment).toList ++
      ((renderPackage f.package).toList ++ (f.root.render 0).toList) := by
  rw [render, String.toList_append, String.toList_append, List.append_assoc]

/-- **One reading.** Two files with the same comment and the same text are the same. -/
theorem package_root_eq_of_render_eq {f g : SourceFile} (hf : f.Legible) (hg : g.Legible)
    (hcomment : f.comment = g.comment) (h : f.render = g.render) :
    f.package = g.package ∧ f.root = g.root := by
  rw [← String.toList_inj, toList_render, toList_render, hcomment,
    List.append_cancel_left_eq] at h
  exact package_root_inj hf hg h

end SourceFile

end JavaConstants
