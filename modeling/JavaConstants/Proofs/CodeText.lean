import JavaConstants.Proofs.Rendering

/-!
# The code of generated source

What is left of a source text without its comments and its literals, and the number of constants
and classes declared there. In generated source these are the numbers of constants and classes of
the tree, whatever the values hold: a value that contains quotes, line ends or the text of a
declaration adds nothing to the code.

The counts are taken from the text alone. A `=` outside comments and literals belongs to the
declaration of a constant, and the word `class` there to the header of a class.
-/

namespace JavaConstants

/-! ## Reading source -/

/-- What a reader of source is in the middle of. -/
inductive ReadState where
  /-- Code. -/
  | code
  /-- A literal that ends with the quote given. -/
  | literal (quote : Char)
  /-- A literal, right behind a backslash. -/
  | escape (quote : Char)
  /-- A comment, which ends with its line. -/
  | comment

/-- A source text without its comments and literals; a comment leaves its line end.

A comment goes on up to a line feed here, so the counts that are made of this text
(`render_faithful`) take every line of the comment of a file for a comment. The language ends lines
at carriage returns as well, after it has translated escapes; `commentLines_iff` says for which
files each line of the comment is one to it. -/
def codeText (state : ReadState) : List Char → List Char
  | [] => []
  | c :: cs =>
    match state with
    | .code =>
      if c ∈ quotes then codeText (.literal c) cs
      else if c = '/' ∧ cs.head? = some '/' then codeText .comment cs
      else c :: codeText .code cs
    | .literal quote =>
      if c = '\\' then codeText (.escape quote) cs
      else if c = quote then codeText .code cs
      else codeText (.literal quote) cs
    | .escape quote => codeText (.literal quote) cs
    | .comment => if c = '\n' then c :: codeText .code cs else codeText .comment cs

/-- Whether a character stands between words. -/
def isWordEnd (c : Char) : Bool := c == ' ' || c == '\n'

/-- The words of a text. -/
def words (cs : List Char) : List (List Char) := cs.splitOnP isWordEnd

/-- The number of constants declared in a source text. -/
def declarationCount (source : List Char) : ℕ := (codeText .code source).count '='

/-- The number of classes declared in a source text. -/
def headerCount (source : List Char) : ℕ := (words (codeText .code source)).count "class".toList

/-! ## Code, literals and comments

A literal and a comment are passed over whole. In a literal the spelling of each character leaves
the reader where it was, also that of the quote, which stands behind a backslash there. -/

/-- A character that starts neither a literal nor a comment. -/
def isCodeChar (c : Char) : Bool := !(c == '"' || c == '\'' || c == '/')

theorem codeText_append_of_code {cs : List Char} (h : ∀ c ∈ cs, isCodeChar c = true)
    (rest : List Char) : codeText .code (cs ++ rest) = cs ++ codeText .code rest := by
  induction cs with
  | nil => rfl
  | cons c cs ih =>
    have hc := h c List.mem_cons_self
    simp only [isCodeChar, Bool.not_eq_true', Bool.or_eq_false_iff, beq_eq_false_iff_ne] at hc
    obtain ⟨⟨hdouble, hsingle⟩, hslash⟩ := hc
    rw [List.cons_append, codeText, if_neg (by simp [quotes, hdouble, hsingle]),
      if_neg (fun hcomment ↦ hslash hcomment.1), ih fun d hd ↦ h d (List.mem_cons_of_mem _ hd),
      List.cons_append]

/-- No digit of an escape ends a literal or starts another escape. -/
theorem codeText_lowerHex4 {quote : Char} (hq : quote ∈ quotes) (n : ℕ) (rest : List Char) :
    codeText (.literal quote) (lowerHex4 n ++ rest) = codeText (.literal quote) rest := by
  have hdigit : ∀ d < 16, lowerHexDigit d ≠ '\\' ∧ lowerHexDigit d ∉ quotes := by decide
  have hskip (i : ℕ) (rest : List Char) :
      codeText (.literal quote) (lowerHexDigit (n >>> i % 16) :: rest) =
        codeText (.literal quote) rest := by
    obtain ⟨hslash, hquote⟩ := hdigit _ (Nat.mod_lt (n >>> i) (by decide))
    have hne : lowerHexDigit (n >>> i % 16) ≠ quote := fun h ↦ hquote (h ▸ hq)
    rw [codeText, if_neg hslash, if_neg hne]
  have hlist : lowerHex4 n = [12, 8, 4, 0].map fun i ↦ lowerHexDigit (n >>> i % 16) := rfl
  simp only [hlist, List.map_cons, List.map_nil, List.cons_append, List.nil_append, hskip]

/-- The spelling of a character in a literal leaves the reader in that literal. -/
theorem codeText_escapeChar {quote : Char} (hq : quote ∈ quotes) (c : Char) (rest : List Char) :
    codeText (.literal quote) (escapeChar quote c ++ rest) = codeText (.literal quote) rest := by
  unfold escapeChar
  split_ifs with _ _ _ _ _ hs hquote
  · rfl
  · rfl
  · rfl
  · rfl
  · rfl
  · rfl
  · rfl
  · exact codeText_lowerHex4 hq _ _
  · -- A character that stands for itself is neither a backslash nor the quote.
    rw [List.singleton_append, codeText, if_neg hs, if_neg hquote]

/-- A literal adds nothing to the code, whatever it spells. -/
theorem codeText_literal {quote : Char} (hq : quote ∈ quotes) (cs rest : List Char) :
    codeText .code (quote :: cs.flatMap (escapeChar quote) ++ quote :: rest) =
      codeText .code rest := by
  have hslash : quote ≠ '\\' := by
    rintro rfl
    exact absurd hq (by decide)
  rw [List.cons_append, codeText, if_pos hq]
  induction cs with
  | nil => rw [List.flatMap_nil, List.nil_append, codeText, if_neg hslash, if_pos rfl]
  | cons c cs ih => rw [List.flatMap_cons, List.append_assoc, codeText_escapeChar hq, ih]

theorem codeText_comment {line : List Char} (h : '\n' ∉ line) (rest : List Char) :
    codeText .code ('/' :: '/' :: line ++ '\n' :: rest) = '\n' :: codeText .code rest := by
  have hskip (line : List Char) (h : '\n' ∉ line) :
      codeText .comment (line ++ '\n' :: rest) = '\n' :: codeText .code rest := by
    induction line with
    | nil => rfl
    | cons c line ih =>
      have hc : c ≠ '\n' := fun hc ↦ h (hc ▸ List.mem_cons_self)
      rw [List.cons_append, codeText, if_neg hc, ih fun hm ↦ h (List.mem_cons_of_mem _ hm)]
  exact hskip ('/' :: line) fun hm ↦ h ((List.mem_cons.mp hm).resolve_left (by decide))

/-! ## Counting

What a text adds to the counts is said with whatever follows it (`Declares`), so that texts can be
put together. A word is counted once it has ended, so the pieces of code end behind a word. -/

/-- A character of a word that is not `=`. -/
def isWordChar (c : Char) : Bool := isCodeChar c && !isWordEnd c && c != '='

/-- The characters that words do not have. -/
def marks : List Char := ['"', '\'', '/', ' ', '\n', '=']

theorem all_isWordChar {p : Char → Bool} (hp : marks.any p = false) {cs : List Char}
    (hcs : ∀ c ∈ cs, p c = true) : cs.all isWordChar = true := by
  rw [List.all_eq_true]
  intro c hc
  have hne (d : Char) (hd : d ∈ marks) : c ≠ d := by
    rintro rfl
    have hany : marks.any p = true := List.any_eq_true.mpr ⟨c, hd, hcs c hc⟩
    exact absurd hany (by rw [hp]; decide)
  simp [isWordChar, isCodeChar, isWordEnd, hne '"' (by decide), hne '\'' (by decide),
    hne '/' (by decide), hne ' ' (by decide), hne '\n' (by decide), hne '=' (by decide)]

theorem all_isWordChar_of_isName {s : String} (h : isName s = true) :
    s.toList.all isWordChar = true :=
  all_isWordChar (p := isIdentifierPart) (by decide) fun _ ↦ isIdentifierPart_of_mem_name h

/-- What a text adds to the numbers of constants and of classes declared, whatever follows it. -/
structure Declares (text : List Char) (fields classes : ℕ) : Prop where
  declarationCount_append :
    ∀ rest, declarationCount (text ++ rest) = fields + declarationCount rest
  headerCount_append : ∀ rest, headerCount (text ++ rest) = classes + headerCount rest

namespace Declares

theorem nil : Declares [] 0 0 :=
  ⟨fun _ ↦ (Nat.zero_add _).symm, fun _ ↦ (Nat.zero_add _).symm⟩

theorem append {a b : List Char} {i j k l : ℕ} (ha : Declares a i j) (hb : Declares b k l) :
    Declares (a ++ b) (i + k) (j + l) := by
  refine ⟨fun rest ↦ ?_, fun rest ↦ ?_⟩
  · rw [List.append_assoc, ha.1, hb.1, Nat.add_assoc]
  · rw [List.append_assoc, ha.2, hb.2, Nat.add_assoc]

theorem of_code (cs : List Char) {e : Char} (h : cs.all isCodeChar = true)
    (he : isWordEnd e = true) :
    Declares (cs ++ [e]) (cs.count '=') ((words cs).count "class".toList) := by
  rw [List.all_eq_true] at h
  have hcode : isCodeChar e = true ∧ e ≠ '=' := by
    simp only [isWordEnd, Bool.or_eq_true, beq_iff_eq] at he
    rcases he with rfl | rfl <;> decide
  have htext (rest : List Char) :
      codeText .code (cs ++ [e] ++ rest) = cs ++ e :: codeText .code rest := by
    rw [codeText_append_of_code, List.append_assoc, List.singleton_append]
    intro c hc
    rcases List.mem_append.mp hc with hc | hc
    · exact h c hc
    · rw [List.mem_singleton.mp hc]
      exact hcode.1
  refine ⟨fun rest ↦ ?_, fun rest ↦ ?_⟩
  · rw [declarationCount, htext, List.count_append, List.count_cons_of_ne hcode.2,
      declarationCount]
  · rw [headerCount, htext, words, List.splitOnP_append_cons _ _ he, List.count_append,
      headerCount, words, words]

theorem of_word {w : List Char} {e : Char} (h : w.all isWordChar = true)
    (hclass : w ≠ "class".toList) (he : isWordEnd e = true) : Declares (w ++ [e]) 0 0 := by
  have hchar (c : Char) (hc : c ∈ w) : isCodeChar c = true ∧ isWordEnd c = false ∧ c ≠ '=' := by
    have := List.all_eq_true.mp h c hc
    simp only [isWordChar, Bool.and_eq_true, Bool.not_eq_true', bne_iff_ne] at this
    exact ⟨this.1.1, this.1.2, this.2⟩
  have hsign : w.count '=' = 0 := List.count_eq_zero.mpr fun hmem ↦ (hchar _ hmem).2.2 rfl
  have hwords : words w = [w] := List.splitOnP_eq_singleton fun c hc ↦ (hchar c hc).2.1
  have hw := of_code w (List.all_eq_true.mpr fun c hc ↦ (hchar c hc).1) he
  rwa [hsign, hwords, List.count_singleton, if_neg (by simpa using hclass)] at hw

theorem replicate_blank (n : ℕ) : Declares (List.replicate n ' ') 0 0 := by
  induction n with
  | zero => exact nil
  | succ n ih => exact append (of_word (w := []) rfl (by decide) rfl) ih

theorem lineEnd : Declares ['\n'] 0 0 := of_word (w := []) rfl (by decide) rfl

theorem of_literal {quote : Char} (hq : quote ∈ quotes) (cs : List Char) :
    Declares (quote :: cs.flatMap (escapeChar quote) ++ [quote]) 0 0 := by
  have htext (rest : List Char) :
      codeText .code (quote :: cs.flatMap (escapeChar quote) ++ [quote] ++ rest) =
        codeText .code rest := by
    rw [List.append_assoc, List.singleton_append, codeText_literal hq]
  refine ⟨fun rest ↦ ?_, fun rest ↦ ?_⟩
  · rw [declarationCount, htext, Nat.zero_add, declarationCount]
  · rw [headerCount, htext, Nat.zero_add, headerCount]

theorem of_comment {line : List Char} (h : '\n' ∉ line) :
    Declares ('/' :: '/' :: line ++ ['\n']) 0 0 := by
  have htext (rest : List Char) :
      codeText .code ('/' :: '/' :: line ++ ['\n'] ++ rest) = codeText .code (['\n'] ++ rest) := by
    rw [List.append_assoc, List.singleton_append, codeText_comment h]
    rfl
  refine ⟨fun rest ↦ ?_, fun rest ↦ ?_⟩
  · rw [declarationCount, htext, ← declarationCount, lineEnd.1]
  · rw [headerCount, htext, ← headerCount, lineEnd.2]

end Declares

/-! ## The layout -/

theorem all_isWordChar_keyword (t : JavaType) : t.keyword.toList.all isWordChar = true := by
  cases t <;> decide

theorem name_ne_class {s : String} (h : isName s = true) : s.toList ≠ "class".toList := by
  rw [Ne, String.toList_inj]
  rintro rfl
  exact absurd h (by decide)

theorem append_ne_class {mark : Char} (hmark : mark ∉ "class".toList) (a b : List Char) :
    a ++ mark :: b ≠ "class".toList := by
  intro h
  exact hmark (h ▸ List.mem_append_right _ List.mem_cons_self)

theorem Declares.sourceLine {text : String} {n m : ℕ} (h : Declares (text.toList ++ ['\n']) n m)
    (depth : ℕ) : Declares (sourceLine depth text).toList n m := by
  rw [ClassNode.toList_sourceLine]
  simpa using (Declares.replicate_blank _).append h

namespace Field

theorem declares_initializer {f : Field} (h : f.Legible) :
    Declares (f.initializer.toList ++ [';', '\n']) 0 0 := by
  have hend : Declares [';', '\n'] 0 0 :=
    Declares.of_word (w := [';']) (by decide) (by decide) rfl
  cases h with
  | text =>
    simp only [initializer, stringLiteral, String.toList_ofList, stringLiteralChars]
    exact (Declares.of_literal (by decide) _).append hend
  | @character _ c =>
    simp only [initializer, charLiteral, String.toList_ofList, charLiteralChars]
    have hliteral := Declares.of_literal (by decide : '\'' ∈ quotes) [c]
    rw [List.flatMap_singleton] at hliteral
    exact hliteral.append hend
  | @verbatim _ value _ _ _ hvalue =>
    -- No word ends before the semicolon, which makes the value differ from `class`.
    have hword : Declares (value.toList ++ [';'] ++ ['\n']) 0 0 := by
      refine Declares.of_word ?_ (append_ne_class (by decide) _ _) rfl
      rw [List.all_append, Bool.and_eq_true]
      exact ⟨all_isWordChar (p := isRawChar) (by decide) hvalue, by decide⟩
    rwa [List.append_assoc] at hword

theorem declares_modifiers : Declares modifiers 0 0 := by
  have hwords : modifiers =
      "public".toList ++ [' '] ++ ("static".toList ++ [' '] ++ ("final".toList ++ [' '])) := by
    decide
  have hpublic : Declares ("public".toList ++ [' ']) 0 0 := .of_word (by decide) (by decide) rfl
  have hstatic : Declares ("static".toList ++ [' ']) 0 0 := .of_word (by decide) (by decide) rfl
  have hfinal : Declares ("final".toList ++ [' ']) 0 0 := .of_word (by decide) (by decide) rfl
  rw [hwords]
  exact hpublic.append (hstatic.append hfinal)

/-- The declaration of a constant declares one constant and no class. -/
theorem declares_declaration {f : Field} (h : f.Legible) :
    Declares (f.declaration.toList ++ ['\n']) 1 0 := by
  have htype : Declares (f.type.keyword.toList ++ [' ']) 0 0 :=
    Declares.of_word (all_isWordChar_keyword _)
      (fun hclass ↦ f.type.keyword_ne_class (String.toList_inj.mp hclass)) rfl
  have hname : Declares (f.name.toList ++ [' ']) 0 0 :=
    Declares.of_word (all_isWordChar_of_isName h.isName_name) (name_ne_class h.isName_name) rfl
  have hsign : Declares ['=', ' '] 1 0 :=
    Declares.of_code ['='] (by decide) (by decide)
  have hall := declares_modifiers.append (htype.append (hname.append (hsign.append
    (declares_initializer h))))
  rw [toList_declaration]
  simpa using hall

end Field

namespace ClassNode

theorem declares_headerWords (depth : ℕ) : Declares (headerWords depth) 0 1 := by
  have hclass : Declares ("class".toList ++ [' ']) 0 1 := .of_code _ (by decide) rfl
  cases depth with
  | zero =>
    have hwords : headerWords 0 =
        "public".toList ++ [' '] ++ ("final".toList ++ [' '] ++ ("class".toList ++ [' '])) := by
      decide
    have hpublic : Declares ("public".toList ++ [' ']) 0 0 := .of_word (by decide) (by decide) rfl
    have hfinal : Declares ("final".toList ++ [' ']) 0 0 := .of_word (by decide) (by decide) rfl
    rw [hwords]
    exact hpublic.append (hfinal.append hclass)
  | succ depth =>
    rw [headerWords_succ]
    exact Field.declares_modifiers.append hclass

theorem declares_opening (depth : ℕ) {name : String} (h : isName name = true) :
    Declares (opening depth name) 0 1 := by
  have hbrace : Declares ['\x7b', '\n'] 0 0 :=
    Declares.of_word (w := ['\x7b']) (by decide) (by decide) rfl
  have hname : Declares (name.toList ++ [' ']) 0 0 :=
    Declares.of_word (all_isWordChar_of_isName h) (name_ne_class h) rfl
  have hheader : Declares ((header name depth).toList ++ ['\n']) 0 1 := by
    rw [toList_header]
    simpa using (declares_headerWords depth).append (hname.append hbrace)
  have hconstructor : Declares (("private " ++ name ++ "() \x7b").toList ++ ['\n']) 0 0 := by
    have hprivate : Declares "private ".toList 0 0 :=
      Declares.of_code "private".toList (by decide) (by decide)
    have hword : Declares (name.toList ++ '(' :: [')'] ++ [' ']) 0 0 := by
      refine Declares.of_word ?_ (append_ne_class (by decide) _ _) rfl
      rw [List.all_append, Bool.and_eq_true]
      exact ⟨all_isWordChar_of_isName h, by decide⟩
    have hmarks : "() \x7b".toList = ['(', ')', ' ', '\x7b'] := rfl
    rw [String.toList_append, String.toList_append, hmarks]
    simpa using hprivate.append (hword.append hbrace)
  have hend : Declares ("\x7d".toList ++ ['\n']) 0 0 :=
    Declares.of_word (by decide) (by decide) rfl
  exact (hheader.sourceLine depth).append
    ((hconstructor.sourceLine (depth + 1)).append (hend.sourceLine (depth + 1)))

theorem declares_fields {fs : List (String × Field)} (h : ∀ e ∈ fs, e.2.Legible) (depth : ℕ) :
    Declares (fs.flatMap (fieldText depth)) fs.length 0 := by
  induction fs with
  | nil => exact .nil
  | cons e fs ih =>
    have hfield : Declares (fieldText depth e) 1 0 :=
      Declares.lineEnd.append
        ((Field.declares_declaration (h e List.mem_cons_self)).sourceLine depth)
    have hall := hfield.append (ih fun d hd ↦ h d (List.mem_cons_of_mem _ hd))
    rw [List.flatMap_cons, List.length_cons, Nat.add_comm fs.length]
    exact hall

/-- **Classes.** The text of a class declares the constants and the classes of its tree. -/
theorem declares_render {c : ClassNode} (h : ∀ e, c.Holds e → e.Legible) (depth : ℕ) :
    Declares (c.render depth).toList c.totalFields c.totalClasses := by
  induction c using ClassNode.induction generalizing depth with
  | h c ih =>
    rw [forall_holds_iff] at h
    obtain ⟨hc, hbelow⟩ := h
    -- The counts recurse over lists of classes, so the induction needs one over their parts.
    have hnested (cs : List (String × ClassNode)) (hcs : ∀ e ∈ cs, e ∈ c.classMap) :
        Declares (cs.flatMap (classText (depth + 1))) (totalFieldsOf cs) (totalClassesOf cs) := by
      induction cs with
      | nil => exact .nil
      | cons e cs ihcs =>
        have he := hcs e List.mem_cons_self
        rw [List.flatMap_cons, totalFieldsOf, totalClassesOf]
        have hclass := Declares.lineEnd.append (ih _ _ he (hbelow _ _ he) (depth + 1))
        rw [Nat.zero_add, Nat.zero_add] at hclass
        exact hclass.append (ihcs fun d hd ↦ hcs d (List.mem_cons_of_mem _ hd))
    have hclosing : Declares (closing depth) 0 0 :=
      Declares.sourceLine (Declares.of_word (by decide) (by decide) rfl) depth
    have hall := (declares_opening depth hc.isName_name).append
      ((declares_fields (fun e he ↦ (hc.field _ _ he).2) (depth + 1)).append
        ((hnested c.classMap fun _ he ↦ he).append hclosing))
    rw [toList_render]
    cases c
    simpa [totalFields, totalClasses] using hall

end ClassNode

/-! ## Source files -/

theorem notMem_of_mem_linesAfter {line cs : List Char} (h : '\n' ∉ line) :
    ∀ l ∈ linesAfter line cs, '\n' ∉ l := by
  induction cs generalizing line with
  | nil =>
    intro l hl
    rw [linesAfter] at hl
    split at hl
    · exact absurd hl List.not_mem_nil
    · rw [List.mem_singleton.mp hl, List.mem_reverse]
      exact h
  | cons c cs ih =>
    intro l hl
    unfold linesAfter at hl
    split_ifs at hl with hc
    · rcases List.mem_cons.mp hl with rfl | hl
      · split
        · exact fun hm ↦ h (List.mem_cons_of_mem _ (List.mem_reverse.mp hm))
        · exact fun hm ↦ h (List.mem_reverse.mp hm)
      · exact ih List.not_mem_nil l hl
    · exact ih (fun hm ↦ (List.mem_cons.mp hm).elim (fun hn ↦ hc hn.symm) h) l hl

namespace SourceFile

theorem declares_renderComment (comment : Option String) :
    Declares (renderComment comment).toList 0 0 := by
  cases comment with
  | none => exact .nil
  | some text =>
    have hlines : ∀ line ∈ textLines text, '\n' ∉ line.toList := by
      intro line hline
      obtain ⟨l, hl, rfl⟩ := List.mem_map.mp hline
      rw [String.toList_ofList]
      exact notMem_of_mem_linesAfter List.not_mem_nil l hl
    rw [renderComment, String.toList_join, List.flatMap_map]
    generalize textLines text = lines at hlines
    induction lines with
    | nil => exact .nil
    | cons line lines ih =>
      have hline : Declares ("// " ++ line ++ "\n").toList 0 0 := by
        have hslashes : "// ".toList = ['/', '/', ' '] := rfl
        have hnotMem : '\n' ∉ ' ' :: line.toList := fun hm ↦
          hlines line List.mem_cons_self ((List.mem_cons.mp hm).resolve_left (by decide))
        have hcomment := Declares.of_comment hnotMem
        rw [String.toList_append, String.toList_append, hslashes]
        exact hcomment
      exact hline.append (ih fun l hl ↦ hlines l (List.mem_cons_of_mem _ hl))

theorem declares_renderPackage {package : String}
    (h : package = "" ∨ isPackageName package = true) :
    Declares (renderPackage package).toList 0 0 := by
  by_cases hempty : package = ""
  · rw [hempty]
    exact .nil
  · have hpackage : Declares "package ".toList 0 0 :=
      Declares.of_code "package".toList (by decide) (by decide)
    have hword : Declares (package.toList ++ [';'] ++ ['\n']) 0 0 := by
      refine Declares.of_word ?_ (append_ne_class (by decide) _ _) rfl
      rw [List.all_append, Bool.and_eq_true]
      refine ⟨?_, by decide⟩
      refine all_isWordChar (p := fun c ↦ c == '.' || isIdentifierPart c) (by decide) fun c hc ↦ ?_
      rw [Bool.or_eq_true, beq_iff_eq]
      exact isIdentifierPart_of_mem_package (h.resolve_left hempty) hc
    rw [toList_renderPackage hempty]
    simpa using hpackage.append (hword.append Declares.lineEnd)

/-- **Faithful source.** The text of a file determines its package and its tree of classes, and
declares as many constants and classes as the tree has. -/
theorem render_faithful {f g : SourceFile} (hf : f.Legible) (hg : g.Legible)
    (hcomment : f.comment = g.comment) :
    (f.render = g.render → f.package = g.package ∧ f.root = g.root) ∧
      declarationCount f.render.toList = f.root.totalFields ∧
      headerCount f.render.toList = f.root.totalClasses := by
  have hall := (declares_renderComment f.comment).append
    ((declares_renderPackage hf.package).append (ClassNode.declares_render hf.root 0))
  rw [← toList_render, Nat.zero_add, Nat.zero_add, Nat.zero_add, Nat.zero_add] at hall
  refine ⟨package_root_eq_of_render_eq hf hg hcomment, ?_, ?_⟩
  · rw [← List.append_nil f.render.toList, hall.1]
    rfl
  · rw [← List.append_nil f.render.toList, hall.2]
    rfl

/-- A file with a value that reads like the end of its literal and one more declaration. -/
def imitating : SourceFile where
  package := "p"
  root := .mk "R" [("a", .ofText "a" "\";\n\n  public static final String b = \"")]
    [("A", .mk "A" [("c", ⟨"c", .char, "'", .character⟩)] [])]

/-- The file that the value of `imitating` reads like. -/
def imitated : SourceFile where
  package := "p"
  root := .mk "R" [("a", .ofText "a" ""), ("b", .ofText "b" "")]
    [("A", .mk "A" [("c", ⟨"c", .char, "'", .character⟩)] [])]

theorem render_imitating_ne : imitating.Legible ∧ imitated.Legible ∧
    imitating.render ≠ imitated.render ∧ declarationCount imitating.render.toList = 2 ∧
    headerCount imitating.render.toList = 2 := by
  have hnested : ∀ c, (ClassNode.mk "A" [("c", ⟨"c", .char, "'", .character⟩)] []).Holds c →
      c.Legible :=
    ClassNode.forall_holds_legible (by decide)
      (List.forall_mem_singleton.mpr ⟨rfl, .character (c := '\'') (by decide)⟩)
      (List.forall_mem_nil _)
  have himitating : imitating.Legible := by
    refine ⟨.inr (by decide), ClassNode.forall_holds_legible (by decide) ?_ ?_⟩
    · exact List.forall_mem_singleton.mpr ⟨rfl, .text (by decide)⟩
    · exact List.forall_mem_singleton.mpr ⟨rfl, hnested⟩
  have himitated : imitated.Legible := by
    refine ⟨.inr (by decide), ClassNode.forall_holds_legible (by decide) ?_ ?_⟩
    · refine List.forall_mem_cons.mpr ⟨⟨rfl, .text (by decide)⟩, ?_⟩
      exact List.forall_mem_singleton.mpr ⟨rfl, .text (by decide)⟩
    · exact List.forall_mem_singleton.mpr ⟨rfl, hnested⟩
  obtain ⟨hinj, hcounts⟩ := render_faithful himitating himitated rfl
  refine ⟨himitating, himitated, fun h ↦ ?_, hcounts⟩
  have hlength := congrArg (·.fieldMap.length) (hinj h).2
  exact absurd hlength (by decide)

end SourceFile

end JavaConstants
