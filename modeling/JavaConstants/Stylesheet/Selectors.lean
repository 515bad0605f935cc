import JavaConstants.Stylesheet.Token
import JavaConstants.Unicode.Blank

/-!
# Selectors of a stylesheet

The first member of every selector of every top-level style rule, in document order. The tokens
are first read into items, a block with everything in it being one; the rules are then read from
the items. Inside a block only its own closing bracket ends it, and the end of the input closes
whatever is open.
-/

namespace JavaConstants

namespace Stylesheet

/-- What is wrong with a stylesheet. -/
inductive ErrorCause where
  | unterminatedString
  | malformedUrl
  /-- A closing bracket or a semicolon where none may stand. -/
  | unexpected (text : String)
  | emptySelector
  | missingBlock
  deriving DecidableEq, Repr

/-- What is wrong with a stylesheet, and the position behind it. -/
structure StyleError where
  /-- What is wrong. -/
  cause : ErrorCause
  /-- The position behind the offending token. -/
  position : Position
  deriving DecidableEq, Repr

/-- The words for what is wrong. -/
def ErrorCause.message : ErrorCause → String
  | unterminatedString => "unterminated string"
  | malformedUrl => "malformed url()"
  | unexpected text => "unexpected '" ++ text ++ "'"
  | emptySelector => "empty selector"
  | missingBlock => "selector without a declaration block"

/-- The report of an error. -/
def StyleError.message (e : StyleError) : String :=
  "line " ++ toString e.position.line ++ ", column " ++ toString e.position.column ++ ": " ++
    e.cause.message

/-! ## Items -/

/-- A part of a stylesheet at its top level. -/
inductive Item where
  /-- A token that opens nothing. -/
  | single (token : Token)
  /-- A block: the token that opens it, its whole text and the position behind it. -/
  | block (opener : Token) (text : List Char) (stop : Position)
  /-- A broken token; nothing is read behind it. -/
  | broken (e : StyleError)
  deriving DecidableEq, Repr

/-- The bracket a token opens. -/
def TokenKind.opens? : TokenKind → Option Bracket
  | opening b => some b
  | function => some .paren
  | _ => none

/-- What makes a token broken. -/
def TokenKind.broken? : TokenKind → Option ErrorCause
  | badString => some .unterminatedString
  | badUrl => some .malformedUrl
  | _ => none

/-- A block that is being read: its opening token, its text so far, last token first, and the
brackets open in it, innermost first. -/
structure OpenBlock where
  /-- The token that opens the block. -/
  opener : Token
  /-- The texts read, last first. -/
  texts : List (List Char)
  /-- The position behind the last token read. -/
  stop : Position
  /-- The innermost open bracket. -/
  innermost : Bracket
  /-- The open brackets around it. -/
  outer : List Bracket

/-- The block item for a block that ends. -/
def OpenBlock.item (b : OpenBlock) : Item := .block b.opener b.texts.reverse.flatten b.stop

/-- The items of some tokens, read inside a block or outside of any. -/
def items : Option OpenBlock → List Token → List Item
  | none, [] => []
  | some b, [] => [b.item]
  | none, t :: ts =>
    match t.kind.broken? with
    | some cause => [.broken ⟨cause, t.stop⟩]
    | none =>
      match t.kind.opens? with
      | some bracket => items (some ⟨t, [t.text], t.stop, bracket, []⟩) ts
      | none => if t.kind = .blank then items none ts else .single t :: items none ts
  | some b, t :: ts =>
    match t.kind.broken? with
    | some cause => [.broken ⟨cause, t.stop⟩]
    | none =>
      let b := { b with texts := t.text :: b.texts, stop := t.stop }
      match t.kind.opens? with
      | some bracket =>
        items (some { b with innermost := bracket, outer := b.innermost :: b.outer }) ts
      | none =>
        if t.kind = .closing b.innermost then
          match b.outer with
          | [] => b.item :: items none ts
          | bracket :: outer => items (some { b with innermost := bracket, outer := outer }) ts
        else items (some b) ts

/-! ## Selectors -/

/-- A part of a selector: a token and the text it stands for. -/
structure SelectorPart where
  /-- The token, or the one that opens the block. -/
  token : Token
  /-- The text of the token or of the whole block, without the white space at its ends. -/
  text : List Char

/-- The name of a part, if it is a name. -/
def SelectorPart.ident? (p : SelectorPart) : Option (List Char) :=
  if p.token.kind = .ident then some p.token.name else none

/-- The name of a part, if it is a name or a function. -/
def SelectorPart.call? (p : SelectorPart) : Option (List Char) :=
  if p.token.kind = .ident ∨ p.token.kind = .function then some p.token.name else none

/-- The first member of a selector: a class, a pseudo class or a pseudo element with its name, or
else the first part as it is spelled. -/
def firstMember? : List SelectorPart → Option (List Char)
  | [] => none
  | first :: rest =>
    some (match first.token.kind, rest with
      | .delim '.', second :: _ =>
        match second.ident? with
        | some name => '.' :: name
        | none => first.text
      | .colon, second :: others =>
        if second.token.kind = .colon then
          ':' :: ':' :: (match others with
            | third :: _ => third.call?.getD []
            | [] => [])
        else match second.call? with
          | some name => ':' :: name
          | none => first.text
      | _, _ => first.text)

/-- Where the reading of the rules stands. -/
inductive RuleState where
  /-- In the selectors of a rule: those completed, last first, and the parts of the one begun, last
  first. -/
  | selectors (completed : List (List SelectorPart)) (begun : List SelectorPart)
  /-- In an at-rule. -/
  | atRule

/-- Between two rules. -/
def RuleState.between : RuleState := .selectors [] []

/-- The members of the selectors of one rule whose block ends at a position. -/
def ruleMembers (stop : Position) (selectors : List (List SelectorPart)) :
    Except StyleError (List (List Char)) :=
  selectors.mapM fun parts ↦
    match firstMember? parts with
    | some member => .ok member
    | none => .error ⟨.emptySelector, stop⟩

/-- The text of a token that may not stand outside of blocks. -/
def TokenKind.unexpected? : TokenKind → Option String
  | closing .brace => some "\x7d"
  | closing .paren => some ")"
  | closing .square => some "]"
  | semicolon => some ";"
  | _ => none

/-- The members of the rules made of some items; `stop` is the end of the stylesheet. -/
def membersOf (stop : Position) : RuleState → List Item → Except StyleError (List (List Char))
  | .selectors [] [], [] => .ok []
  | .selectors _ _, [] => .error ⟨.missingBlock, stop⟩
  | .atRule, [] => .ok []
  | _, .broken e :: _ => .error e
  | .selectors completed begun, .single t :: rest =>
    let between := completed.isEmpty && begun.isEmpty
    if between && t.kind == .documentComment then membersOf stop .between rest
    else if between && t.kind == .atKeyword then membersOf stop .atRule rest
    else match t.kind.unexpected? with
      | some text => .error ⟨.unexpected text, t.stop⟩
      | none =>
        if t.kind = .comma then membersOf stop (.selectors (begun.reverse :: completed) []) rest
        else
          membersOf stop
            (.selectors completed (⟨t, Unicode.trimWhere Unicode.isBlank t.text⟩ :: begun)) rest
  | .selectors completed begun, .block opener text blockStop :: rest =>
    if opener.kind = .opening .brace then do
      let members ← ruleMembers blockStop (begun.reverse :: completed).reverse
      let others ← membersOf stop .between rest
      .ok (members ++ others)
    else
      membersOf stop
        (.selectors completed (⟨opener, Unicode.trimWhere Unicode.isBlank text⟩ :: begun)) rest
  | .atRule, .single t :: rest =>
    if t.kind = .semicolon then membersOf stop .between rest
    else match t.kind.unexpected? with
      | some text => .error ⟨.unexpected text, t.stop⟩
      | none => membersOf stop .atRule rest
  | .atRule, .block opener _ _ :: rest =>
    membersOf stop (if opener.kind = .opening .brace then .between else .atRule) rest

/-- The first members of the selectors of a stylesheet, or what is wrong with it. -/
def selectorMembers (css : String) : Except StyleError (List String) :=
  let cs := css.toList
  (membersOf (Position.start.advance cs) .between (items none (tokenize .start cs))).map
    (·.map String.ofList)

end Stylesheet

end JavaConstants
