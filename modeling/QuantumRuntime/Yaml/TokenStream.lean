import QuantumRuntime.Yaml.BlockText
import QuantumRuntime.Yaml.Layout
import QuantumRuntime.Yaml.PlainText
import QuantumRuntime.Yaml.QuotedText

/-
  This file defines the tokens of a text, one after the other:
  directives and markers, brackets, the marks of entries, names
  and tags, and scalars.

  Key definitions include:
    * `Yaml.Tokenizer.directive`
    * `Yaml.Tokenizer.valueMark`
    * `Yaml.Tokenizer.plainScalar`
    * `Yaml.Tokenizer.token`
    * `Yaml.Token.ofText?`
-/

namespace QuantumRuntime

namespace Yaml

namespace Tokenizer

------------------------------------------------------------
-- Directives and markers
------------------------------------------------------------

/- The digits of a version number: one at least and nine at most. -/
def versionNumber : Tokenizer Nat := do
  let c ← here
  let digits := c.run fun x => x.isDigit
  guard (digits.length ≤ 9)
  let number ← numberOfDigits? 10 digits
  goTo (c.skip digits.length)
  pure number

/- The version that a directive tells. -/
def versionDirective : Tokenizer Token := do
  let major ← versionNumber
  let c ← here
  guard (c.rest.head? = some '.')
  goTo (c.skip 1)
  let minor ← versionNumber
  pure (.version major minor)

/- What the handle of a directive stands for. -/
def handleDirective : Tokenizer Token := do
  let c ← here
  guard (c.rest.head? = some '!')
  let (name, d) ← tagHandle? c
  guard (d.rest.head?.any fun x => decide (IsSpace x))
  let e := d.skipRun IsSpace
  let (bytes, f) ← tagBytes? true e
  guard (e.index < f.index ∧ AtBlank f.rest)
  goTo f
  pure (.handle name bytes)

/- A directive, which takes a line of its own up to a comment. -/
def directive : Tokenizer Unit := do
  closeBlocks 0
  dropKey
  allowKeys false
  let c := (← here).skip 1
  let name := c.run IsNameChar
  let d := c.skip name.length
  guard (AtBlank d.rest)
  goTo (d.skipRun IsSpace)
  let token ←
    match String.ofList name with
    | "YAML" => versionDirective
    | "TAG" => handleDirective
    | _ => failure
  let e := ((← here).skipRun IsSpace).skipComment
  guard (AtLineEnd e.rest)
  goTo e.nextLine
  emit token

/- A marker of the start or the end of a document. -/
def marker
    (token : Token) : Tokenizer Unit := do
  closeBlocks 0
  dropKey
  allowKeys false
  goTo ((← here).skip 3)
  emit token

------------------------------------------------------------
-- Brackets and marks
------------------------------------------------------------

/- A mark of one character. -/
def mark
    (token : Token) : Tokenizer Unit := do
  goTo ((← here).skip 1)
  emit token

/- An opening bracket, which may itself begin a key. -/
def openBracket
    (token : Token) : Tokenizer Unit := do
  markKey
  enterFlow
  allowKeys true
  mark token

/- A closing bracket. -/
def closeBracket
    (token : Token) : Tokenizer Unit := do
  dropKey
  leaveFlow
  allowKeys false
  mark token

/- The comma between two entries in brackets. -/
def comma : Tokenizer Unit := do
  dropKey
  allowKeys true
  mark .comma

/- The dash before an entry of a list. -/
def dash : Tokenizer Unit := do
  beginEntry .blockSequence
  dropKey
  allowKeys true
  mark .dash

/- The question mark before a key. -/
def keyMark : Tokenizer Unit := do
  beginEntry .blockMapping
  dropKey
  allowKeys (!(← get).inFlow)
  mark .key

/-
  The colon before a value. If a key may have begun before it,
  that key gets its mark now, and it may be the first one of a
  block.
-/
def valueMark : Tokenizer Unit := do
  let l ← get
  match l.candidate with
  | some k => do
      set { l.insert k.place .key with candidate := none }
      openBlock k.column k.place .blockMapping
      allowKeys false
  | none => do
      beginEntry .blockMapping
      allowKeys (!l.inFlow)
  mark .value

------------------------------------------------------------
-- Names and tags
------------------------------------------------------------

/-
  The name after the sign of an anchor or a reference. It ends at
  a blank or a mark.
-/
def nameAfterSign : Tokenizer String := do
  let c := (← here).skip 1
  let name := c.run IsNameChar
  let d := c.skip name.length
  guard (name ≠ [] ∧
    (AtBlank d.rest ∨
      (d.rest.head?.any fun x =>
        x ∈ ['?', ':', ',', ']', '\x7d', '%', '@', '\u0060'])))
  goTo d
  pure (String.ofList name)

/- An anchor. -/
def anchor : Tokenizer Unit := do
  markKey
  allowKeys false
  emit (.anchor (← nameAfterSign))

/- A reference to a value with an anchor. -/
def reference : Tokenizer Unit := do
  markKey
  allowKeys false
  emit (.reference (← nameAfterSign))

/- A tag. It ends at a blank, or in brackets at a comma. -/
def tag : Tokenizer Unit := do
  markKey
  allowKeys false
  let l ← get
  let (written, d) ← WrittenTag.read? l.cursor
  guard
    (AtBlank d.rest ∨ (l.inFlow = true ∧ d.rest.head? = some ','))
  goTo d
  emit (.tag written)

------------------------------------------------------------
-- Scalars
------------------------------------------------------------

/- Add a scalar that ends at a place. -/
def emitScalar
    (style : Style)
    (text : List Char)
    (after : Cursor) : Tokenizer Unit := do
  goTo after
  emit (.scalar style (String.ofList text))

/- A block scalar, after which keys may begin. -/
def blockScalar
    (fold : Bool) : Tokenizer Unit := do
  dropKey
  allowKeys true
  let l ← get
  guard (l.inFlow = false)
  let (text, d) ← blockText? fold l.margin l.cursor
  emitScalar (if fold then .folded else .literal) text d

/- A quoted scalar. -/
def quotedScalar
    (quote : Quote) : Tokenizer Unit := do
  markKey
  allowKeys false
  let (text, d) ← quotedText? quote (← here)
  emitScalar .quoted text d

/- A plain scalar. If it takes a line end, keys may begin. -/
def plainScalar : Tokenizer Unit := do
  markKey
  let l ← get
  let (plain, d) ← PlainText.read? l.inFlow l.margin l.cursor
  allowKeys plain.endsLine
  emitScalar .plain plain.text d

------------------------------------------------------------
-- All tokens
------------------------------------------------------------

/- The token that begins with a character. -/
def tokenFrom
    (inFlow : Bool)
    (c : Char)
    (rest : List Char) : Tokenizer Unit :=
  match c with
  | '[' => openBracket .leftBracket
  | '\x7b' => openBracket .leftBrace
  | ']' => closeBracket .rightBracket
  | '\x7d' => closeBracket .rightBrace
  | ',' => comma
  | '&' => anchor
  | '*' => reference
  | '!' => tag
  | '\'' => quotedScalar .single
  | '"' => quotedScalar .double
  | '|' => blockScalar false
  | '>' => blockScalar true
  | '-' => if AtBlank rest then dash else plainScalar
  | '?' =>
      if inFlow = true ∨ AtBlank rest then keyMark else plainScalar
  | ':' =>
      if inFlow = true ∨ AtBlank rest then valueMark else plainScalar
  | _ =>
      if IsSpace c ∨ c ∈ ['%', '@', '\u0060'] then
        failure
      else
        plainScalar

/- The token here, where the text does not end. -/
def token : Tokenizer Unit := do
  let l ← get
  match l.cursor.rest with
  | [] => failure
  | c :: rest =>
      if l.cursor.OnMarker then
        marker (if c = '-' then .documentStart else .documentEnd)
      else if l.cursor.column = 0 ∧ c = '%' then
        directive
      else
        tokenFrom l.inFlow c rest

/- Go on to the next token. Blocks that it is left of are closed. -/
def toNextToken : Tokenizer Unit := do
  let l ← get
  let (c, keys) := l.cursor.skipGap l.inFlow l.keys
  goTo c
  allowKeys keys
  expireKeys
  closeBlocks (c.column + 1)

/- All tokens from here on. -/
def tokens : Nat → Tokenizer Unit
  | 0 => failure
  | fuel + 1 => do
      toNextToken
      if (← here).rest = [] then
        closeBlocks 0
        dropKey
      else
        token
        tokens fuel

end Tokenizer

namespace Token

/- The tokens of a text in their order. -/
def ofText?
    (text : String) : Option (List Token) := do
  let characters := text.toList
  if characters.all fun c => decide (IsAllowed c) then do
    let ((), l) ←
      Tokenizer.tokens (characters.length + 1) (Layout.start characters)
    some l.tokens.reverse
  else
    none

end Token

end Yaml

end QuantumRuntime
