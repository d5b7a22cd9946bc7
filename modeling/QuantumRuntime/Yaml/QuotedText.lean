import QuantumRuntime.Yaml.Cursor

/-
  This file defines the texts of scalars in single and double
  quotes, and the escapes in the latter.

  Key definitions include:
    * `Yaml.escape?`
    * `Yaml.Quote`
    * `Yaml.quotedText?`
-/

namespace QuantumRuntime

namespace Yaml

------------------------------------------------------------
-- Escapes
------------------------------------------------------------

/- The character with a code point. -/
def charOf?
    (n : Nat) : Option Char :=
  if n.isValidChar then some (Char.ofNat n) else none

/- The character that a number of hexadecimal digits stand for. -/
def codedChar?
    (digits : Nat)
    (rest : List Char) : Option Char :=
  if digits ≤ rest.length then
    numberOfDigits? 16 (rest.take digits) >>= charOf?
  else
    none

/- The character of an escape after its backslash, and its length. -/
def escape? : List Char → Option (Char × Nat)
  | '0' :: _ => some ('\x00', 1)
  | 'a' :: _ => some ('\x07', 1)
  | 'b' :: _ => some ('\x08', 1)
  | 't' :: _ => some ('\t', 1)
  | '\t' :: _ => some ('\t', 1)
  | 'n' :: _ => some ('\n', 1)
  | 'v' :: _ => some ('\x0b', 1)
  | 'f' :: _ => some ('\x0c', 1)
  | 'r' :: _ => some ('\r', 1)
  | 'e' :: _ => some ('\x1b', 1)
  | ' ' :: _ => some (' ', 1)
  | '"' :: _ => some ('"', 1)
  | '/' :: _ => some ('/', 1)
  | '\\' :: _ => some ('\\', 1)
  | 'N' :: _ => some ('\u0085', 1)
  | '_' :: _ => some ('\u00a0', 1)
  | 'L' :: _ => some ('\u2028', 1)
  | 'P' :: _ => some ('\u2029', 1)
  | 'x' :: rest => (codedChar? 2 rest).map fun c => (c, 3)
  | 'u' :: rest => (codedChar? 4 rest).map fun c => (c, 5)
  | 'U' :: rest => (codedChar? 8 rest).map fun c => (c, 9)
  | _ => none

------------------------------------------------------------
-- Quoted texts
------------------------------------------------------------

/- The quotes that a text may stand in. -/
inductive Quote where
  | single
  | double
deriving DecidableEq, Repr

/- The character that opens and closes a quoted text. -/
def Quote.char : Quote → Char
  | single => '\''
  | double => '"'

/-
  What comes next in a quoted text: its end, or the text that a
  piece stands for, and the place after it.
-/
inductive QuotedPiece where
  | finish
  | text (piece : List Char) (after : Cursor)
deriving DecidableEq, Repr

/-
  The next piece of a quoted text. In single quotes, a quote is
  written twice. In double quotes, a backslash begins an escape,
  and before a line end it leaves out that line end. Gaps are
  folded.
-/
def QuotedPiece.read?
    (quote : Quote)
    (c : Cursor) : Option QuotedPiece :=
  match quote, c.rest with
  | _, [] => none
  | .single, '\'' :: '\'' :: _ => some (.text ['\''] (c.skip 2))
  | .double, '\\' :: rest =>
      if rest ≠ [] ∧ AtLineEnd rest then
        let (gap, after) := (c.skip 1).nextLine.gap
        some (.text gap.lineEnds after)
      else do
        let (escaped, length) ← escape? rest
        some (.text [escaped] (c.skip (length + 1)))
  | quote, x :: rest =>
      if x = quote.char then
        some .finish
      else if AtBlank (x :: rest) then
        let (gap, after) := c.gap
        some (.text gap.text after)
      else
        some (.text [x] (c.skip 1))

/-
  The text up to the closing quote, and the place after it. A
  marker of a document cannot stand in it.
-/
def quotedTextFrom?
    (quote : Quote) :
    Nat → Cursor → Option (List Char × Cursor)
  | 0, _ => none
  | fuel + 1, c =>
      if c.OnMarker then
        none
      else do
        match ← QuotedPiece.read? quote c with
        | .finish => some ([], c.skip 1)
        | .text piece after =>
            let (more, d) ← quotedTextFrom? quote fuel after
            some (piece ++ more, d)

/-
  The text of the quoted scalar that begins here, and the place
  after it.
-/
def quotedText?
    (quote : Quote)
    (c : Cursor) : Option (List Char × Cursor) :=
  quotedTextFrom? quote (c.rest.length + 1) (c.skip 1)

end Yaml

end QuantumRuntime
