/-
  This file defines the kinds of characters that a document is
  made of, and the numbers that digits stand for.

  Key definitions include:
    * `Yaml.IsAllowed`
    * `Yaml.IsLineEnd`
    * `Yaml.IsSpace`
    * `Yaml.IsFlowMark`
    * `Yaml.IsNameChar`
    * `Yaml.AtBlank`
    * `Yaml.AtMarker`
    * `Yaml.numberOfDigits?`
-/

namespace QuantumRuntime

namespace Yaml

------------------------------------------------------------
-- Characters
------------------------------------------------------------

/- The characters that a document may hold. -/
def IsAllowed
    (c : Char) : Prop :=
  let n := c.toNat
  n = 0x9 ∨ n = 0xA ∨ n = 0xD ∨ n = 0x85 ∨
    (0x20 ≤ n ∧ n ≤ 0x7E) ∨
    (0xA0 ≤ n ∧ n ≤ 0xD7FF) ∨
    (0xE000 ≤ n ∧ n ≤ 0xFFFD) ∨
    0x10000 ≤ n

instance
    (c : Char) :
    Decidable (IsAllowed c) := by
  unfold IsAllowed
  infer_instance

/- The mark of the byte order, which may begin a line. -/
def byteOrderMark : Char :=
  '\ufeff'

/- The separators of lines and of paragraphs. -/
def IsSeparator
    (c : Char) : Prop :=
  c = '\u2028' ∨ c = '\u2029'

instance
    (c : Char) :
    Decidable (IsSeparator c) := by
  unfold IsSeparator
  infer_instance

/- A character that ends a line. -/
def IsLineEnd
    (c : Char) : Prop :=
  c = '\n' ∨ c = '\r' ∨ c = '\u0085' ∨ IsSeparator c

instance
    (c : Char) :
    Decidable (IsLineEnd c) := by
  unfold IsLineEnd
  infer_instance

/-
  What a line end stands for in the text of a scalar: itself if
  it is a separator, or else a line feed.
-/
def lineEndText
    (c : Char) : Char :=
  if IsSeparator c then c else '\n'

/- A blank within a line. -/
def IsSpace
    (c : Char) : Prop :=
  c = ' ' ∨ c = '\t'

instance
    (c : Char) :
    Decidable (IsSpace c) := by
  unfold IsSpace
  infer_instance

/- The characters with a meaning inside brackets. -/
def IsFlowMark
    (c : Char) : Prop :=
  c = ',' ∨ c = '[' ∨ c = ']' ∨ c = '\x7b' ∨ c = '\x7d'

instance
    (c : Char) :
    Decidable (IsFlowMark c) := by
  unfold IsFlowMark
  infer_instance

/- The characters of the name of a value, a handle or a directive. -/
def IsNameChar
    (c : Char) : Prop :=
  c.isAlphanum ∨ c = '_' ∨ c = '-'

instance
    (c : Char) :
    Decidable (IsNameChar c) := by
  unfold IsNameChar
  infer_instance

------------------------------------------------------------
-- What comes next
------------------------------------------------------------

/- A blank, a line end or the end of the text comes next. -/
def AtBlank : List Char → Prop
  | [] => True
  | c :: _ => IsSpace c ∨ IsLineEnd c

instance
    (rest : List Char) :
    Decidable (AtBlank rest) := by
  cases rest <;> unfold AtBlank <;> infer_instance

/- A line end or the end of the text comes next. -/
def AtLineEnd : List Char → Prop
  | [] => True
  | c :: _ => IsLineEnd c

instance
    (rest : List Char) :
    Decidable (AtLineEnd rest) := by
  cases rest <;> unfold AtLineEnd <;> infer_instance

/- The marker of the start or the end of a document comes next. -/
def AtMarker : List Char → Prop
  | '-' :: '-' :: '-' :: rest => AtBlank rest
  | '.' :: '.' :: '.' :: rest => AtBlank rest
  | _ => False

instance
    (rest : List Char) :
    Decidable (AtMarker rest) := by
  unfold AtMarker
  split <;> infer_instance

------------------------------------------------------------
-- Digits
------------------------------------------------------------

/- The value of a digit in a base of at most sixteen. -/
def digitValue?
    (base : Nat)
    (c : Char) : Option Nat :=
  let value :=
    if c.isDigit then some (c.toNat - '0'.toNat)
    else if 'a' ≤ c ∧ c ≤ 'f' then some (c.toNat - 'a'.toNat + 10)
    else if 'A' ≤ c ∧ c ≤ 'F' then some (c.toNat - 'A'.toNat + 10)
    else none
  value.filter (· < base)

/- The number that digits stand for, if there are any and no others. -/
def numberOfDigits?
    (base : Nat)
    (digits : List Char) : Option Nat :=
  match digits with
  | [] => none
  | _ =>
      digits.foldlM
        (fun n c => do
          let d ← digitValue? base c
          some (base * n + d))
        0

end Yaml

end QuantumRuntime
