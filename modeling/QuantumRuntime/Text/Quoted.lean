import QuantumRuntime.Text.Printable

/-
  This file defines quoted text, in which every character that
  cannot be printed as it stands is replaced by an escape.

  Key definitions include:
    * `Quoted.escape`
    * `quoted`
-/

namespace QuantumRuntime

namespace Quoted

/- The digits of a code point in lower-case hexadecimal. -/
def hexDigits
    (c : Char) : List Char :=
  Nat.toDigits 16 c.toNat

/- The characters that stand for one character in quoted text. -/
def escape
    (c : Char) : List Char :=
  if c = '"' then ['\\', '"']
  else if c = '\\' then ['\\', '\\']
  else if c = '\n' then ['\\', 'n']
  else if c = '\r' then ['\\', 'r']
  else if c = '\t' then ['\\', 't']
  else if c = '\x00' then ['\\', '0']
  else if IsUnprintable c then
    ['\\', 'u', '\x7b'] ++ hexDigits c ++ ['\x7d']
  else [c]

end Quoted

/- A text between quotes, with escapes. -/
def quoted
    (s : String) : String :=
  String.ofList ('"' :: s.toList.flatMap Quoted.escape ++ ['"'])

end QuantumRuntime
