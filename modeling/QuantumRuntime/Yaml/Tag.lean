import QuantumRuntime.Yaml.Cursor

/-
  This file defines tags, which are sequences of bytes, and how
  they are written: a handle with a suffix, or a full tag in
  angle brackets, where a percent sign begins a coded byte.

  Key definitions include:
    * `Yaml.Tag`
    * `Yaml.Tag.core`
    * `Yaml.Tag.word?`
    * `Yaml.codedCharacter?`
    * `Yaml.tagBytes?`
    * `Yaml.tagHandle?`
    * `Yaml.WrittenTag`
    * `Yaml.WrittenTag.read?`
-/

namespace QuantumRuntime

namespace Yaml

------------------------------------------------------------
-- Tags
------------------------------------------------------------

/- What a document says about the kind of a value. -/
structure Tag where
  bytes : List UInt8
deriving DecidableEq, Repr

namespace Tag

/- The tag that a text stands for. -/
def ofText
    (text : String) : Tag :=
  { bytes := text.toUTF8.data.toList }

/- What the tags of the core kinds begin with. -/
def coreStart : Tag :=
  ofText "tag:yaml.org,2002:"

/- The tag of a core kind. -/
def core
    (kind : String) : Tag :=
  { bytes := coreStart.bytes ++ (ofText kind).bytes }

/-
  The word of a local tag: what follows its sign, or the sign
  itself if nothing follows. The word must be a text.
-/
def word?
    (tag : Tag) : Option String :=
  match tag.bytes with
  | [] => none
  | sign :: word =>
      if sign ≠ '!'.toUInt8 then
        none
      else if word = [] then
        some "!"
      else
        String.fromUTF8? (ByteArray.mk word.toArray)

end Tag

------------------------------------------------------------
-- Coded bytes
------------------------------------------------------------

/- The byte that a percent sign and two digits stand for. -/
def codedByte? : List Char → Option UInt8
  | '%' :: c :: d :: _ =>
      (numberOfDigits? 16 [c, d]).map Nat.toUInt8
  | _ => none

/- The number of bytes of a character that begins with a byte. -/
def widthOfByte?
    (byte : UInt8) : Option Nat :=
  if byte < 0x80 then some 1
  else if byte < 0xC0 then none
  else if byte < 0xE0 then some 2
  else if byte < 0xF0 then some 3
  else if byte < 0xF8 then some 4
  else none

/- A number of further coded bytes of a character. -/
def furtherBytes? : Nat → Cursor → Option (List UInt8 × Cursor)
  | 0, c => some ([], c)
  | count + 1, c => do
      let byte ← codedByte? c.rest
      if 0x80 ≤ byte ∧ byte < 0xC0 then do
        let (bytes, d) ← furtherBytes? count (c.skip 3)
        some (byte :: bytes, d)
      else
        none

/- The coded bytes of the character that comes next. -/
def codedCharacter?
    (c : Cursor) : Option (List UInt8 × Cursor) := do
  let byte ← codedByte? c.rest
  let width ← widthOfByte? byte
  let (bytes, d) ← furtherBytes? (width - 1) (c.skip 3)
  some (byte :: bytes, d)

------------------------------------------------------------
-- Written tags
------------------------------------------------------------

/-
  The characters of a tag that stand for themselves. Some can
  stand only in a full tag.
-/
def IsTagChar
    (full : Bool)
    (c : Char) : Prop :=
  IsNameChar c ∨
    c ∈ [';', '/', '?', ':', '@', '&', '=', '+', '$', '.', '!', '~', '*',
      '\'', '(', ')'] ∨
    (full = true ∧ c ∈ [',', '[', ']'])

instance
    (full : Bool)
    (c : Char) :
    Decidable (IsTagChar full c) := by
  unfold IsTagChar
  infer_instance

/- The bytes that come next in a tag, and the place after them. -/
def tagBytesFrom?
    (full : Bool) :
    Nat → Cursor → Option (List UInt8 × Cursor)
  | 0, _ => none
  | fuel + 1, c =>
      match c.rest with
      | [] => some ([], c)
      | x :: _ =>
          if x = '%' then do
            let (bytes, d) ← codedCharacter? c
            let (more, e) ← tagBytesFrom? full fuel d
            some (bytes ++ more, e)
          else if IsTagChar full x then do
            let (more, d) ← tagBytesFrom? full fuel (c.skip 1)
            some (x.toUInt8 :: more, d)
          else
            some ([], c)

/-
  The bytes that come next in a tag up to a zero byte, and the
  place after all of them.
-/
def tagBytes?
    (full : Bool)
    (c : Cursor) : Option (List UInt8 × Cursor) := do
  let (bytes, d) ← tagBytesFrom? full (c.rest.length + 1) c
  some (bytes.takeWhile (· ≠ 0), d)

/-
  The handle that begins here, and the place after it: a sign
  alone, or two signs with a name between them that may be
  empty. A sign with a name is no handle.
-/
def tagHandle?
    (c : Cursor) : Option (String × Cursor) :=
  let name := (c.skip 1).run IsNameChar
  let d := c.skip (name.length + 1)
  if d.rest.head? = some '!' then
    some ("!" ++ String.ofList name ++ "!", d.skip 1)
  else if name = [] then
    some ("!", d)
  else
    none

/-
  A tag as it is written: its handle, if it has one, and the
  bytes after it.
-/
structure WrittenTag where
  handle : Option String
  suffix : List UInt8
deriving DecidableEq, Repr

namespace WrittenTag

/- A full tag, which stands in angle brackets. -/
def readFull?
    (c : Cursor) : Option (WrittenTag × Cursor) := do
  let (bytes, d) ← tagBytes? true (c.skip 2)
  if d.index = c.index + 2 ∨ d.rest.head? ≠ some '>' then
    none
  else
    some ({ handle := none, suffix := bytes }, d.skip 1)

/- A tag with a handle of its own. -/
def readHandled?
    (handle : String)
    (c : Cursor) : Option (WrittenTag × Cursor) := do
  let (bytes, d) ← tagBytes? false c
  if d.index = c.index then
    none
  else
    some ({ handle := some handle, suffix := bytes }, d)

/- A tag whose handle is a sign. The sign alone is a full tag. -/
def readLocal?
    (c : Cursor) : Option (WrittenTag × Cursor) := do
  let (bytes, d) ← tagBytes? false (c.skip 1)
  if bytes = [] then
    some ({ handle := none, suffix := (Tag.ofText "!").bytes }, d)
  else
    some ({ handle := some "!", suffix := bytes }, d)

/- The tag that begins here, and the place after it. -/
def read?
    (c : Cursor) : Option (WrittenTag × Cursor) :=
  if c.rest.tail.head? = some '<' then
    readFull? c
  else
    match tagHandle? c with
    | some (handle, d) =>
        if handle = "!" then readLocal? c else readHandled? handle d
    | none => readLocal? c

end WrittenTag

end Yaml

end QuantumRuntime
