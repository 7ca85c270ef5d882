/-! Texts as bytes, and bytes as they are shown.

A text is handed to the system as its UTF-8 bytes. Bytes that come from there need not be a
text: where a character was begun and goes on with none of the bytes that it may go on with,
and where a byte begins no character, a replacement character is shown. -/
namespace BuildConductor.Text

/-- The bytes of a text. -/
def utf8Bytes (cs : List Char) : List UInt8 :=
  cs.flatMap String.utf8EncodeChar

theorem utf8Bytes_append (cs more : List Char) :
    utf8Bytes (cs ++ more) = utf8Bytes cs ++ utf8Bytes more :=
  List.flatMap_append

/-- What is shown where bytes are no character. -/
def replacement : Char := '\uFFFD'

/-- A character of which some bytes are still to come. -/
structure Begun where
  missing : Nat
  /-- The bits of the bytes that are there. -/
  code : Nat
  /-- The least and the greatest byte that may come next. -/
  low : Nat
  high : Nat
deriving DecidableEq, Repr

/-- What a byte shows by itself, and the character that it begins, if it does. -/
def firstByte (b : UInt8) : List Char × Option Begun :=
  let n := b.toNat
  if n < 0x80 then ([Char.ofNat n], none)
  else if n < 0xC2 then ([replacement], none)
  else if n < 0xE0 then ([], some ⟨1, n - 0xC0, 0x80, 0xBF⟩)
  else if n < 0xF0 then
    ([], some ⟨2, n - 0xE0, if n = 0xE0 then 0xA0 else 0x80, if n = 0xED then 0x9F else 0xBF⟩)
  else if n < 0xF5 then
    ([], some ⟨3, n - 0xF0, if n = 0xF0 then 0x90 else 0x80, if n = 0xF4 then 0x8F else 0xBF⟩)
  else ([replacement], none)

/-- What is shown when a byte comes next, and the character that is begun then. -/
def nextByte (begun : Option Begun) (b : UInt8) : List Char × Option Begun :=
  match begun with
  | none => firstByte b
  | some char =>
    if char.low ≤ b.toNat ∧ b.toNat ≤ char.high then
      let code := char.code * 0x40 + (b.toNat - 0x80)
      if char.missing = 1 then ([Char.ofNat code], none)
      else ([], some ⟨char.missing - 1, code, 0x80, 0xBF⟩)
    else
      (replacement :: (firstByte b).1, (firstByte b).2)

/-- What is shown of bytes behind a character that was begun, if one was. -/
def shownFrom (begun : Option Begun) : List UInt8 → List Char
  | [] => if begun.isSome then [replacement] else []
  | b :: rest => (nextByte begun b).1 ++ shownFrom (nextByte begun b).2 rest

/-- What is shown of bytes. -/
def shownBytes (bytes : List UInt8) : List Char :=
  shownFrom none bytes

end BuildConductor.Text
