import Handbook.Text.Printable

/-!
# Quoted text

A quoted text stands between single quotation marks, or between double ones when
it holds a single mark and no double one. The mark in use, the backslash and the
characters that are not printable are escaped, so the quoted form is one line of
printable characters.
-/

namespace Handbook.Text

/-- The mark that a text is quoted with. -/
def quotationMark (text : Text) : Char :=
  if text.contains '\x27' && !text.contains '"' then '"' else '\x27'

/-- The escape of a character by its code point, in the shortest of three widths. -/
def codeEscape (code : Nat) : Text :=
  if code < 0x100 then '\\' :: 'x' :: hexDigits 2 code
  else if code < 0x10000 then '\\' :: 'u' :: hexDigits 4 code
  else '\\' :: 'U' :: hexDigits 8 code

/-- One character as it stands inside a quoted text. -/
def escapedCharacter (mark character : Char) : Text :=
  if character = mark || character = '\\' then ['\\', character]
  else if character = '\n' then ['\\', 'n']
  else if character = '\r' then ['\\', 'r']
  else if character = '\t' then ['\\', 't']
  else if isPrintable character then [character]
  else codeEscape character.toNat

/-- A text in quotation marks, on one line. -/
def quoted (text : Text) : Text :=
  let mark := quotationMark text
  mark :: text.flatMap (escapedCharacter mark) ++ [mark]

/-- A byte as it stands inside a quoted byte string. -/
def escapedByte (mark : Char) (byte : UInt8) : Text :=
  let character := Char.ofNat byte.toNat
  if byte.toNat < 0x7F then escapedCharacter mark character
  else codeEscape byte.toNat

/-- Bytes in quotation marks, with the letter that tells them from a text. -/
def quotedBytes (bytes : List UInt8) : Text :=
  let mark := quotationMark (bytes.map fun byte => Char.ofNat byte.toNat)
  'b' :: mark :: bytes.flatMap (escapedByte mark) ++ [mark]

/-- Bytes of a buffer in quotation marks: the single mark is escaped even between double ones. -/
def quotedBuffer (bytes : List UInt8) : Text :=
  let mark := quotationMark (bytes.map fun byte => Char.ofNat byte.toNat)
  'b' :: mark :: bytes.flatMap (escapedByte '\x27') ++ [mark]

/-- One character of a text in the double-quoted form of data exchange, ASCII only. -/
def exchangedCharacter (character : Char) : Text :=
  let code := character.toNat
  if character = '"' || character = '\\' then ['\\', character]
  else if character = '\n' then ['\\', 'n']
  else if character = '\r' then ['\\', 'r']
  else if character = '\t' then ['\\', 't']
  else if code = 0x08 then ['\\', 'b']
  else if code = 0x0C then ['\\', 'f']
  else if 0x20 ≤ code && code < 0x7F then [character]
  else if code < 0x10000 then '\\' :: 'u' :: hexDigits 4 code
  else
    let offset := code - 0x10000
    '\\' :: 'u' :: hexDigits 4 (0xD800 + offset / 0x400) ++
      '\\' :: 'u' :: hexDigits 4 (0xDC00 + offset % 0x400)

/-- A text in double quotation marks for data exchange; beyond ASCII by its UTF-16 units. -/
def exchanged (text : Text) : Text :=
  '"' :: text.flatMap exchangedCharacter ++ ['"']

end Handbook.Text
