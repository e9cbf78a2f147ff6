import Payload.Text.Printable

/-!
# Quoted text

Diagnostic output shows a message between quotation marks and a byte string between quotation marks
after a `b`.  Both use a backslash for the characters that would end or break the line; they differ
in how they write the rest.
-/

namespace Payload.Text

/-- A number in lower-case hexadecimal digits, at least `width` of them. -/
def hexadecimal (number width : Nat) : String :=
  let digits := Nat.toDigits 16 number
  String.ofList (List.replicate (width - digits.length) '0' ++ digits)

/-- The short escape of a character, for the characters that have one in both kinds of quotation. -/
def shortEscape? : Char → Option String
  | '\n' => some "\\n"
  | '\r' => some "\\r"
  | '\t' => some "\\t"
  | '\\' => some "\\\\"
  | '"' => some "\\\""
  | '\x00' => some "\\0"
  | _ => none

/-- A character of a quoted message: what cannot be shown is written by its code point. -/
def quotedChar (character : Char) : String :=
  match shortEscape? character with
  | some escape => escape
  | none =>
    if isPrintable character then
      character.toString
    else
      "\\u\x7b" ++ hexadecimal character.toNat 1 ++ "\x7d"

/-- A message between quotation marks. -/
def quoted (message : String) : String :=
  message.foldl (fun text character => text ++ quotedChar character) "\"" ++ "\""

/-- A byte of a quoted byte string: what is not printable in ASCII is written in two hexadecimal
digits. -/
def quotedByte (byte : UInt8) : String :=
  match shortEscape? (Char.ofNat byte.toNat) with
  | some escape => escape
  | none =>
    if 0x20 ≤ byte.toNat && byte.toNat < 0x7f then
      (Char.ofNat byte.toNat).toString
    else
      "\\x" ++ hexadecimal byte.toNat 2

/-- Bytes between quotation marks, after a `b`. -/
def quotedBytes (bytes : ByteArray) : String :=
  bytes.foldl (fun text byte => text ++ quotedByte byte) "b\"" ++ "\""

end Payload.Text
