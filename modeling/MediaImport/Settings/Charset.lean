import MediaImport.Text.Blank
import MediaImport.Text.Utf8

/-!
# Character sets

Bytes are read as UTF-8 or as ISO 8859-1.  Reading UTF-8 fails at the first
byte that is not part of a character; reading ISO 8859-1 never fails, because
each byte is the character of that number.
-/

namespace MediaImport

/-- A character set that text may be written in. -/
inductive Charset where
  | utf8
  | latin1
  deriving DecidableEq

namespace Charset

/-- The character set that a label names, white space around it and ASCII case
aside. -/
def ofLabel? (label : String) : Option Charset :=
  let name := Text.lowercase (Text.trim label)
  if name = "utf-8" ∨ name = "utf8" then some .utf8
  else if name = "iso-8859-1" ∨ name = "iso8859-1" ∨ name = "latin1" ∨ name = "latin-1" then
    some .latin1
  else none

/-- The character that a byte stands for in ISO 8859-1. -/
def latin1Char (byte : UInt8) : Char :=
  Char.ofNat byte.toNat

/-- The text that bytes spell, or the length of their longest well-formed
beginning. -/
def decode (charset : Charset) (bytes : Bytes) : Except Nat String :=
  match charset with
  | .utf8 => (Utf8.decodeText bytes).mapError (·.offset)
  | .latin1 => .ok (String.ofList (bytes.map latin1Char))

/-- The mark that may open a UTF-8 file. -/
def byteOrderMark : Bytes := [0xef, 0xbb, 0xbf]

/-- Bytes without the mark in front, if there is one. -/
def dropMark : Bytes → Bytes
  | 0xef :: 0xbb :: 0xbf :: rest => rest
  | bytes => bytes

/-- The text of a script file; in UTF-8 one byte order mark is skipped. -/
def decodeFile (charset : Charset) (bytes : Bytes) : Except Nat String :=
  match charset with
  | .utf8 => decode .utf8 (dropMark bytes)
  | .latin1 => decode .latin1 bytes

end Charset

end MediaImport
