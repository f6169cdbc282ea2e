import MediaImport.Text.Bytes

/-!
# Reading UTF-8

`scan` reads one character from the front of a byte string, or says how many
bytes are at fault.  The bytes at fault are the longest beginning of a
character that the next byte fails to continue, which is also the unit that a
lossy reader replaces.

`decode` reads a whole byte string and reports where the first fault lies;
`lossy` puts a replacement character in the place of each fault.
-/

namespace MediaImport.Utf8

/-- What a non-ASCII byte announces when it stands at the start of a character:
the number of bytes that follow, its own share of the code point, and the
bounds of the next byte.  The bounds exclude overlong forms, surrogates and
values above U+10FFFF. -/
structure Lead where
  following : Nat
  payload : Nat
  low : UInt8
  high : UInt8
  deriving DecidableEq

/-- The announcement made by a byte, if it can start a character. -/
def lead? (byte : UInt8) : Option Lead :=
  if byte < 0xc2 then none
  else if byte < 0xe0 then some ⟨1, byte.toNat - 0xc0, 0x80, 0xbf⟩
  else if byte = 0xe0 then some ⟨2, 0, 0xa0, 0xbf⟩
  else if byte = 0xed then some ⟨2, 13, 0x80, 0x9f⟩
  else if byte < 0xf0 then some ⟨2, byte.toNat - 0xe0, 0x80, 0xbf⟩
  else if byte = 0xf0 then some ⟨3, 0, 0x90, 0xbf⟩
  else if byte < 0xf4 then some ⟨3, byte.toNat - 0xf0, 0x80, 0xbf⟩
  else if byte = 0xf4 then some ⟨3, 4, 0x80, 0x8f⟩
  else none

/-- A byte that continues a character. -/
def isContinuation (byte : UInt8) : Bool :=
  0x80 ≤ byte && byte ≤ 0xbf

/-- Append the six bits of a continuation byte to a code point. -/
def extend (value : Nat) (byte : UInt8) : Nat :=
  value * 64 + byte.toNat % 64

/-- The outcome of reading at the front of a byte string. -/
inductive Scan where
  /-- A character and what follows it. -/
  | character (character : Char) (rest : Bytes)
  /-- So many bytes begin a character that the following byte does not continue. -/
  | malformed (length : Nat) (rest : Bytes)
  /-- The text ends inside a character. -/
  | truncated

/-- Read the character that starts with `first`. -/
def scan (first : UInt8) (rest : Bytes) : Scan :=
  if first < 0x80 then .character (Char.ofNat first.toNat) rest
  else
    match lead? first with
    | none => .malformed 1 rest
    | some lead =>
      match rest with
      | [] => .truncated
      | second :: rest2 =>
        if second < lead.low || lead.high < second then .malformed 1 rest
        else if lead.following = 1 then
          .character (Char.ofNat (extend lead.payload second)) rest2
        else
          match rest2 with
          | [] => .truncated
          | third :: rest3 =>
            if !isContinuation third then .malformed 2 rest2
            else if lead.following = 2 then
              .character
                (Char.ofNat (extend (extend lead.payload second) third)) rest3
            else
              match rest3 with
              | [] => .truncated
              | fourth :: rest4 =>
                if !isContinuation fourth then .malformed 3 rest3
                else
                  .character
                    (Char.ofNat
                      (extend (extend (extend lead.payload second) third) fourth))
                    rest4

/-- Whatever `scan` leaves is no longer than what followed the first byte. -/
theorem scan_character_length {first : UInt8} {bytes rest : Bytes} {character : Char}
    (read : scan first bytes = .character character rest) :
    rest.length ≤ bytes.length := by
  unfold scan at read
  repeat' split at read
  all_goals
    first
    | (injection read with _ same; subst same; exact Nat.le_refl _)
    | (injection read with _ same; subst same; simp only [List.length_cons]; omega)
    | simp at read

theorem scan_malformed_length {first : UInt8} {bytes rest : Bytes} {length : Nat}
    (read : scan first bytes = .malformed length rest) :
    rest.length ≤ bytes.length := by
  unfold scan at read
  repeat' split at read
  all_goals
    first
    | (injection read with _ same; subst same; exact Nat.le_refl _)
    | (injection read with _ same; subst same; simp only [List.length_cons]; omega)
    | simp at read

/-- Where a byte string stops being UTF-8: the length of its longest
well-formed beginning, and the number of bytes at fault there, or `none` when
the byte string ends inside a character. -/
structure Fault where
  offset : Nat
  length? : Option Nat
  deriving DecidableEq

/-- Read on from a position, given the characters read so far, newest first. -/
def decodeFrom (offset : Nat) (reversed : List Char) (bytes : Bytes) :
    Except Fault (List Char) :=
  match bytes with
  | [] => .ok reversed.reverse
  | first :: rest =>
    match _read : scan first rest with
    | .character character remaining =>
      decodeFrom (offset + (bytes.length - remaining.length))
        (character :: reversed) remaining
    | .malformed length _ => .error ⟨offset, some length⟩
    | .truncated => .error ⟨offset, none⟩
  termination_by bytes.length
  decreasing_by
    have := scan_character_length _read
    simp; omega

/-- The characters that a byte string spells, or where it goes wrong. -/
def decode (bytes : Bytes) : Except Fault (List Char) :=
  decodeFrom 0 [] bytes

/-- The text that a byte string spells, or where it goes wrong. -/
def decodeText (bytes : Bytes) : Except Fault String :=
  (decode bytes).map String.ofList

/-- The character that stands for bytes at fault. -/
def replacement : Char := '\uFFFD'

/-- Read on with replacements, given the characters read so far, newest first. -/
def lossyFrom (reversed : List Char) (bytes : Bytes) : List Char :=
  match bytes with
  | [] => reversed.reverse
  | first :: rest =>
    match _read : scan first rest with
    | .character character remaining => lossyFrom (character :: reversed) remaining
    | .malformed _ remaining => lossyFrom (replacement :: reversed) remaining
    | .truncated => (replacement :: reversed).reverse
  termination_by bytes.length
  decreasing_by
    · have := scan_character_length _read
      simp; omega
    · have := scan_malformed_length _read
      simp; omega

/-- The text that a byte string spells, each fault replaced. -/
def lossy (bytes : Bytes) : String :=
  String.ofList (lossyFrom [] bytes)

end MediaImport.Utf8
