import ByteMachine.Byte

/-!
# Reading UTF-8

A character takes one to four bytes.  The first byte says how many more there are and which values
the next one may have, so that no character has two forms and neither a surrogate nor a number
above the last code point is written.  Reading stops at the first byte that fits in nowhere; the
fault names the bytes of the character read so far.
-/

namespace ByteMachine
namespace Text

/-- What is wrong with a sequence of bytes. -/
inductive EncodingFlaw
  /-- A byte that starts no character. -/
  | invalidStart
  /-- A character is broken off by a byte that cannot follow. -/
  | invalidContinuation
  /-- The text ends inside a character. -/
  | unexpectedEnd
  deriving DecidableEq, Repr

/-- A place at which a sequence of bytes is no text. -/
structure EncodingFault where
  /-- Position of the first byte of the broken character. -/
  position : Nat
  /-- The bytes of that character that were read. -/
  bytes : List Byte
  /-- What is wrong with them. -/
  flaw : EncodingFlaw
  deriving DecidableEq, Repr

/-- A character of which some bytes were read. -/
structure PartialChar where
  /-- The bytes read. -/
  bytes : List Byte
  /-- Number of bytes that still have to follow. -/
  owed : Nat
  /-- Least value of the next byte. -/
  least : Nat
  /-- Greatest value of the next byte. -/
  greatest : Nat
  /-- The bits of the code point read so far. -/
  bits : Nat

/-- The state after the first byte of a character of several bytes. -/
def PartialChar.start? (byte : Byte) : Option PartialChar :=
  let n := byte.toNat
  if n < 0xC2 then none
  else if n < 0xE0 then some ⟨[byte], 1, 0x80, 0xBF, n - 0xC0⟩
  else if n < 0xF0 then
    some ⟨[byte], 2, if n = 0xE0 then 0xA0 else 0x80, if n = 0xED then 0x9F else 0xBF, n - 0xE0⟩
  else if n < 0xF5 then
    some ⟨[byte], 3, if n = 0xF0 then 0x90 else 0x80, if n = 0xF4 then 0x8F else 0xBF, n - 0xF0⟩
  else none

/-- Reading continued at a position, inside a character if one is given. -/
def decodeFrom (position : Nat) : Option PartialChar → List Byte → Except EncodingFault Text
  | none, [] => .ok []
  | some char, [] => .error ⟨position - char.bytes.length, char.bytes, .unexpectedEnd⟩
  | none, byte :: rest =>
      if byte.toNat < 0x80 then
        (decodeFrom (position + 1) none rest).map (Char.ofNat byte.toNat :: ·)
      else
        match PartialChar.start? byte with
        | none => .error ⟨position, [byte], .invalidStart⟩
        | some char => decodeFrom (position + 1) (some char) rest
  | some char, byte :: rest =>
      if char.least ≤ byte.toNat && byte.toNat ≤ char.greatest then
        let bits := char.bits * 0x40 + (byte.toNat - 0x80)
        if char.owed ≤ 1 then (decodeFrom (position + 1) none rest).map (Char.ofNat bits :: ·)
        else
          decodeFrom (position + 1)
            (some ⟨char.bytes ++ [byte], char.owed - 1, 0x80, 0xBF, bits⟩) rest
      else .error ⟨position - char.bytes.length, char.bytes, .invalidContinuation⟩

/-- The text that a sequence of bytes encodes. -/
def decodeUtf8 (bytes : List Byte) : Except EncodingFault Text :=
  decodeFrom 0 none bytes

/-- The bytes that encode a text. -/
def encodeUtf8 (text : Text) : List Byte :=
  (String.ofList text).toUTF8.toList.map UInt8.toBitVec

/-- The words for a flaw. -/
def EncodingFlaw.reason : EncodingFlaw → Text
  | .invalidStart => "invalid start byte".toList
  | .invalidContinuation => "invalid continuation byte".toList
  | .unexpectedEnd => "unexpected end of data".toList

/-- The message for a fault: a single byte is named by its value, several by their positions. -/
def EncodingFault.message (fault : EncodingFault) : Text :=
  "'utf-8' codec can't decode ".toList ++
    (match fault.bytes with
    | [byte] =>
        "byte 0x".toList ++ (hexNat 2 byte.toNat).map Char.toLower ++ " in position ".toList ++
          decimalNat fault.position
    | bytes =>
        "bytes in position ".toList ++ decimalNat fault.position ++ "-".toList ++
          decimalNat (fault.position + bytes.length - 1)) ++
    ": ".toList ++ fault.flaw.reason

end Text
end ByteMachine
