/-!
# Lossy UTF-8

Decoding of arbitrary bytes.  Well-formed sequences stand for their characters;
each maximal beginning of a sequence that then breaks off, and each byte that
can begin none, stands for one replacement character.
-/

namespace Turnstile
namespace Text

/-- A run of bytes. -/
abbrev Bytes := List UInt8

namespace Utf8

/-- The character that stands for bytes which are no UTF-8. -/
def replacement : Char := '\uFFFD'

/-- Whether a byte lies in a closed range. -/
def inRange (low high : Nat) (byte : UInt8) : Bool :=
  low ≤ byte.toNat && byte.toNat ≤ high

/-- Whether a byte continues a sequence. -/
def isContinuation (byte : UInt8) : Bool :=
  inRange 0x80 0xBF byte

/-- The payload of a continuation byte, below the bits already read. -/
def extend (bits : Nat) (byte : UInt8) : Nat :=
  bits * 64 + byte.toNat % 64

/-- The bytes that may follow the first byte of a three-byte sequence. -/
def secondOfThree (lead : UInt8) : UInt8 → Bool :=
  if lead.toNat = 0xE0 then inRange 0xA0 0xBF
  else if lead.toNat = 0xED then inRange 0x80 0x9F
  else isContinuation

/-- The bytes that may follow the first byte of a four-byte sequence. -/
def secondOfFour (lead : UInt8) : UInt8 → Bool :=
  if lead.toNat = 0xF0 then inRange 0x90 0xBF
  else if lead.toNat = 0xF4 then inRange 0x80 0x8F
  else isContinuation

/-- The character that a first byte and its followers begin with, and how many
of the followers belong to it. -/
def decodeFirst (lead : UInt8) (followers : Bytes) : Char × Nat :=
  if lead.toNat < 0x80 then (Char.ofNat lead.toNat, 0)
  else if inRange 0xC2 0xDF lead then
    match followers with
    | second :: _ =>
        if isContinuation second then
          (Char.ofNat (extend (lead.toNat % 32) second), 1)
        else (replacement, 0)
    | [] => (replacement, 0)
  else if inRange 0xE0 0xEF lead then
    match followers with
    | second :: rest =>
        if secondOfThree lead second then
          match rest with
          | third :: _ =>
              if isContinuation third then
                (Char.ofNat (extend (extend (lead.toNat % 16) second) third), 2)
              else (replacement, 1)
          | [] => (replacement, 1)
        else (replacement, 0)
    | [] => (replacement, 0)
  else if inRange 0xF0 0xF4 lead then
    match followers with
    | second :: rest =>
        if secondOfFour lead second then
          match rest with
          | third :: more =>
              if isContinuation third then
                match more with
                | fourth :: _ =>
                    if isContinuation fourth then
                      (Char.ofNat (extend
                        (extend (extend (lead.toNat % 8) second) third) fourth), 3)
                    else (replacement, 2)
                | [] => (replacement, 2)
              else (replacement, 1)
          | [] => (replacement, 1)
        else (replacement, 0)
    | [] => (replacement, 0)
  else (replacement, 0)

/-- The first characters that a run of bytes stands for, at most `limit`. -/
def decodeUpTo : (limit : Nat) → Bytes → List Char
  | 0, _ => []
  | _, [] => []
  | limit + 1, lead :: followers =>
      let (char, used) := decodeFirst lead followers
      char :: decodeUpTo limit (followers.drop used)

/-- All characters that a run of bytes stands for; each takes a byte at least. -/
def decode (bytes : Bytes) : List Char :=
  decodeUpTo bytes.length bytes

/-- The UTF-8 bytes of a text. -/
def encode (text : String) : Bytes :=
  text.toUTF8.toList

/-- The bytes of a text made of ASCII characters only. -/
def ofAscii (text : List Char) : Bytes :=
  text.map fun char => UInt8.ofNat char.toNat

end Utf8
end Text
end Turnstile
