/-!
# Reading UTF-8

Bytes are read one at a time by `Decoder.step`. The first byte of a character decides how many
bytes follow it and in which range each lies (`continuations`); ranges narrower than 80 to BF are
what rules out overlong forms, surrogates and numbers above U+10FFFF. Reading stops at the first
byte that no character can hold there, or at the end of the input inside a character, and says
where: the fault starts at the first byte that belongs to no complete character, and extends over
the bytes from there on that do begin some character (`Malformed`).
-/

namespace Lexis.Text.Utf8

/-- A range of bytes, both ends included. -/
structure ByteRange where
  low : UInt8
  high : UInt8
deriving DecidableEq, Repr

/-- The byte lies in the range. -/
def ByteRange.contains (range : ByteRange) (byte : UInt8) : Bool :=
  range.low ≤ byte && byte ≤ range.high

/-- The range of a byte that follows without further condition. -/
def ByteRange.tail : ByteRange := ⟨0x80, 0xBF⟩

/-- The ranges of the bytes that follow a first byte, or nothing where no character starts with
that byte. -/
def continuations (lead : UInt8) : Option (List ByteRange) :=
  if lead < 0x80 then some []
  else if lead < 0xC2 then none
  else if lead < 0xE0 then some [.tail]
  else if lead = 0xE0 then some [⟨0xA0, 0xBF⟩, .tail]
  else if lead = 0xED then some [⟨0x80, 0x9F⟩, .tail]
  else if lead < 0xF0 then some [.tail, .tail]
  else if lead = 0xF0 then some [⟨0x90, 0xBF⟩, .tail, .tail]
  else if lead < 0xF4 then some [.tail, .tail, .tail]
  else if lead = 0xF4 then some [⟨0x80, 0x8F⟩, .tail, .tail]
  else none

/-- The part of a character's number that its first byte holds, where so many bytes follow. -/
def leadBits (lead : UInt8) : Nat → Nat
  | 0 => lead.toNat
  | 1 => lead.toNat % 32
  | 2 => lead.toNat % 16
  | _ => lead.toNat % 8

/-- Why bytes are not text. -/
inductive Reason where
  /-- No character starts with the byte. -/
  | invalidStart
  /-- The byte after the fault cannot stand there. -/
  | invalidContinuation
  /-- The input ends inside a character. -/
  | unexpectedEnd
deriving DecidableEq, Repr

/-- The first fault of bytes that are not text. -/
structure Malformed where
  /-- The number of bytes in front of the fault, which are text. -/
  position : Nat
  /-- The number of bytes that the fault extends over. -/
  length : Nat
  /-- The first byte of the fault. -/
  lead : UInt8
  reason : Reason
deriving DecidableEq, Repr

/-- A character of which some bytes have been read and at least one is due. -/
structure Begun where
  /-- The first byte. -/
  lead : UInt8
  /-- The number of bytes read so far. -/
  length : Nat
  /-- The number that the bytes read so far make up. -/
  number : Nat
  /-- The range of the byte due next. -/
  next : ByteRange
  /-- The ranges of the bytes due after that. -/
  later : List ByteRange
deriving DecidableEq, Repr

/-- What has been read of some bytes. -/
structure Decoder where
  /-- The complete characters, the latest first. -/
  latest : List Char
  /-- The number of bytes of the complete characters. -/
  position : Nat
  /-- The character that has begun, if one has. -/
  begun : Option Begun
deriving DecidableEq, Repr

namespace Decoder

def initial : Decoder := ⟨[], 0, none⟩

/-- A character of so many bytes is complete. -/
def complete (decoder : Decoder) (length number : Nat) : Decoder :=
  ⟨Char.ofNat number :: decoder.latest, decoder.position + length, none⟩

/-- Read the first byte of a character. -/
def start (decoder : Decoder) (byte : UInt8) : Except Malformed Decoder :=
  match continuations byte with
  | none => .error ⟨decoder.position, 1, byte, .invalidStart⟩
  | some [] => .ok (decoder.complete 1 byte.toNat)
  | some (next :: later) =>
    .ok { decoder with begun := some ⟨byte, 1, leadBits byte (later.length + 1), next, later⟩ }

/-- Read a further byte of a character. -/
def proceed (decoder : Decoder) (begun : Begun) (byte : UInt8) : Except Malformed Decoder :=
  if begun.next.contains byte then
    let number := begun.number * 64 + byte.toNat % 64
    match begun.later with
    | [] => .ok (decoder.complete (begun.length + 1) number)
    | next :: later =>
      .ok { decoder with begun := some ⟨begun.lead, begun.length + 1, number, next, later⟩ }
  else
    .error ⟨decoder.position, begun.length, begun.lead, .invalidContinuation⟩

def step (decoder : Decoder) (byte : UInt8) : Except Malformed Decoder :=
  match decoder.begun with
  | none => decoder.start byte
  | some begun => decoder.proceed begun byte

/-- The text read when the input ends. -/
def finish (decoder : Decoder) : Except Malformed (List Char) :=
  match decoder.begun with
  | none => .ok decoder.latest.reverse
  | some begun => .error ⟨decoder.position, begun.length, begun.lead, .unexpectedEnd⟩

end Decoder

/-- The text that bytes hold, or the first fault. -/
def decode (bytes : List UInt8) : Except Malformed (List Char) :=
  bytes.foldlM Decoder.step Decoder.initial >>= Decoder.finish

/-- The bytes of a text. -/
def encode (text : List Char) : List UInt8 := text.flatMap String.utf8EncodeChar

/-- The bytes of a text are those of its parts, one after the other. -/
theorem encode_append (first second : List Char) :
    encode (first ++ second) = encode first ++ encode second := List.flatMap_append

/-- No bytes are the text without characters. -/
theorem decode_nil : decode [] = .ok [] := rfl

/-- The wording of a reason. -/
def Reason.message : Reason → String
  | .invalidStart => "invalid start byte"
  | .invalidContinuation => "invalid continuation byte"
  | .unexpectedEnd => "unexpected end of data"

/-- A byte in two lower-case hexadecimal digits. -/
def hexByte (byte : UInt8) : String :=
  String.ofList [Nat.digitChar (byte.toNat / 16), Nat.digitChar (byte.toNat % 16)]

/-- The bytes of a fault and their place: one byte is shown, of more only the place. -/
def Malformed.place (fault : Malformed) : String :=
  if fault.length ≤ 1 then
    "byte 0x" ++ hexByte fault.lead ++ " in position " ++ toString fault.position
  else
    "bytes in position " ++ toString fault.position ++ "-" ++
      toString (fault.position + fault.length - 1)

/-- The wording of a fault. -/
def Malformed.message (fault : Malformed) : String :=
  "'utf-8' codec can't decode " ++ fault.place ++ ": " ++ fault.reason.message

end Lexis.Text.Utf8
