/-!
# Decoding UTF-8

A character is one lead byte and up to three more bytes, each from a range that the lead byte
fixes.  Decoding stops at the first byte that does not fit; the error says how many bytes were
valid before, and how many bytes of the broken sequence could have begun a character, or that the
input ended inside a character.
-/

namespace RecordExtraction

/-- Where and how a sequence of bytes stops being UTF-8.  `length` is missing when the input ends
inside a character. -/
structure Utf8Error where
  validLength : Nat
  length : Option Nat
deriving DecidableEq, Repr

def Utf8Error.message (e : Utf8Error) : String :=
  match e.length with
  | some length => s!"invalid utf-8 sequence of {length} bytes from index {e.validLength}"
  | none => s!"incomplete utf-8 byte sequence from index {e.validLength}"

namespace Utf8

/-- A closed range of bytes. -/
structure ByteRange where
  low : UInt8
  high : UInt8

def ByteRange.contains (range : ByteRange) (byte : UInt8) : Bool :=
  range.low ≤ byte && byte ≤ range.high

/-- The bytes that carry six more bits of a character. -/
def continuation : ByteRange := ⟨0x80, 0xbf⟩

/-- The bits that a lead byte carries and the ranges of the bytes that have to follow it.  The first
range excludes encodings that are longer than necessary, surrogates, and code points beyond the
last plane. -/
def lead? (byte : UInt8) : Option (Nat × List ByteRange) :=
  if byte < 0x80 then some (byte.toNat, [])
  else if byte < 0xc2 then none
  else if byte < 0xe0 then some (byte.toNat - 0xc0, [continuation])
  else if byte == 0xe0 then some (0, [⟨0xa0, 0xbf⟩, continuation])
  else if byte == 0xed then some (0xd, [⟨0x80, 0x9f⟩, continuation])
  else if byte < 0xf0 then some (byte.toNat - 0xe0, [continuation, continuation])
  else if byte == 0xf0 then some (0, [⟨0x90, 0xbf⟩, continuation, continuation])
  else if byte < 0xf4 then some (byte.toNat - 0xf0, [continuation, continuation, continuation])
  else if byte == 0xf4 then some (4, [⟨0x80, 0x8f⟩, continuation, continuation])
  else none

/-- The outcome of reading the bytes after a lead byte. -/
inductive Follow where
  | char (code : Nat) (rest : List UInt8)
  | invalid (length : Nat)
  | incomplete

/-- Reads one byte for each range; `length` bytes of the character are read already. -/
def follow (code length : Nat) : List ByteRange → List UInt8 → Follow
  | [], rest => .char code rest
  | _ :: _, [] => .incomplete
  | range :: ranges, byte :: rest =>
      if range.contains byte then
        follow (code * 64 + (byte.toNat - 0x80)) (length + 1) ranges rest
      else .invalid length

theorem length_follow {code length code' : Nat} {ranges : List ByteRange}
    {bytes rest : List UInt8} (h : follow code length ranges bytes = .char code' rest) :
    rest.length ≤ bytes.length := by
  induction ranges generalizing code length bytes with
  | nil =>
    simp only [follow, Follow.char.injEq] at h
    simp [h.2]
  | cons range ranges ih =>
    cases bytes with
    | nil => simp [follow] at h
    | cons byte bytes =>
      simp only [follow] at h
      split at h
      · exact Nat.le_succ_of_le (ih h)
      · simp at h

/-- Decodes bytes of which `offset` many were decoded before into `decoded`, in reverse. -/
def decodeFrom (offset : Nat) (decoded : List Char) (bytes : List UInt8) :
    Except Utf8Error (List Char) :=
  match bytes with
  | [] => .ok decoded.reverse
  | byte :: rest =>
      match lead? byte with
      | none => .error ⟨offset, some 1⟩
      | some (code, ranges) =>
          match h : follow code 1 ranges rest with
          | .char code rest' =>
              decodeFrom (offset + 1 + ranges.length) (Char.ofNat code :: decoded) rest'
          | .invalid length => .error ⟨offset, some length⟩
          | .incomplete => .error ⟨offset, none⟩
termination_by bytes.length
decreasing_by
  have hle := length_follow h
  simp only [List.length_cons]
  omega

/-- The characters that the bytes encode. -/
def decode (bytes : List UInt8) : Except Utf8Error (List Char) :=
  decodeFrom 0 [] bytes

/-- The bytes that encode a text. -/
def encode (text : String) : List UInt8 := text.toUTF8.toList

end Utf8
end RecordExtraction
