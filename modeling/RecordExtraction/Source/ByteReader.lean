/-!
# Readers of bytes

A reader over bytes in memory hands them out in order until it is closed.
-/

namespace RecordExtraction

/-- The bytes that are still to be read; none of them can be read from a closed reader. -/
structure ByteReader where
  content : Option (List UInt8)
deriving DecidableEq, Repr

namespace ByteReader

def ofBytes (bytes : List UInt8) : ByteReader := ⟨some bytes⟩

def isClosed (reader : ByteReader) : Bool := reader.content.isNone

/-- What a read from a closed reader reports. -/
def closedMessage : String := "input source is already closed"

/-- Reads as many bytes as there are and fit into the room. -/
def read (reader : ByteReader) (room : Nat) : Except String (List UInt8) × ByteReader :=
  match reader.content with
  | some bytes => (.ok (bytes.take room), ⟨some (bytes.drop room)⟩)
  | none => (.error closedMessage, reader)

/-- Closes the reader. -/
def close (_reader : ByteReader) : ByteReader := ⟨none⟩

end ByteReader
end RecordExtraction
