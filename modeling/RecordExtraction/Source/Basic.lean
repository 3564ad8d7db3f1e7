/-!
# Input sources

A source is scripted: it has a list of deliveries and answers one read after the other from it.  It
keeps a history of the calls that it answered.  `Source.readAll` drains a source, but takes at most
one byte more than the limit, which is enough to tell that the input is too large.
-/

namespace RecordExtraction

/-- What a source does at its next read. -/
inductive Delivery where
  /-- Hands out bytes, over several reads if the reader has not enough room.  Without any byte it
  signals the end of the input once. -/
  | bytes (content : List UInt8)
  /-- Hands out the same bytes over and over. -/
  | endless (content : List UInt8)
  /-- Asks the reader to try again. -/
  | interrupted
  /-- Fails. -/
  | failure (message : String)
deriving DecidableEq, Repr

/-- A call that a source answered. -/
inductive SourceCall where
  | read (served : Nat)
  | close
deriving DecidableEq, Repr

/-- The number of bytes that a call handed out. -/
def SourceCall.served : SourceCall → Nat
  | read served => served
  | close => 0

/-- A source with the calls that it answered so far, the first one first. -/
structure Source where
  script : List Delivery
  closeFailure : Option String
  calls : List SourceCall
deriving DecidableEq, Repr

/-- Why a source could not be drained. -/
inductive SourceFault where
  | failed (message : String)
  | tooLarge (limit : Nat)
deriving DecidableEq, Repr

/-- The least number of bytes that no reader can count. -/
def byteCountBound : Nat := 0x10000000000000000

/-- Repeats bytes until the room is filled.  `rest` is what is left of the current repetition. -/
def fillRoom (content rest : List UInt8) : Nat → List UInt8
  | 0 => []
  | room + 1 =>
      match rest with
      | byte :: rest => byte :: fillRoom content rest room
      | [] =>
          match content with
          | byte :: after => byte :: fillRoom content after room
          | [] => []

/-- The reads of a reader that goes on until its room is filled or the input ends. -/
structure Drained where
  bytes : List UInt8
  failure : Option String
  calls : List SourceCall
  script : List Delivery

/-- The same reads after one more. -/
def Drained.after (content : List UInt8) (drained : Drained) : Drained :=
  { drained with
    bytes := content ++ drained.bytes
    calls := .read content.length :: drained.calls }

/-- Reads until the room is filled, the input ends or a read fails. -/
def drain (room : Nat) (script : List Delivery) : Drained :=
  if room = 0 then ⟨[], none, [], script⟩
  else
    match script with
    | [] => ⟨[], none, [.read 0], []⟩
    | .bytes content :: rest =>
        if content.isEmpty then ⟨[], none, [.read 0], rest⟩
        else if content.length ≤ room then
          (drain (room - content.length) rest).after content
        else
          ⟨content.take room, none, [.read room], .bytes (content.drop room) :: rest⟩
    | .endless content :: rest =>
        let bytes := fillRoom content [] room
        ⟨bytes, none, [.read bytes.length], .endless content :: rest⟩
    | .interrupted :: rest => (drain room rest).after []
    | .failure message :: rest => ⟨[], some message, [.read 0], rest⟩

namespace Source

/-- A source that hands out bytes and has nothing else to tell. -/
def ofBytes (bytes : List UInt8) : Source := ⟨[.bytes bytes], none, []⟩

/-- The number of bytes that were handed out. -/
def served (source : Source) : Nat := source.calls.foldr (fun call rest => call.served + rest) 0

/-- The number of times that the source was closed. -/
def closed (source : Source) : Nat := source.calls.count .close

/-- The number of bytes that are taken under a limit. -/
def room (limit : Nat) : Nat := min (limit + 1) (byteCountBound - 1)

/-- Reads the source to its end.  Bytes that a failed read took are lost. -/
def readAll (source : Source) (limit : Nat) : Except SourceFault (List UInt8) × Source :=
  let drained := drain (room limit) source.script
  let after : Source :=
    { source with script := drained.script, calls := source.calls ++ drained.calls }
  match drained.failure with
  | some message => (.error (.failed message), after)
  | none =>
      if drained.bytes.length > limit then (.error (.tooLarge limit), after)
      else (.ok drained.bytes, after)

/-- Closes the source. -/
def close (source : Source) : Source := { source with calls := source.calls ++ [.close] }

end Source
end RecordExtraction
