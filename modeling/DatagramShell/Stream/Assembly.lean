import DatagramShell.Stream.Split
import DatagramShell.Stream.Parts

/-!
# Assembling a stream

A receiver collects the chunks of one response in any order.  The first chunk fixes the length that
all others must declare.  The sentinel ends the stream: the pieces are put together in the order of
their numbers, what goes beyond the declared length is filling and is dropped, and a stream with a
gap or too few bytes is refused.  Loss is found out, not repaired.
-/

namespace DatagramShell

inductive AssemblyError where
  | undecodable (cause : Chunk.DecodeError)
  | lengthMismatch (sequence declared expected : UInt32)
  | tooLarge (declared : UInt32)
  | conflictingDuplicate (sequence : UInt32)
  | empty
  | missingChunk (sequence : Nat)
  | short (held declared : Nat)
  | alreadyFinished
  deriving DecidableEq, Repr

namespace AssemblyError

def message : AssemblyError → String
  | .undecodable cause => s!"Invalid chunk: {cause.message}"
  | .lengthMismatch sequence declared expected =>
    s!"Chunk {sequence} declares total length {declared}, stream declared {expected}"
  | .tooLarge declared =>
    s!"Declared response length {declared} exceeds {Wire.maxResponseLength} bytes"
  | .conflictingDuplicate sequence => s!"Duplicate chunk {sequence} with different payload"
  | .empty => "Stream ended without any chunks"
  | .missingChunk sequence => s!"Missing chunk {sequence}"
  | .short held declared => s!"Stream short: have {held} bytes, declared {declared}"
  | .alreadyFinished => "Stream already finished"

end AssemblyError

inductive Progress where
  /-- A chunk is stored; more are expected. -/
  | pending
  /-- The sentinel came; this is the whole response. -/
  | complete (response : Bytes)
  deriving DecidableEq, Repr

/-- What a stream has brought so far: nothing, or a declared length and some of its pieces. -/
structure Assembly where
  opened : Option (UInt32 × Parts)
  finished : Bool
  deriving DecidableEq

namespace Assembly

def fresh : Assembly :=
  ⟨none, false⟩

def received (assembly : Assembly) : Nat :=
  match assembly.opened with
  | none => 0
  | some (_, parts) => parts.size

def join (total : UInt32) (parts : Parts) : Except AssemblyError Bytes :=
  match parts.firstGap with
  | some sequence => .error (.missingChunk sequence)
  | none =>
    if parts.joined.length < total.toNat then .error (.short parts.joined.length total.toNat)
    else .ok (parts.joined.take total.toNat)

/-- The response, once no more chunks are expected. -/
def response (assembly : Assembly) : Except AssemblyError Bytes :=
  match assembly.opened with
  | none => .error .empty
  | some (total, parts) => join total parts

def store (assembly : Assembly) (chunk : Chunk) : Except AssemblyError Assembly :=
  if Wire.maxResponseLength < chunk.total.toNat then .error (.tooLarge chunk.total)
  else
    match assembly.opened with
    | none =>
      .ok { assembly with
        opened := some (chunk.total, Parts.empty.insert chunk.sequence chunk.payload) }
    | some (total, parts) =>
      if chunk.total ≠ total then
        .error (.lengthMismatch chunk.sequence chunk.total total)
      else
        match parts.find? chunk.sequence with
        | some payload =>
          if payload = chunk.payload then .ok assembly
          else .error (.conflictingDuplicate chunk.sequence)
        | none =>
          .ok { assembly with opened := some (total, parts.insert chunk.sequence chunk.payload) }

def push (assembly : Assembly) (datagram : Bytes) : Except AssemblyError Progress × Assembly :=
  if assembly.finished then (.error .alreadyFinished, assembly)
  else if Wire.isSentinel datagram then
    (assembly.response.map .complete, { assembly with finished := true })
  else
    match Chunk.decode datagram with
    | .error cause => (.error (.undecodable cause), assembly)
    | .ok chunk =>
      match assembly.store chunk with
      | .error fault => (.error fault, assembly)
      | .ok next => (.ok .pending, next)

end Assembly
end DatagramShell
