import DatagramShell.Wire

/-!
# Streams of chunks

One datagram of a response is a chunk: a sequence number, the length of the whole response and a
piece of it.  Both numbers are written most significant byte first.  Writing does not limit the
payload, reading does.

A response is cut into pieces of one size, the last of which may be shorter or filled up with zeros.
Every piece becomes a chunk that carries its place in the row and the length of the whole response,
so a receiver can drop the filling.  A response without bytes is still one chunk.  The sentinel
closes the stream.
-/

namespace DatagramShell

structure Chunk where
  sequence : UInt32
  /-- The length of the response that the chunk is a piece of, padding excluded. -/
  total : UInt32
  payload : Bytes
  deriving DecidableEq, Repr

namespace Chunk

inductive DecodeError where
  | truncated (length : Nat)
  | payloadTooLarge (length : Nat)
  deriving DecidableEq, Repr

namespace DecodeError

def message : DecodeError → String
  | .truncated length => s!"Datagram too short for a chunk header: {length} bytes"
  | .payloadTooLarge length =>
    s!"Chunk payload too large: {length} bytes (max: {Wire.maxPayloadLength})"

end DecodeError

def encode (chunk : Chunk) : Bytes :=
  Bytes.ofWord chunk.sequence ++ (Bytes.ofWord chunk.total ++ chunk.payload)

def decode : Bytes → Except DecodeError Chunk
  | s₃ :: s₂ :: s₁ :: s₀ :: t₃ :: t₂ :: t₁ :: t₀ :: payload =>
    if payload.length ≤ Wire.maxPayloadLength then
      .ok ⟨Bytes.toWord s₃ s₂ s₁ s₀, Bytes.toWord t₃ t₂ t₁ t₀, payload⟩
    else .error (.payloadTooLarge payload.length)
  | short => .error (.truncated short.length)

end Chunk

/-! ## Splitting a response -/

/-- How many bytes of the response each chunk carries. -/
structure ChunkSize where
  size : Nat
  size_pos : 0 < size
  size_le : size ≤ Wire.maxPayloadLength
  deriving DecidableEq, Repr

namespace ChunkSize

def ofNat? (size : Nat) : Option ChunkSize :=
  if bounds : 0 < size ∧ size ≤ Wire.maxPayloadLength then some ⟨size, bounds.1, bounds.2⟩ else none

end ChunkSize

inductive SplitError where
  | invalidChunkSize (size : Nat)
  | responseTooLarge (length : Nat)
  deriving DecidableEq, Repr

namespace SplitError

def message : SplitError → String
  | .invalidChunkSize size =>
    s!"Chunk size must be between 1 and {Wire.maxPayloadLength}, got {size}"
  | .responseTooLarge length =>
    s!"Response too large: {length} bytes (max: {Wire.maxResponseLength})"

end SplitError

structure Stream where
  chunks : List Chunk
  deriving DecidableEq, Repr

namespace Stream

/-- Fills the last piece with zeros up to `size`, if that is wanted. -/
def fill (size : Nat) (pad : Bool) (piece : Bytes) : Bytes :=
  if pad then piece ++ List.replicate (size - piece.length) 0 else piece

/-- Cuts off one piece after the other; the pieces cut so far are kept in reverse. -/
def cutOnto (size : ChunkSize) (pad : Bool) (reversed : List Bytes) (bytes : Bytes) : List Bytes :=
  if _rest : bytes.drop size.size = [] then (fill size.size pad bytes :: reversed).reverse
  else cutOnto size pad (bytes.take size.size :: reversed) (bytes.drop size.size)
termination_by bytes.length
decreasing_by
  have := size.size_pos
  have : size.size < bytes.length := by simpa using _rest
  simp only [List.length_drop]
  omega

/-- The pieces of a response; there is always at least one. -/
def cut (size : ChunkSize) (pad : Bool) (bytes : Bytes) : List Bytes :=
  cutOnto size pad [] bytes

theorem length_drop_lt {size : ChunkSize} {bytes : Bytes} (rest : bytes.drop size.size ≠ []) :
    (bytes.drop size.size).length < bytes.length := by
  have := size.size_pos
  have : size.size < bytes.length := by simpa using rest
  simp only [List.length_drop]
  omega

theorem cutOnto_eq (size : ChunkSize) (pad : Bool) (reversed : List Bytes) (bytes : Bytes) :
    cutOnto size pad reversed bytes = reversed.reverse ++ cut size pad bytes := by
  unfold cut
  induction length : bytes.length using Nat.strongRecOn generalizing reversed bytes with
  | ind n ih =>
    subst length
    rw [cutOnto, cutOnto.eq_def size pad [] bytes]
    split
    · simp
    · next rest =>
      rw [ih _ (length_drop_lt rest) _ _ rfl, ih _ (length_drop_lt rest) [_] _ rfl]
      simp

theorem cut_of_length_le {size : ChunkSize} {pad : Bool} {bytes : Bytes}
    (fits : bytes.length ≤ size.size) : cut size pad bytes = [fill size.size pad bytes] := by
  rw [cut, cutOnto]
  simp [fits]

theorem cut_of_lt_length {size : ChunkSize} {pad : Bool} {bytes : Bytes}
    (longer : size.size < bytes.length) :
    cut size pad bytes = bytes.take size.size :: cut size pad (bytes.drop size.size) := by
  rw [cut, cutOnto]
  have rest : bytes.drop size.size ≠ [] := by simpa using longer
  simp [rest, cutOnto_eq]

def number (total : UInt32) (pieces : List Bytes) : List Chunk :=
  pieces.zipIdx.map fun (piece, place) => ⟨UInt32.ofNat place, total, piece⟩

def split (response : Bytes) (size : Nat) (pad : Bool) : Except SplitError Stream :=
  match ChunkSize.ofNat? size with
  | none => .error (.invalidChunkSize size)
  | some chunkSize =>
    if response.length ≤ Wire.maxResponseLength then
      .ok ⟨number (UInt32.ofNat response.length) (cut chunkSize pad response)⟩
    else .error (.responseTooLarge response.length)

/-- All datagrams in the order they are sent, the sentinel last. -/
def datagrams (stream : Stream) : List Bytes :=
  stream.chunks.map Chunk.encode ++ [Wire.sentinel]

end Stream

end DatagramShell
