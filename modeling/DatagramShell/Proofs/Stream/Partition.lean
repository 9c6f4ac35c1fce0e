import DatagramShell.Stream.Split
import DatagramShell.Proofs.Stream.Encoding
import Mathlib.Tactic
import Mathlib.Algebra.Order.Floor.Div

/-!
# The chunks of a response

A response of admissible length can be cut into pieces of every admissible size.  All pieces but the
last are full, and the pieces one after the other are the response, followed by the zeros with which
the last one is filled up.  The number of pieces is the length divided by the size, rounded up, but
at least one; it is far below the range of the sequence numbers.
-/

namespace DatagramShell

namespace Stream

variable {size : ChunkSize} {pad : Bool}

/-- Cutting follows the response from one full piece to the next. -/
theorem cut_induction (size : ChunkSize) {motive : Bytes → Prop}
    (last : ∀ bytes : Bytes, bytes.length ≤ size.size → motive bytes)
    (more : ∀ bytes : Bytes, size.size < bytes.length → motive (bytes.drop size.size) →
      motive bytes)
    (bytes : Bytes) : motive bytes := by
  induction hlength : bytes.length using Nat.strongRecOn generalizing bytes with
  | ind length ih =>
      subst hlength
      by_cases hfits : bytes.length ≤ size.size
      · exact last bytes hfits
      · have hlonger : size.size < bytes.length := Nat.lt_of_not_le hfits
        have hshorter : (bytes.drop size.size).length < bytes.length := by
          have hpos := size.size_pos
          rw [List.length_drop]
          omega
        exact more bytes hlonger (ih _ hshorter _ rfl)

theorem fill_eq (length : Nat) (pad : Bool) (piece : Bytes) :
    fill length pad piece =
      piece ++ List.replicate (if pad then length - piece.length else 0) 0 := by
  cases pad <;> simp [fill]

theorem length_cut (bytes : Bytes) :
    (cut size pad bytes).length = max 1 (bytes.length ⌈/⌉ size.size) := by
  induction bytes using cut_induction size with
  | last bytes hfits =>
      have hone : bytes.length ⌈/⌉ size.size ≤ 1 := by
        rw [ceilDiv_le_iff_le_mul size.size_pos, Nat.mul_one]
        exact hfits
      rw [cut_of_length_le hfits, List.length_singleton, max_eq_left hone]
  | more bytes hlonger ih =>
      have hpos := size.size_pos
      have hstep : bytes.length ⌈/⌉ size.size =
          (bytes.length - size.size) ⌈/⌉ size.size + 1 := by
        rw [Nat.ceilDiv_eq_add_pred_div, Nat.ceilDiv_eq_add_pred_div,
          ← Nat.add_div_right _ hpos]
        congr 1
        omega
      have hrest : 1 ≤ (bytes.length - size.size) ⌈/⌉ size.size := by
        by_contra hzero
        have hle : (bytes.length - size.size) ⌈/⌉ size.size ≤ 0 := by omega
        rw [ceilDiv_le_iff_le_mul hpos] at hle
        omega
      rw [cut_of_lt_length hlonger, List.length_cons, ih, List.length_drop, hstep]
      omega

theorem length_cut_pos (bytes : Bytes) : 0 < (cut size pad bytes).length := by
  rw [length_cut]
  omega

theorem flatten_cut (bytes : Bytes) :
    (cut size pad bytes).flatten =
      bytes ++ List.replicate
        (if pad then (cut size pad bytes).length * size.size - bytes.length else 0) 0 := by
  induction bytes using cut_induction size with
  | last bytes hfits =>
      rw [cut_of_length_le hfits, List.flatten_singleton, fill_eq, List.length_singleton,
        Nat.one_mul]
  | more bytes hlonger ih =>
      rw [cut_of_lt_length hlonger, List.flatten_cons, ih, ← List.append_assoc,
        List.take_append_drop, List.length_cons, List.length_drop]
      have hfilling : (cut size pad (bytes.drop size.size)).length * size.size -
          (bytes.length - size.size) =
            ((cut size pad (bytes.drop size.size)).length + 1) * size.size - bytes.length := by
        rw [Nat.add_mul]
        omega
      rw [hfilling]

theorem length_of_mem_dropLast_cut {bytes piece : Bytes}
    (hmem : piece ∈ (cut size pad bytes).dropLast) : piece.length = size.size := by
  induction bytes using cut_induction size with
  | last bytes hfits => simp [cut_of_length_le hfits] at hmem
  | more bytes hlonger ih =>
      have hrest : cut size pad (bytes.drop size.size) ≠ [] :=
        List.ne_nil_of_length_pos (length_cut_pos _)
      rw [cut_of_lt_length hlonger, List.dropLast_cons_of_ne_nil hrest] at hmem
      rcases List.mem_cons.mp hmem with rfl | hmem
      · rw [List.length_take]
        omega
      · exact ih hmem

theorem length_le_of_mem_cut {bytes piece : Bytes} (hmem : piece ∈ cut size pad bytes) :
    piece.length ≤ size.size := by
  induction bytes using cut_induction size with
  | last bytes hfits =>
      rw [cut_of_length_le hfits, List.mem_singleton] at hmem
      subst hmem
      rw [fill_eq, List.length_append, List.length_replicate]
      split <;> omega
  | more bytes hlonger ih =>
      rw [cut_of_lt_length hlonger] at hmem
      rcases List.mem_cons.mp hmem with rfl | hmem
      · exact List.length_take_le _ _
      · exact ih hmem

/-- Pieces in front of the last one hold as many bytes as they have places for. -/
theorem length_flatten_take_cut {bytes : Bytes} {count : Nat}
    (hcount : count < (cut size pad bytes).length) :
    ((cut size pad bytes).take count).flatten.length = count * size.size := by
  have htake : (cut size pad bytes).take count = (cut size pad bytes).dropLast.take count := by
    rw [List.dropLast_eq_take, List.take_take, Nat.min_eq_left (by omega)]
  have hlengths : ((cut size pad bytes).take count).map List.length =
      List.replicate count size.size := by
    rw [List.eq_replicate_iff]
    constructor
    · rw [List.length_map, List.length_take]
      omega
    · intro length hmem
      rcases List.mem_map.mp hmem with ⟨piece, hpiece, rfl⟩
      rw [htake] at hpiece
      exact length_of_mem_dropLast_cut (List.mem_of_mem_take hpiece)
  rw [List.length_flatten, hlengths, List.sum_replicate, smul_eq_mul]

/-! ## Numbers -/

theorem getElem?_number (total : UInt32) (pieces : List Bytes) (place : Nat) :
    (number total pieces)[place]? =
      pieces[place]?.map fun piece => ⟨UInt32.ofNat place, total, piece⟩ := by
  simp [number, List.getElem?_zipIdx, Function.comp_def]

theorem length_number (total : UInt32) (pieces : List Bytes) :
    (number total pieces).length = pieces.length := by
  simp [number]

theorem mem_number_iff {total : UInt32} {pieces : List Bytes} {chunk : Chunk} :
    chunk ∈ number total pieces ↔
      ∃ place piece, pieces[place]? = some piece ∧ chunk = ⟨UInt32.ofNat place, total, piece⟩ := by
  rw [List.mem_iff_getElem?]
  apply exists_congr
  intro place
  rw [getElem?_number, Option.map_eq_some_iff]
  simp only [eq_comm]

end Stream

/-! ## Responses that can be cut -/

/-- A response together with a way to cut it, both within the limits of the wire. -/
structure Cutting where
  response : Bytes
  size : ChunkSize
  pad : Bool
  fits : response.length ≤ Wire.maxResponseLength

namespace Cutting

variable (cutting : Cutting)

def pieces : List Bytes :=
  Stream.cut cutting.size cutting.pad cutting.response

def total : UInt32 :=
  UInt32.ofNat cutting.response.length

def stream : Stream :=
  ⟨Stream.number cutting.total cutting.pieces⟩

def chunk (place : Nat) (piece : Bytes) : Chunk :=
  ⟨UInt32.ofNat place, cutting.total, piece⟩

theorem split_eq :
    Stream.split cutting.response cutting.size.size cutting.pad = .ok cutting.stream := by
  have hsize : ChunkSize.ofNat? cutting.size.size = some cutting.size := by
    rw [ChunkSize.ofNat?, dif_pos ⟨cutting.size.size_pos, cutting.size.size_le⟩]
  simp only [Stream.split, hsize, if_pos cutting.fits]
  rfl

@[simp] theorem toNat_total : cutting.total.toNat = cutting.response.length := by
  have hfits := cutting.fits
  unfold Wire.maxResponseLength at hfits
  unfold total
  rw [UInt32.toNat_ofNat']
  omega

theorem length_pieces :
    cutting.pieces.length = max 1 (cutting.response.length ⌈/⌉ cutting.size.size) :=
  Stream.length_cut _

theorem length_pieces_pos : 0 < cutting.pieces.length :=
  Stream.length_cut_pos _

theorem length_chunks : cutting.stream.chunks.length = cutting.pieces.length :=
  Stream.length_number _ _

theorem length_pieces_le : cutting.pieces.length ≤ Wire.maxResponseLength := by
  have hceil : cutting.response.length ⌈/⌉ cutting.size.size ≤ Wire.maxResponseLength := by
    rw [ceilDiv_le_iff_le_mul cutting.size.size_pos]
    exact cutting.fits.trans (Nat.le_mul_of_pos_left _ cutting.size.size_pos)
  rw [length_pieces]
  exact max_le (by decide) hceil

theorem mem_chunks_iff {chunk : Chunk} :
    chunk ∈ cutting.stream.chunks ↔
      ∃ place piece, cutting.pieces[place]? = some piece ∧ chunk = cutting.chunk place piece :=
  Stream.mem_number_iff

theorem length_le_of_mem_pieces {piece : Bytes} (hmem : piece ∈ cutting.pieces) :
    piece.length ≤ Wire.maxPayloadLength :=
  (Stream.length_le_of_mem_cut hmem).trans cutting.size.size_le

theorem flatten_pieces :
    cutting.pieces.flatten = cutting.response ++ List.replicate
      (if cutting.pad then
        cutting.pieces.length * cutting.size.size - cutting.response.length else 0) 0 :=
  Stream.flatten_cut _

theorem length_flatten_take {count : Nat} (hcount : count < cutting.pieces.length) :
    (cutting.pieces.take count).flatten.length = count * cutting.size.size :=
  Stream.length_flatten_take_cut hcount

/-- Pieces in front of the last one do not make the whole response. -/
theorem mul_size_lt_length {count : Nat} (hpos : 0 < count)
    (hcount : count < cutting.pieces.length) :
    count * cutting.size.size < cutting.response.length := by
  rw [length_pieces, lt_max_iff] at hcount
  rcases hcount with hone | hceil
  · omega
  · rw [← not_le, ceilDiv_le_iff_le_mul cutting.size.size_pos, not_le] at hceil
    rwa [Nat.mul_comm]

theorem toNat_ofNat_place {place : Nat} (hplace : place < cutting.pieces.length) :
    (UInt32.ofNat place).toNat = place := by
  have hle := cutting.length_pieces_le
  unfold Wire.maxResponseLength at hle
  rw [UInt32.toNat_ofNat']
  omega

theorem decode_encode_chunk {place : Nat} {piece : Bytes}
    (hpiece : cutting.pieces[place]? = some piece) :
    Chunk.decode (cutting.chunk place piece).encode = .ok (cutting.chunk place piece) :=
  Chunk.decode_encode (cutting.length_le_of_mem_pieces (List.mem_of_getElem? hpiece))

theorem isSentinel_encode_chunk (place : Nat) (piece : Bytes) :
    Wire.isSentinel (cutting.chunk place piece).encode = false := by
  apply Chunk.isSentinel_encode
  rw [chunk, toNat_total]
  exact cutting.fits

/-- Neither the length nor any number wraps around. -/
theorem chunk_numbers {place : ℕ} {chunk : Chunk}
    (hchunk : cutting.stream.chunks[place]? = some chunk) :
    chunk.sequence.toNat = place ∧ chunk.total.toNat = cutting.response.length := by
  rw [stream, Stream.getElem?_number, Option.map_eq_some_iff] at hchunk
  rcases hchunk with ⟨piece, hpiece, rfl⟩
  rcases List.getElem?_eq_some_iff.mp hpiece with ⟨hplace, _⟩
  exact ⟨cutting.toNat_ofNat_place hplace, cutting.toNat_total⟩

/-! ## The last piece -/

theorem length_le_mul_size :
    cutting.response.length ≤ cutting.pieces.length * cutting.size.size := by
  have hceil : cutting.response.length ⌈/⌉ cutting.size.size ≤ cutting.pieces.length := by
    rw [length_pieces]
    exact le_max_right _ _
  rwa [ceilDiv_le_iff_le_mul cutting.size.size_pos, Nat.mul_comm] at hceil

/-- The pieces in front of the last one are full, so the last one holds what is left of the response
and its filling. -/
theorem length_last_piece {piece : Bytes} (hlast : cutting.pieces.getLast? = some piece) :
    piece.length = if cutting.pad then cutting.size.size
      else cutting.response.length - (cutting.pieces.length - 1) * cutting.size.size := by
  have hpos := cutting.length_pieces_pos
  have hle := cutting.length_le_mul_size
  have hfront : cutting.pieces.dropLast.flatten.length =
      (cutting.pieces.length - 1) * cutting.size.size := by
    rw [List.dropLast_eq_take]
    exact cutting.length_flatten_take (by omega)
  have hsplit : cutting.pieces.dropLast ++ [piece] = cutting.pieces :=
    List.dropLast_append_getLast? piece hlast
  have hwhole := congrArg List.length cutting.flatten_pieces
  have hparts : cutting.pieces.flatten.length =
      (cutting.pieces.length - 1) * cutting.size.size + piece.length := by
    rw [← hfront, ← List.length_append, ← List.flatten_concat, hsplit]
  have hcount : cutting.pieces.length * cutting.size.size =
      (cutting.pieces.length - 1) * cutting.size.size + cutting.size.size := by
    rw [← Nat.succ_mul, Nat.succ_eq_add_one, Nat.sub_add_cancel hpos]
  rw [hparts, List.length_append, List.length_replicate] at hwhole
  by_cases hpad : cutting.pad = true
  · simp only [hpad, if_true] at hwhole ⊢
    omega
  · simp only [hpad, Bool.false_eq_true, if_false] at hwhole ⊢
    omega

theorem last_piece_ne_nil (hresponse : cutting.response ≠ []) {piece : Bytes}
    (hlast : cutting.pieces.getLast? = some piece) : piece ≠ [] := by
  have hpos := List.length_pos_of_ne_nil hresponse
  have hlength := cutting.length_last_piece hlast
  apply List.ne_nil_of_length_pos
  rw [hlength]
  split
  · exact cutting.size.size_pos
  · by_cases hone : cutting.pieces.length = 1
    · simpa [hone] using hpos
    · have hpieces := cutting.length_pieces_pos
      have hfront : (cutting.pieces.length - 1) * cutting.size.size < cutting.response.length := by
        apply cutting.mul_size_lt_length <;> omega
      omega

/-! ## Datagrams -/

theorem length_datagrams : cutting.stream.datagrams.length = cutting.pieces.length + 1 := by
  simp [Stream.datagrams, cutting.length_chunks]

/-- The datagram at each place in front of the sentinel carries the number of that place. -/
theorem decode_datagrams {place : ℕ} (hplace : place < cutting.pieces.length) :
    ∃ datagram chunk, cutting.stream.datagrams[place]? = some datagram ∧
      Chunk.decode datagram = .ok chunk ∧ chunk.sequence.toNat = place := by
  have hpiece := List.getElem?_eq_getElem hplace
  have hchunk : cutting.stream.chunks[place]? =
      some (cutting.chunk place cutting.pieces[place]) := by
    unfold stream
    rw [Stream.getElem?_number, hpiece]
    rfl
  refine ⟨_, _, ?_, cutting.decode_encode_chunk hpiece, cutting.toNat_ofNat_place hplace⟩
  unfold Stream.datagrams
  rw [List.getElem?_append_left (by simpa [cutting.length_chunks] using hplace),
    List.getElem?_map, hchunk, Option.map_some]

theorem sentinel_notMem_chunks :
    Wire.sentinel ∉ cutting.stream.chunks.map Chunk.encode := by
  intro hmem
  rcases List.mem_map.mp hmem with ⟨chunk, hchunk, heq⟩
  obtain ⟨place, piece, _, rfl⟩ := cutting.mem_chunks_iff.mp hchunk
  have hnot := cutting.isSentinel_encode_chunk place piece
  rw [heq] at hnot
  exact absurd hnot (by decide)

/-- Of the first datagrams of a stream, only all of them together hold the sentinel. -/
theorem count_sentinel_take {sent : ℕ} (hsent : sent ≤ cutting.stream.datagrams.length) :
    (cutting.stream.datagrams.take sent).count Wire.sentinel =
      if sent = cutting.stream.datagrams.length then 1 else 0 := by
  have hchunks := cutting.sentinel_notMem_chunks
  split
  · next hall =>
      rw [hall, List.take_length, Stream.datagrams, List.count_append,
        List.count_eq_zero_of_not_mem hchunks]
      rfl
  · next hpart =>
      apply List.count_eq_zero_of_not_mem
      intro hmem
      rw [cutting.length_datagrams] at hsent hpart
      rw [Stream.datagrams, List.take_append_of_le_length
        (by rw [List.length_map, cutting.length_chunks]; omega)] at hmem
      exact hchunks (List.mem_of_mem_take hmem)

end Cutting

namespace Stream

/-- What can be split is a response within the limits of the wire. -/
theorem exists_cutting {response : Bytes} {size : ℕ} {pad : Bool} {stream : Stream}
    (hsplit : split response size pad = .ok stream) :
    ∃ cutting : Cutting, cutting.response = response ∧ cutting.size.size = size ∧
      cutting.pad = pad ∧ cutting.stream = stream := by
  unfold split at hsplit
  cases hsize : ChunkSize.ofNat? size with
  | none => simp [hsize] at hsplit
  | some chunkSize =>
      by_cases hfits : response.length ≤ Wire.maxResponseLength
      · simp only [hsize, if_pos hfits, Except.ok.injEq] at hsplit
        have hvalue : chunkSize.size = size := by
          unfold ChunkSize.ofNat? at hsize
          split at hsize
          · cases hsize
            rfl
          · cases hsize
        exact ⟨⟨response, chunkSize, pad, hfits⟩, rfl, hvalue, rfl, hsplit⟩
      · simp [hsize, hfits] at hsplit

/-! ## What splitting gives -/

/-- A response is cut at every `size` bytes, and the cuts are numbered. -/
structure Divides (stream : Stream) (response : Bytes) (size : ℕ) (pad : Bool) : Prop where
  count : stream.chunks.length = max 1 (response.length ⌈/⌉ size)
  numbers : ∀ (place : ℕ) (chunk : Chunk), stream.chunks[place]? = some chunk →
    chunk.sequence.toNat = place ∧ chunk.total.toNat = response.length
  full : ∀ chunk ∈ stream.chunks.dropLast, chunk.payload.length = size
  last : ∀ chunk ∈ stream.chunks.getLast?, chunk.payload.length =
    if pad then size else response.length - (stream.chunks.length - 1) * size
  last_ne_nil : response ≠ [] → ∀ chunk ∈ stream.chunks.getLast?, chunk.payload ≠ []
  joined : (stream.chunks.map Chunk.payload).flatten = response ++
    List.replicate (if pad then stream.chunks.length * size - response.length else 0) 0

theorem map_payload_number (total : UInt32) (pieces : List Bytes) :
    (number total pieces).map Chunk.payload = pieces := by
  simp [number, Function.comp_def]

end Stream

namespace Cutting

variable (cutting : Cutting)

theorem map_payload_chunks : cutting.stream.chunks.map Chunk.payload = cutting.pieces :=
  Stream.map_payload_number _ _

theorem divides :
    cutting.stream.Divides cutting.response cutting.size.size cutting.pad := by
  have hpayloads := cutting.map_payload_chunks
  have hcount := cutting.length_chunks
  have hlast : ∀ chunk ∈ cutting.stream.chunks.getLast?,
      cutting.pieces.getLast? = some chunk.payload := by
    intro chunk hchunk
    rw [← hpayloads, List.getLast?_map, Option.mem_def.mp hchunk, Option.map_some]
  constructor
  · rw [hcount, cutting.length_pieces]
  · intro place chunk hchunk
    exact cutting.chunk_numbers hchunk
  · intro chunk hchunk
    have hpiece : chunk.payload ∈ cutting.pieces.dropLast := by
      rw [← hpayloads, ← List.map_dropLast]
      exact List.mem_map_of_mem hchunk
    exact Stream.length_of_mem_dropLast_cut hpiece
  · intro chunk hchunk
    rw [hcount]
    exact cutting.length_last_piece (hlast chunk hchunk)
  · intro hresponse chunk hchunk
    exact cutting.last_piece_ne_nil hresponse (hlast chunk hchunk)
  · rw [hpayloads, hcount]
    exact cutting.flatten_pieces

end Cutting

namespace Stream

variable {response : Bytes} {size : ℕ} {pad : Bool}

theorem split_of_size_invalid (hsize : ¬ (0 < size ∧ size ≤ Wire.maxPayloadLength)) :
    split response size pad = .error (.invalidChunkSize size) := by
  have hnone : ChunkSize.ofNat? size = none := by
    rw [ChunkSize.ofNat?, dif_neg hsize]
  simp only [split, hnone]

theorem split_of_lt_length (hsize : 0 < size ∧ size ≤ Wire.maxPayloadLength)
    (hlong : Wire.maxResponseLength < response.length) :
    split response size pad = .error (.responseTooLarge response.length) := by
  have hsome : ChunkSize.ofNat? size = some ⟨size, hsize.1, hsize.2⟩ := by
    rw [ChunkSize.ofNat?, dif_pos hsize]
  simp only [split, hsome, if_neg (Nat.not_le.mpr hlong)]

/-- A size that no chunk can have is refused whatever the response is, then a response that no
stream may declare; every other response is divided. -/
theorem split_divides_or_refuses (response : Bytes) (size : ℕ) (pad : Bool) :
    let result := split response size pad
    let valid := 0 < size ∧ size ≤ Wire.maxPayloadLength
    (result = .error (.invalidChunkSize size) ↔ ¬ valid) ∧
      (result = .error (.responseTooLarge response.length) ↔
        valid ∧ Wire.maxResponseLength < response.length) ∧
      ((∃ stream, result = .ok stream) ↔ valid ∧ response.length ≤ Wire.maxResponseLength) ∧
      ∀ stream, result = .ok stream → stream.Divides response size pad := by
  intro result valid
  by_cases hsize : valid
  · by_cases hfits : response.length ≤ Wire.maxResponseLength
    · let cutting : Cutting := ⟨response, ⟨size, hsize.1, hsize.2⟩, pad, hfits⟩
      have hresult : result = .ok cutting.stream := cutting.split_eq
      have hdivides : cutting.stream.Divides response size pad := cutting.divides
      simp [hresult, hsize, hfits, Nat.not_lt.mpr hfits, hdivides]
    · have hlong : Wire.maxResponseLength < response.length := Nat.lt_of_not_le hfits
      have hresult : result = .error (.responseTooLarge response.length) :=
        split_of_lt_length hsize hlong
      simp [hresult, hsize, hfits, hlong]
  · have hresult : result = .error (.invalidChunkSize size) := split_of_size_invalid hsize
    simp [hresult, hsize]

/-- Five bytes, two for each chunk, the last one filled with a zero. -/
theorem split_divides_five_bytes :
    ∃ stream, split [1, 2, 3, 4, 5] 2 true = .ok stream ∧ stream.Divides [1, 2, 3, 4, 5] 2 true ∧
      stream.chunks = [⟨0, 5, [1, 2]⟩, ⟨1, 5, [3, 4]⟩, ⟨2, 5, [5, 0]⟩] := by
  obtain ⟨_, _, hsome, hdivides⟩ := split_divides_or_refuses [1, 2, 3, 4, 5] 2 true
  obtain ⟨stream, hstream⟩ := hsome.mpr (by decide)
  refine ⟨stream, hstream, hdivides stream hstream, ?_⟩
  have hchunks : split [1, 2, 3, 4, 5] 2 true =
      .ok ⟨[⟨0, 5, [1, 2]⟩, ⟨1, 5, [3, 4]⟩, ⟨2, 5, [5, 0]⟩]⟩ := by cbv
  rw [hchunks] at hstream
  cases hstream
  rfl

end Stream

end DatagramShell
