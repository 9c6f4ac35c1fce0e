import DatagramShell.Proofs.Service.Limits
import Mathlib.Tactic

/-!
# Responses delimit themselves

Nothing on the wire names the response that a datagram belongs to; there is only the sentinel.  It
is as long as the header of a chunk, but read as one it declares more bytes than a response may
have.  So a row of responses, cut behind every sentinel, falls into those responses again, whatever
bytes they carry.
-/

namespace DatagramShell

/-! ## Cutting behind every sentinel -/

namespace Wire

/-- The parts of a row of datagrams that end with a sentinel, and what is left behind the last of
them. -/
def segments : List Bytes → List (List Bytes)
  | [] => []
  | datagram :: datagrams =>
    if isSentinel datagram then [datagram] :: segments datagrams
    else
      match segments datagrams with
      | [] => [[datagram]]
      | first :: others => (datagram :: first) :: others

theorem flatten_segments (datagrams : List Bytes) : (segments datagrams).flatten = datagrams := by
  induction datagrams with
  | nil => rfl
  | cons datagram datagrams ih =>
      rw [segments]
      split
      · rw [List.flatten_cons, ih]
        rfl
      · cases hrest : segments datagrams with
        | nil =>
            rw [hrest] at ih
            rw [← ih]
            rfl
        | cons first others =>
            rw [hrest] at ih
            rw [← ih]
            rfl

theorem segments_append_sentinel {chunks : List Bytes} (hchunks : sentinel ∉ chunks)
    (behind : List Bytes) :
    segments (chunks ++ [sentinel] ++ behind) = (chunks ++ [sentinel]) :: segments behind := by
  induction chunks with
  | nil => rfl
  | cons datagram chunks ih =>
      rw [List.mem_cons, not_or] at hchunks
      have hnot : ¬ isSentinel datagram = true := by
        rw [isSentinel, beq_iff_eq]
        exact Ne.symm hchunks.1
      rw [List.cons_append, List.cons_append, segments, if_neg hnot, ih hchunks.2]

end Wire

/-! ## Responses over a socket that takes every datagram -/

namespace Transmission

variable {transmission : Transmission} {report : Report} {stream : Stream}

theorem respond_of_open {socket : Socket} (hopen : ∀ place, socket place = .ok ())
    (hstream : transmission.stream report = .ok stream) (target : Endpoint) :
    transmission.respond socket target report = ⟨stream.datagrams, .ok stream.chunks.length⟩ :=
  respond_of_taken hstream (fun index _ => hopen index) target

/-- The datagrams are one whole response: numbered chunks, of which none is the sentinel, and then
the sentinel. -/
structure Fills (transmission : Transmission) (report : Report) (segment : List Bytes) : Prop where
  chunks : ∃ chunks : List Chunk, segment = chunks.map Chunk.encode ++ [Wire.sentinel] ∧
    chunks.length = max 1 (report.render.length ⌈/⌉ transmission.chunkSize) ∧
    ∀ (place : ℕ) (chunk : Chunk), chunks[place]? = some chunk →
      chunk.sequence.toNat = place ∧ chunk.encode ≠ Wire.sentinel
  completes : Assembly.Completes segment report.render

theorem fills_datagrams {cutting : Cutting} (hsize : cutting.size.size = transmission.chunkSize)
    (hresponse : cutting.response = report.render) :
    transmission.Fills report cutting.stream.datagrams := by
  constructor
  · refine ⟨cutting.stream.chunks, rfl, ?_, ?_⟩
    · rw [cutting.length_chunks, cutting.length_pieces, hsize, hresponse]
    · intro place chunk hchunk
      refine ⟨(cutting.chunk_numbers hchunk).1, ?_⟩
      intro hsentinel
      have hmem := List.mem_map_of_mem (f := Chunk.encode) (List.mem_of_getElem? hchunk)
      rw [hsentinel] at hmem
      exact cutting.sentinel_notMem_chunks hmem
  · rw [← hresponse]
    exact cutting.completes

end Transmission

/-- The responses to any reports that fit, sent one after the other and cut behind every sentinel,
are as many segments as there are reports.  Each segment is the whole response to its report, and a
fresh assembly is completed by its last datagram and not before. -/
theorem Transmission.segments_of_responses (transmission : Transmission)
    (hpos : 0 < transmission.chunkSize) (hsize : transmission.chunkSize ≤ Wire.maxPayloadLength)
    (socket : Socket) (hopen : ∀ place, socket place = .ok ()) (target : Endpoint)
    (reports : List Report)
    (hfits : ∀ report ∈ reports, report.render.length ≤ Wire.maxResponseLength) :
    let sent := reports.flatMap fun report => (transmission.respond socket target report).sent
    (Wire.segments sent).flatten = sent ∧
      (Wire.segments sent).length = reports.length ∧
      List.Forall₂ transmission.Fills reports (Wire.segments sent) := by
  intro sent
  have hfills : List.Forall₂ transmission.Fills reports (Wire.segments sent) := by
    unfold sent
    clear sent
    induction reports with
    | nil => exact .nil
    | cons report reports ih =>
        let cutting : Cutting := ⟨report.render, ⟨transmission.chunkSize, hpos, hsize⟩,
          transmission.padFinal, hfits report List.mem_cons_self⟩
        have hfirst : (transmission.respond socket target report).sent =
            cutting.stream.datagrams := by
          rw [respond_of_open hopen cutting.split_eq]
        rw [List.flatMap_cons, hfirst, Stream.datagrams,
          Wire.segments_append_sentinel cutting.sentinel_notMem_chunks]
        refine .cons (fills_datagrams rfl rfl) (ih ?_)
        exact fun other hmem => hfits other (List.mem_cons_of_mem _ hmem)
  exact ⟨Wire.flatten_segments sent, hfills.length_eq.symm, hfills⟩

/-- Chunks of eight bytes, so that the output of the second command is a payload of its own; it
spells the sentinel. -/
theorem Transmission.segments_of_two_responses :
    let transmission : Transmission := ⟨8, true⟩
    let target : Endpoint := { address := .v4 ⟨127, 0, 0, 1⟩, port := 40000 }
    let spelled : Report := .completed 0 Wire.sentinel []
    let sent := [Report.failed, spelled].flatMap fun report =>
      (transmission.respond (fun _ => .ok ()) target report).sent
    (∃ chunk : Chunk, chunk.payload = Wire.sentinel ∧ chunk.encode ∈ sent) ∧
      ∃ first second, Wire.segments sent = [first, second] ∧
        first.length = 5 ∧ Assembly.Completes first Report.failed.render ∧
        second.length = 6 ∧ Assembly.Completes second spelled.render := by
  intro transmission target spelled sent
  have hfits : ∀ report ∈ [Report.failed, spelled],
      report.render.length ≤ Wire.maxResponseLength := by decide
  obtain ⟨_, _, hfills⟩ := transmission.segments_of_responses (by decide) (by decide)
    (fun _ => .ok ()) (fun _ => rfl) target [Report.failed, spelled] hfits
  obtain ⟨first, others, hfirst, hothers, hsegments⟩ := List.forall₂_cons_left_iff.mp hfills
  obtain ⟨second, _, hsecond, hnil, rfl⟩ := List.forall₂_cons_left_iff.mp hothers
  rw [List.forall₂_nil_left_iff] at hnil
  subst hnil
  obtain ⟨firstChunks, rfl, hfirstLength, _⟩ := hfirst.chunks
  obtain ⟨secondChunks, rfl, hsecondLength, _⟩ := hsecond.chunks
  refine ⟨⟨⟨2, 33, Wire.sentinel⟩, rfl, by decide +kernel⟩, _, _, hsegments, ?_,
    hfirst.completes, ?_, hsecond.completes⟩
  · rw [List.length_append, List.length_map, hfirstLength]
    decide
  · rw [List.length_append, List.length_map, hsecondLength]
    decide

end DatagramShell
