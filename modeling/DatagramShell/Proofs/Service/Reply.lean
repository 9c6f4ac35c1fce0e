import DatagramShell.Service.Response
import DatagramShell.Proofs.Stream.Loss
import Mathlib.Tactic

/-!
# A reply completes

The datagrams of a response, in the order in which they are sent, complete a fresh assembly: all but
the last are taken in as chunks, and the last one gives the rendered report.  A socket takes them
all, or the ones in front of the first that it refuses.
-/

namespace DatagramShell

/-- The last of these datagrams, and none before it, completes a response. -/
def Assembly.Completes (datagrams : List Bytes) (response : Bytes) : Prop :=
  fresh.answers datagrams =
    List.replicate (datagrams.length - 1) (.ok .pending) ++ [.ok (.complete response)]

theorem Assembly.Completes.ne_nil {datagrams : List Bytes} {response : Bytes}
    (hcompletes : Completes datagrams response) : datagrams ≠ [] := by
  intro hnil
  subst hnil
  cases hcompletes

theorem Cutting.completes (cutting : Cutting) :
    Assembly.Completes cutting.stream.datagrams cutting.response := by
  have hfresh : Assembly.Collects cutting ∅ .fresh := .nothing
  have hchunks : ∀ datagram ∈ cutting.stream.chunks.map Chunk.encode,
      datagram ∈ cutting.stream.chunks.map Chunk.encode := fun _ hmem => hmem
  obtain ⟨hcollects, hanswers⟩ := hfresh.after hchunks
  have hall : cutting.stream.delivered (cutting.stream.chunks.map Chunk.encode) =
      Finset.range cutting.pieces.length :=
    cutting.delivered_eq_range_iff.mpr fun chunk hchunk => List.mem_map.mpr ⟨chunk, hchunk, rfl⟩
  rw [Finset.empty_union, hall] at hcollects
  have hlast := Assembly.push_sentinel hcollects.finished_eq
  rw [hcollects.response_of_all] at hlast
  unfold Assembly.Completes Stream.datagrams
  rw [Assembly.answers_append, hanswers,
    List.length_append, List.length_singleton, Nat.add_sub_cancel, Assembly.answers, hlast]
  rfl

/-! ## What a socket takes of a response -/

/-- A socket takes a row of datagrams as a whole, or there is a first one that it refuses. -/
theorem Socket.takes_or_refuses (socket : Socket) (count : ℕ) :
    (∀ index < count, socket index = .ok ()) ∨
      ∃ taken < count, ∃ cause, (∀ index < taken, socket index = .ok ()) ∧
        socket taken = .error cause := by
  induction count with
  | zero => exact .inl fun index hindex => absurd hindex (Nat.not_lt_zero index)
  | succ count ih =>
      rcases ih with hall | ⟨taken, hlt, hfirst⟩
      · cases hlast : socket count with
        | ok _ =>
            left
            intro index hindex
            rcases Nat.lt_succ_iff_lt_or_eq.mp hindex with hlt | rfl
            · exact hall index hlt
            · exact hlast
        | error cause => exact .inr ⟨count, Nat.lt_succ_self count, cause, hall, hlast⟩
      · exact .inr ⟨taken, Nat.lt_succ_of_lt hlt, hfirst⟩

theorem sendFrom_of_taken {socket : Socket} (place : ℕ) (reversed datagrams : List Bytes)
    (htaken : ∀ index < datagrams.length, socket (place + index) = .ok ()) :
    sendFrom socket place reversed datagrams = (reversed.reverse ++ datagrams, none) := by
  induction datagrams generalizing place reversed with
  | nil => rw [sendFrom, List.append_nil]
  | cons datagram datagrams ih =>
      have hfirst : socket place = .ok () := htaken 0 (Nat.succ_pos _)
      have hrest : ∀ index < datagrams.length, socket (place + 1 + index) = .ok () := by
        intro index hindex
        rw [Nat.add_right_comm]
        exact htaken (index + 1) (Nat.succ_lt_succ hindex)
      rw [sendFrom, hfirst]
      simp only
      rw [ih (place + 1) (datagram :: reversed) hrest, List.reverse_cons, List.append_assoc,
        List.singleton_append]

theorem sendFrom_of_refused {socket : Socket} {cause : SystemError} {taken : ℕ} (place : ℕ)
    (reversed datagrams : List Bytes) (hshort : taken < datagrams.length)
    (htaken : ∀ index < taken, socket (place + index) = .ok ())
    (hrefused : socket (place + taken) = .error cause) :
    sendFrom socket place reversed datagrams =
      (reversed.reverse ++ datagrams.take taken, some (place + taken, cause)) := by
  induction datagrams generalizing place taken reversed with
  | nil => exact absurd hshort (Nat.not_lt_zero taken)
  | cons datagram datagrams ih =>
      cases taken with
      | zero =>
          rw [Nat.add_zero] at hrefused
          simp [sendFrom, hrefused]
      | succ taken =>
          have hfirst : socket place = .ok () := htaken 0 (Nat.succ_pos taken)
          have hrest : ∀ index < taken, socket (place + 1 + index) = .ok () := by
            intro index hindex
            rw [Nat.add_right_comm]
            exact htaken (index + 1) (Nat.succ_lt_succ hindex)
          rw [← Nat.add_assoc, Nat.add_right_comm] at hrefused
          rw [sendFrom, hfirst]
          simp only
          rw [ih (place + 1) (datagram :: reversed) (Nat.lt_of_succ_lt_succ hshort) hrest hrefused,
            List.take_succ_cons, List.reverse_cons, List.append_assoc, List.singleton_append,
            Nat.add_right_comm, Nat.add_assoc]

namespace Transmission

variable {transmission : Transmission} {report : Report} {stream : Stream} {socket : Socket}

theorem respond_of_taken (hstream : transmission.stream report = .ok stream)
    (htaken : ∀ index < stream.datagrams.length, socket index = .ok ()) (target : Endpoint) :
    transmission.respond socket target report = ⟨stream.datagrams, .ok stream.chunks.length⟩ := by
  have hsent := sendFrom_of_taken 0 [] stream.datagrams (by simpa using htaken)
  simp only [respond, hstream, hsent, List.reverse_nil, List.nil_append]

theorem respond_of_refused (hstream : transmission.stream report = .ok stream) {taken : ℕ}
    {cause : SystemError} (hshort : taken < stream.datagrams.length)
    (htaken : ∀ index < taken, socket index = .ok ()) (hrefused : socket taken = .error cause)
    (target : Endpoint) :
    transmission.respond socket target report =
      ⟨stream.datagrams.take taken, .error (.unsendable taken target cause)⟩ := by
  have hsent := sendFrom_of_refused 0 [] stream.datagrams hshort (by simpa using htaken)
    (by simpa using hrefused)
  simp only [respond, hstream, hsent, List.reverse_nil, List.nil_append, Nat.zero_add]

/-- A response gets as far as the socket takes its datagrams. -/
theorem sent_respond (hstream : transmission.stream report = .ok stream) {taken : ℕ}
    {cause : SystemError} (htaken : ∀ index < taken, socket index = .ok ())
    (hrefused : socket taken = .error cause) (target : Endpoint) :
    (transmission.respond socket target report).sent = stream.datagrams.take taken := by
  by_cases hshort : taken < stream.datagrams.length
  · rw [respond_of_refused hstream hshort htaken hrefused]
  · have hall : stream.datagrams.length ≤ taken := Nat.le_of_not_lt hshort
    rw [respond_of_taken hstream fun index hindex => htaken index (hindex.trans_le hall),
      List.take_of_length_le hall]

/-- The chunk size is one that a stream can have, and the rendered report is no longer than a
response may be. -/
structure Splits (transmission : Transmission) (report : Report) : Prop where
  pos : 0 < transmission.chunkSize
  size_le : transmission.chunkSize ≤ Wire.maxPayloadLength
  fits : report.render.length ≤ Wire.maxResponseLength

/-- The rendered report as it is cut. -/
def Splits.cutting (hsplits : transmission.Splits report) : Cutting where
  response := report.render
  size := ⟨transmission.chunkSize, hsplits.pos, hsplits.size_le⟩
  pad := transmission.padFinal
  fits := hsplits.fits

theorem Splits.stream_eq (hsplits : transmission.Splits report) :
    transmission.stream report = .ok hsplits.cutting.stream :=
  hsplits.cutting.split_eq

theorem completes_reply (hpos : 0 < transmission.chunkSize)
    (hsize : transmission.chunkSize ≤ Wire.maxPayloadLength)
    (hlength : report.render.length ≤ Wire.maxResponseLength) :
    Assembly.Completes (transmission.reply report) report.render := by
  have hsplits : transmission.Splits report := ⟨hpos, hsize, hlength⟩
  have hreply : transmission.reply report = hsplits.cutting.stream.datagrams := by
    unfold reply
    rw [hsplits.stream_eq]
  rw [hreply]
  exact hsplits.cutting.completes

end Transmission

end DatagramShell
