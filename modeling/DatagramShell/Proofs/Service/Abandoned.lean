import DatagramShell.Proofs.Client.Deciding
import DatagramShell.Proofs.Service.Reply
import Mathlib.Tactic

/-!
# A response goes out as a whole or shows that it did not

A report that cannot be split is not begun to be sent.  One that can be goes out as a whole, or up
to the first datagram that the socket refuses, and the result says which.  Only the whole response
has the sentinel, so a client that gets a part of it waits in vain and never takes the part for the
response.
-/

namespace DatagramShell

/-- Of the datagrams of a stream those went out that the socket took, in order, and the result tells
how far that is. -/
structure Delivery.Tells (delivery : Delivery) (socket : Socket) (target : Endpoint)
    (stream : Stream) : Prop where
  splittable : ∀ cause, delivery.result ≠ .error (.unsplittable cause)
  begins : delivery.sent <+: stream.datagrams
  taken : ∀ place < delivery.sent.length, socket place = .ok ()
  ok_iff : ∀ count, delivery.result = .ok count ↔
    count = stream.chunks.length ∧ delivery.sent = stream.datagrams
  unsendable_iff : ∀ place destination cause,
    delivery.result = .error (.unsendable place destination cause) ↔
      destination = target ∧ place < stream.datagrams.length ∧
        delivery.sent = stream.datagrams.take place ∧ socket place = .error cause

/-- What goes out of a stream, but not as a whole, is without the sentinel. -/
theorem Delivery.Tells.mem_chunks {delivery : Delivery} {socket : Socket} {target : Endpoint}
    {stream : Stream} (htells : delivery.Tells socket target stream)
    (hfailed : ∀ count, delivery.result ≠ .ok count) {datagram : Bytes}
    (hmem : datagram ∈ delivery.sent) : datagram ∈ stream.chunks.map Chunk.encode := by
  have hpart : delivery.sent ≠ stream.datagrams :=
    fun hwhole => hfailed _ ((htells.ok_iff _).mpr ⟨rfl, hwhole⟩)
  rcases List.prefix_concat_iff.mp htells.begins with hwhole | hchunks
  · exact absurd hwhole hpart
  · exact hchunks.subset hmem

namespace Transmission

variable {transmission : Transmission} {report : Report} {stream : Stream}

theorem respond_of_not_splits (hsplits : ¬ transmission.Splits report) (socket : Socket)
    (target : Endpoint) :
    ∃ cause, transmission.respond socket target report = ⟨[], .error (.unsplittable cause)⟩ := by
  have hrefused : ∃ cause, transmission.stream report = .error cause := by
    unfold stream
    by_cases hsize : 0 < transmission.chunkSize ∧ transmission.chunkSize ≤ Wire.maxPayloadLength
    · have hlong : Wire.maxResponseLength < report.render.length :=
        Nat.lt_of_not_le fun hfits => hsplits ⟨hsize.1, hsize.2, hfits⟩
      exact ⟨_, Stream.split_of_lt_length hsize hlong⟩
    · exact ⟨_, Stream.split_of_size_invalid hsize⟩
  rcases hrefused with ⟨cause, hcause⟩
  exact ⟨cause, by rw [respond, hcause]⟩

theorem tells_respond (hstream : transmission.stream report = .ok stream) (socket : Socket)
    (target : Endpoint) :
    (transmission.respond socket target report).Tells socket target stream := by
  rcases socket.takes_or_refuses stream.datagrams.length with
    htaken | ⟨taken, hshort, cause, htaken, hrefused⟩
  · rw [respond_of_taken hstream htaken]
    constructor
    · intro cause herror
      cases herror
    · exact List.prefix_rfl
    · exact htaken
    · intro count
      simp [eq_comm]
    · intro place destination cause
      constructor
      · intro herror
        cases herror
      · rintro ⟨_, hplace, _, hcause⟩
        rw [htaken place hplace] at hcause
        cases hcause
  · rw [respond_of_refused hstream hshort htaken hrefused]
    constructor
    · intro other herror
      cases herror
    · exact List.take_prefix taken stream.datagrams
    · intro place hplace
      exact htaken place (hplace.trans_le (List.length_take_le _ _))
    · intro count
      simp only [reduceCtorEq, false_iff, not_and, List.take_eq_self_iff, Nat.not_le]
      exact fun _ => hshort
    · intro place destination other
      constructor
      · intro herror
        cases herror
        exact ⟨rfl, hshort, rfl, hrefused⟩
      · rintro ⟨rfl, hplace, hsent, hother⟩
        -- As many datagrams were sent as were taken, so `place` is the one that was refused.
        have hlength := congrArg List.length hsent
        rw [List.length_take_of_le hshort.le, List.length_take_of_le hplace.le] at hlength
        subst hlength
        rw [hrefused] at hother
        cases hother
        rfl

end Transmission

/-- A client that gets nothing but chunks of one stream gives up in the end, having counted the
distinct ones. -/
theorem Client.collect_of_chunks {cutting : Cutting} {replies : List Reply}
    (hchunks : ∀ datagram ∈ genuine replies, datagram ∈ cutting.stream.chunks.map Chunk.encode)
    (target : Endpoint) :
    collect target .fresh replies =
      .error (.timedOut (genuine replies).toFinset.card target) := by
  have hwhole : ∀ datagram ∈ genuine replies, Wire.received bufferLength datagram = id datagram :=
    fun datagram hmem => received_of_mem_datagrams (List.mem_append_left _ (hchunks datagram hmem))
  have hseen : seen replies = genuine replies :=
    calc
      seen replies = (genuine replies).map id := List.map_congr_left hwhole
      _ = genuine replies := List.map_id _
  have hfresh : Assembly.Collects cutting ∅ .fresh := .nothing
  rcases hfresh.after hchunks with ⟨hcollects, hanswers⟩
  rw [Finset.empty_union] at hcollects
  rw [collect_eq_outcome, hseen, outcome_of_answers_pending hanswers, hcollects.received_eq,
    Cutting.card_delivered hchunks]

/-- A report that cannot be split is not begun to be sent, whatever the socket would take.  Of every
other report so many datagrams go out as the socket takes, and the result tells whether that was the
whole response.  Where it was not, a client that has only these datagrams, in any order and however
often, times out. -/
theorem Transmission.respond_tells_how_far (transmission : Transmission) (socket : Socket)
    (target : Endpoint) (report : Report) :
    let delivery := transmission.respond socket target report
    ((∃ cause, delivery.result = .error (.unsplittable cause)) ↔ ¬ transmission.Splits report) ∧
      (¬ transmission.Splits report → delivery.sent = []) ∧
      (transmission.Splits report → ∃ stream, transmission.stream report = .ok stream ∧
        stream.chunks.length = max 1 (report.render.length ⌈/⌉ transmission.chunkSize) ∧
        delivery.Tells socket target stream) ∧
      ((∀ count, delivery.result ≠ .ok count) →
        ∀ (host : Host) (client : Client) (line : Bytes) (replies : List Reply),
          Client.rejection? line = none →
          host.send client.source client.target line.length = .ok () →
          (∀ datagram ∈ Client.genuine replies, datagram ∈ delivery.sent) →
          (client.execute host line replies).result =
            .error (.timedOut (Client.genuine replies).toFinset.card client.target)) := by
  intro delivery
  by_cases hsplits : transmission.Splits report
  · let cutting : Cutting := hsplits.cutting
    have hcount : cutting.stream.chunks.length =
        max 1 (report.render.length ⌈/⌉ transmission.chunkSize) :=
      cutting.length_chunks.trans cutting.length_pieces
    have htells : delivery.Tells socket target cutting.stream :=
      tells_respond hsplits.stream_eq socket target
    refine ⟨?_, fun hnot => absurd hsplits hnot,
      fun _ => ⟨_, hsplits.stream_eq, hcount, htells⟩, ?_⟩
    · simp [hsplits, htells.splittable]
    · intro hfailed host client line replies haccepted hsend hreplies
      have hchunks : ∀ datagram ∈ Client.genuine replies,
          datagram ∈ cutting.stream.chunks.map Chunk.encode :=
        fun datagram hmem => htells.mem_chunks hfailed (hreplies datagram hmem)
      simp only [Client.execute_eq, haccepted, hsend, Client.collect_of_chunks hchunks]
  · rcases respond_of_not_splits hsplits socket target with ⟨cause, hdelivery⟩
    have hsent : delivery.sent = [] := congrArg Delivery.sent hdelivery
    have hresult : delivery.result = .error (.unsplittable cause) :=
      congrArg Delivery.result hdelivery
    refine ⟨?_, fun _ => hsent, fun hyes => absurd hyes hsplits, ?_⟩
    · simp [hsplits, hresult]
    · intro _ host client line replies haccepted hsend hreplies
      have hnone : Client.genuine replies = [] := by
        apply List.eq_nil_iff_forall_not_mem.mpr
        intro datagram hmem
        have hnothing := hreplies datagram hmem
        rw [hsent] at hnothing
        exact List.not_mem_nil hnothing
      simp only [Client.execute_eq, haccepted, hsend, Client.collect_eq_outcome, Client.seen, hnone]
      rfl

/-- The report of a shell that was not launched comes in two chunks.  The socket takes both, but
refuses the sentinel, so that the client counts them and gives up.  Of chunks without a payload
there is nothing to send. -/
theorem Transmission.respond_tells_at_sentinel :
    let target : Endpoint := { address := .v4 ⟨127, 0, 0, 1⟩, port := 40000 }
    let client : Client := { source := target, target := Invocation.defaultTarget }
    let socket : Socket := fun place =>
      if place = 2 then .error .networkUnreachable else .ok ()
    let first : Bytes := [0, 0, 0, 0, 0, 0, 0, 25] ++ Report.failed.render.take 16
    let second : Bytes := [0, 0, 0, 1, 0, 0, 0, 25] ++ Report.failed.render.drop 16
    let replies : List Reply := [⟨true, second⟩, ⟨true, first⟩, ⟨false, []⟩, ⟨true, second⟩]
    let delivery := Transmission.respond ⟨16, false⟩ socket target Report.failed
    delivery.result = .error (.unsendable 2 target .networkUnreachable) ∧
      delivery.sent = [first, second] ∧
      (client.execute .connected [108, 115] replies).result =
        .error (.timedOut 2 client.target) ∧
      (Transmission.respond ⟨0, false⟩ socket target Report.failed).sent = [] := by
  intro target client socket first second replies delivery
  let transmission : Transmission := ⟨16, false⟩
  rcases transmission.respond_tells_how_far socket target Report.failed with
    ⟨_, _, hsplits, htimeout⟩
  rcases hsplits ⟨by decide, by decide, by decide⟩ with ⟨stream, hstream, _, htells⟩
  have hsplit : transmission.stream Report.failed =
      .ok ⟨[⟨0, 25, Report.failed.render.take 16⟩, ⟨1, 25, Report.failed.render.drop 16⟩]⟩ := by
    decide +kernel
  rw [hsplit] at hstream
  cases hstream
  have hsent : delivery.sent = [first, second] := by decide +kernel
  have hresult : delivery.result = .error (.unsendable 2 target .networkUnreachable) :=
    (htells.unsendable_iff 2 target .networkUnreachable).mpr ⟨rfl, by decide, hsent, rfl⟩
  refine ⟨hresult, hsent, ?_, ?_⟩
  · have hfailed : ∀ count, delivery.result ≠ .ok count := by
      rw [hresult]
      exact fun count hok => by cases hok
    have hreplies : ∀ datagram ∈ Client.genuine replies, datagram ∈ delivery.sent := by
      rw [hsent]
      decide
    exact htimeout hfailed .connected client [108, 115] replies (by decide) (by decide) hreplies
  · rcases Transmission.respond_tells_how_far ⟨0, false⟩ socket target Report.failed with
      ⟨_, hnothing, _⟩
    exact hnothing fun hsplits => absurd hsplits.pos (by decide)

end DatagramShell
