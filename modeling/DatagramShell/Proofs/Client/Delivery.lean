import DatagramShell.Client.Exchange
import DatagramShell.Proofs.Report.RoundTrip
import DatagramShell.Proofs.Stream.Loss
import Mathlib.Tactic
import Mathlib.Data.List.TakeWhile

/-!
# Delivery over a network that loses, repeats and reorders

What a client makes of the datagrams of one stream, with datagrams of strangers in between.  The
strangers are passed over, every chunk of the stream is stored, and the first sentinel decides: up
to it, the client holds exactly the chunks delivered so far.  So the outcome depends on two
questions only, whether a sentinel comes, and whether all chunks come before it.
-/

namespace DatagramShell

namespace Client

/-- The datagrams that come from the service that was asked. -/
def genuine (replies : List Reply) : List Bytes :=
  (replies.filter (·.fromTarget)).map (·.datagram)

/-- What is left of them in front of the first sentinel. -/
def beforeSentinel (replies : List Reply) : List Bytes :=
  (genuine replies).takeWhile (· ≠ Wire.sentinel)

def conclude : Except AssemblyError Bytes → Except ExecuteError Report
  | .error fault => .error (.assembly fault)
  | .ok response => (Report.parse response).mapError .framing

theorem genuine_cons (reply : Reply) (replies : List Reply) :
    genuine (reply :: replies) =
      if reply.fromTarget then reply.datagram :: genuine replies else genuine replies := by
  unfold genuine
  rw [List.filter_cons]
  split <;> rfl

/-- The client's buffer holds every datagram of a stream. -/
theorem received_of_mem_datagrams {cutting : Cutting} {datagram : Bytes}
    (hmem : datagram ∈ cutting.stream.datagrams) :
    Wire.received bufferLength datagram = datagram := by
  apply List.take_of_length_le
  rcases List.mem_append.mp hmem with hchunk | hsentinel
  · rcases List.mem_map.mp hchunk with ⟨_, hmemChunks, rfl⟩
    obtain ⟨place, piece, hpiece, rfl⟩ := cutting.mem_chunks_iff.mp hmemChunks
    have hfits := cutting.length_le_of_mem_pieces (List.mem_of_getElem? hpiece)
    unfold Wire.maxPayloadLength at hfits
    rw [Chunk.length_encode, bufferLength]
    simp only [Cutting.chunk]
    omega
  · rw [List.mem_singleton.mp hsentinel]
    decide

theorem collect_nil (target : Endpoint) (assembly : Assembly) :
    collect target assembly [] = .error (.timedOut assembly.received target) :=
  rfl

theorem collect_cons (target : Endpoint) (assembly : Assembly) (reply : Reply)
    (replies : List Reply) :
    collect target assembly (reply :: replies) =
      if reply.fromTarget then
        match assembly.push (Wire.received bufferLength reply.datagram) with
        | (.error fault, _) => .error (.assembly fault)
        | (.ok .pending, next) => collect target next replies
        | (.ok (.complete response), _) =>
          match Report.parse response with
          | .error fault => .error (.framing fault)
          | .ok report => .ok report
      else collect target assembly replies :=
  rfl

theorem execute_eq (host : Host) (client : Client) (line : Bytes) (replies : List Reply) :
    client.execute host line replies =
      match rejection? line with
      | some rejection => ⟨none, .error rejection⟩
      | none =>
        match host.send client.source client.target line.length with
        | .error cause => ⟨none, .error (.unsendable client.target cause)⟩
        | .ok () => ⟨some line, collect client.target .fresh replies⟩ :=
  rfl

theorem collect_chunk {assembly next : Assembly} {reply : Reply} (target : Endpoint)
    (replies : List Reply) (hgenuine : reply.fromTarget = true)
    (hreceived : Wire.received bufferLength reply.datagram = reply.datagram)
    (hpush : assembly.push reply.datagram = (.ok .pending, next)) :
    collect target assembly (reply :: replies) = collect target next replies := by
  rw [collect_cons, if_pos hgenuine, hreceived, hpush]

theorem collect_sentinel {assembly : Assembly} {reply : Reply} (target : Endpoint)
    (replies : List Reply) (hgenuine : reply.fromTarget = true)
    (hsentinel : reply.datagram = Wire.sentinel) (hopen : assembly.finished = false) :
    collect target assembly (reply :: replies) = conclude assembly.response := by
  have hreceived : Wire.received bufferLength reply.datagram = Wire.sentinel := by
    rw [hsentinel]
    decide
  rw [collect_cons, if_pos hgenuine, hreceived, Assembly.push_sentinel hopen]
  cases hresponse : assembly.response with
  | error fault => rfl
  | ok response =>
      simp only [Except.map, conclude]
      cases Report.parse response <;> rfl

/-- The chunks in front of the first sentinel are collected; the sentinel, or the end of the
replies, then decides on what has been collected. -/
theorem collect_of_collects {cutting : Cutting} {places : Finset ℕ} {assembly : Assembly}
    (hcollects : Assembly.Collects cutting places assembly) (target : Endpoint)
    {replies : List Reply}
    (hreplies : ∀ datagram ∈ genuine replies, datagram ∈ cutting.stream.datagrams) :
    ∃ final,
      Assembly.Collects cutting
          (places ∪ cutting.stream.delivered (beforeSentinel replies)) final ∧
        collect target assembly replies =
          if Wire.sentinel ∈ genuine replies then conclude final.response
          else .error (.timedOut final.received target) := by
  induction replies generalizing places assembly with
  | nil =>
      refine ⟨assembly, ?_, by simp [genuine, collect_nil]⟩
      simpa [beforeSentinel, genuine] using hcollects
  | cons reply replies ih =>
      by_cases hgenuine : reply.fromTarget = true
      · have hcons : genuine (reply :: replies) = reply.datagram :: genuine replies := by
          rw [genuine_cons, if_pos hgenuine]
        rw [hcons] at hreplies
        have hmem := hreplies reply.datagram List.mem_cons_self
        have hrest : ∀ datagram ∈ genuine replies, datagram ∈ cutting.stream.datagrams :=
          fun datagram hdatagram => hreplies datagram (List.mem_cons_of_mem _ hdatagram)
        by_cases hsentinel : reply.datagram = Wire.sentinel
        · refine ⟨assembly, ?_, ?_⟩
          · simpa [beforeSentinel, hcons, hsentinel] using hcollects
          · rw [collect_sentinel target replies hgenuine hsentinel hcollects.finished_eq,
              if_pos (by rw [hcons, hsentinel]; exact List.mem_cons_self)]
        · obtain ⟨chunk, hchunk, hencode⟩ : ∃ chunk ∈ cutting.stream.chunks,
              chunk.encode = reply.datagram := by
            rcases List.mem_append.mp hmem with hchunk | hlast
            · exact List.mem_map.mp hchunk
            · exact absurd (List.mem_singleton.mp hlast) hsentinel
          obtain ⟨place, piece, hpiece, rfl⟩ := cutting.mem_chunks_iff.mp hchunk
          obtain ⟨next, hpush, hnext⟩ := hcollects.push hpiece
          obtain ⟨final, hfinal, hcollect⟩ := ih hnext hrest
          rw [hencode] at hpush
          have hbefore : beforeSentinel (reply :: replies) =
              (cutting.chunk place piece).encode :: beforeSentinel replies := by
            rw [beforeSentinel, hcons, List.takeWhile_cons_of_pos (by simpa using hsentinel),
              hencode, beforeSentinel]
          refine ⟨final, ?_, ?_⟩
          · rw [hbefore, Cutting.delivered_cons hpiece, Finset.union_insert,
              ← Finset.insert_union]
            exact hfinal
          · rw [collect_chunk target replies hgenuine (received_of_mem_datagrams hmem) hpush,
              hcollect]
            have hiff : Wire.sentinel ∈ genuine (reply :: replies) ↔
                Wire.sentinel ∈ genuine replies := by
              rw [hcons, List.mem_cons, or_iff_right (Ne.symm hsentinel)]
            simp only [hiff]
      · have hskip : genuine (reply :: replies) = genuine replies := by
          rw [genuine_cons, if_neg hgenuine]
        rw [hskip] at hreplies
        obtain ⟨final, hfinal, hcollect⟩ := ih hcollects hreplies
        refine ⟨final, ?_, ?_⟩
        · unfold beforeSentinel
          rw [hskip]
          exact hfinal
        · rw [collect_cons, if_neg hgenuine, hskip]
          exact hcollect

/-- A client that has its line sent gets the report that was rendered, as it is read back, once all
chunks of its stream have come before a sentinel.  A sentinel that comes earlier makes an error of
the assembly, and without one the client gives up and counts the distinct chunks. -/
theorem execute_of_stream (report : Report) (size : ℕ) (pad : Bool)
    (hlength : report.render.length ≤ Wire.maxResponseLength) (hpos : 0 < size)
    (hsize : size ≤ Wire.maxPayloadLength) (host : Host) (client : Client) (line : Bytes)
    (haccepted : rejection? line = none)
    (hsend : host.send client.source client.target line.length = .ok ()) :
    ∃ stream parsed, Stream.split report.render size pad = .ok stream ∧
      Report.parse report.render = .ok parsed ∧
      (¬ Report.stderrMarker <:+: report.stdout ++ [Bytes.lineFeed] → parsed = report) ∧
      ∀ replies : List Reply,
        (∀ reply ∈ replies, reply.fromTarget = true → reply.datagram ∈ stream.datagrams) →
        let result := (client.execute host line replies).result
        let complete := ∀ chunk ∈ stream.chunks, chunk.encode ∈ beforeSentinel replies
        (Wire.sentinel ∉ genuine replies →
            result = .error
              (.timedOut (stream.delivered (genuine replies)).card client.target)) ∧
          (Wire.sentinel ∈ genuine replies → complete → result = .ok parsed) ∧
          (Wire.sentinel ∈ genuine replies → ¬ complete →
            ∃ fault, result = .error (.assembly fault)) ∧
          ∀ other, result = .ok other → other = parsed := by
  let cutting : Cutting := ⟨report.render, ⟨size, hpos, hsize⟩, pad, hlength⟩
  obtain ⟨stdout, stderr, hparse, _, hsame⟩ := Report.parse_render report
  set parsed : Report := ⟨report.status, report.exitCode, stdout, stderr⟩
  refine ⟨cutting.stream, parsed, cutting.split_eq, hparse, hsame.mpr, ?_⟩
  intro replies hreplies result complete
  have hgenuine : ∀ datagram ∈ genuine replies, datagram ∈ cutting.stream.datagrams := by
    intro datagram hdatagram
    rcases List.mem_map.mp hdatagram with ⟨reply, hreply, rfl⟩
    rcases List.mem_filter.mp hreply with ⟨hmem, htarget⟩
    exact hreplies reply hmem htarget
  have hfresh : Assembly.Collects cutting ∅ .fresh := .nothing
  obtain ⟨final, hfinal, hcollect⟩ := collect_of_collects hfresh client.target hgenuine
  rw [Finset.empty_union] at hfinal
  have hresult : result = if Wire.sentinel ∈ genuine replies then conclude final.response
      else .error (.timedOut final.received client.target) := by
    simp only [result, execute_eq, haccepted, hsend, hcollect]
  have hcomplete : cutting.stream.delivered (beforeSentinel replies) =
      Finset.range cutting.pieces.length ↔ complete := cutting.delivered_eq_range_iff
  have htimeout : Wire.sentinel ∉ genuine replies → result = .error
      (.timedOut (cutting.stream.delivered (genuine replies)).card client.target) := by
    intro hnone
    have hall : beforeSentinel replies = genuine replies := by
      apply List.takeWhile_eq_self_iff.mpr
      intro datagram hdatagram
      simpa using ne_of_mem_of_not_mem hdatagram hnone
    rw [hresult, if_neg hnone, hfinal.received_eq, hall]
  have hreturn : Wire.sentinel ∈ genuine replies → complete → result = .ok parsed := by
    intro hsome hall
    rw [hcomplete.mpr hall] at hfinal
    rw [hresult, if_pos hsome, hfinal.response_of_all]
    simp only [conclude, cutting, hparse]
    rfl
  have hrefuse : Wire.sentinel ∈ genuine replies → ¬ complete →
      ∃ fault, result = .error (.assembly fault) := by
    intro hsome hlost
    obtain ⟨fault, hfault⟩ := hfinal.exists_response_error (mt hcomplete.mp hlost)
    exact ⟨fault, by rw [hresult, if_pos hsome, hfault]; rfl⟩
  refine ⟨htimeout, hreturn, hrefuse, ?_⟩
  intro other hother
  by_cases hsome : Wire.sentinel ∈ genuine replies
  · by_cases hall : complete
    · rw [hreturn hsome hall] at hother
      exact (Except.ok.inj hother).symm
    · obtain ⟨fault, hfault⟩ := hrefuse hsome hall
      rw [hfault] at hother
      cases hother
  · rw [htimeout hsome] at hother
    cases hother

/-- The report of a shell that was not launched comes in two chunks. -/
theorem execute_of_two_chunks :
    let first : Bytes := [0, 0, 0, 0, 0, 0, 0, 25] ++ Report.failed.render.take 16
    let second : Bytes := [0, 0, 0, 1, 0, 0, 0, 25] ++ Report.failed.render.drop 16
    let client : Client :=
      { source := { address := .v4 ⟨127, 0, 0, 1⟩, port := 40000 }
        target := { address := .v4 ⟨127, 0, 0, 1⟩, port := Wire.defaultPort } }
    let result := fun replies => (client.execute .connected [108, 115] replies).result
    result [⟨true, second⟩, ⟨false, Wire.sentinel⟩, ⟨true, first⟩, ⟨true, second⟩,
        ⟨true, Wire.sentinel⟩] = .ok Report.failed ∧
      (∃ fault, result [⟨true, second⟩, ⟨true, Wire.sentinel⟩, ⟨true, first⟩] =
        .error (.assembly fault)) ∧
      result [⟨true, first⟩, ⟨false, [0]⟩, ⟨true, first⟩] =
        .error (.timedOut 1 client.target) := by
  intro first second client result
  obtain ⟨stream, parsed, hstream, _, hparsed, hresult⟩ :=
    execute_of_stream Report.failed 16 false (by decide) (by decide) (by decide) .connected client
      [108, 115] (by decide) (by decide)
  have hsplit : Stream.split Report.failed.render 16 false =
      .ok ⟨[⟨0, 25, Report.failed.render.take 16⟩, ⟨1, 25, Report.failed.render.drop 16⟩]⟩ := by
    decide +kernel
  rw [hsplit] at hstream
  cases hstream
  rw [hparsed (by decide)] at hresult
  obtain ⟨_, hreturn, _⟩ := hresult [⟨true, second⟩, ⟨false, Wire.sentinel⟩, ⟨true, first⟩,
    ⟨true, second⟩, ⟨true, Wire.sentinel⟩] (by decide)
  obtain ⟨_, _, hrefuse, _⟩ :=
    hresult [⟨true, second⟩, ⟨true, Wire.sentinel⟩, ⟨true, first⟩] (by decide)
  obtain ⟨htimeout, _⟩ := hresult [⟨true, first⟩, ⟨false, [0]⟩, ⟨true, first⟩] (by decide)
  exact ⟨hreturn (by decide) (by decide), hrefuse (by decide) (by decide), htimeout (by decide)⟩

end Client

end DatagramShell
