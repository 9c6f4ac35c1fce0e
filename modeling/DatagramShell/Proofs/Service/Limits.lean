import DatagramShell.Proofs.Process.Output
import DatagramShell.Proofs.Service.Options
import DatagramShell.Proofs.Service.Reply
import Mathlib.Tactic

/-!
# Every response of a configured service fits the wire

However the service is configured, two streams at their cap and the frame around them are no longer
than a response may be.  So no report is refused by the splitting, no number in a header wraps
around, no datagram is larger than 1024 bytes, and whoever collects the datagrams gets the report.
-/

namespace DatagramShell

theorem Cutting.length_le_of_mem_datagrams (cutting : Cutting) {datagram : Bytes}
    (hmem : datagram ∈ cutting.stream.datagrams) :
    datagram.length ≤ Wire.headerLength + cutting.size.size := by
  rw [Stream.datagrams, List.mem_append, List.mem_map, List.mem_singleton] at hmem
  rcases hmem with ⟨chunk, hchunk, rfl⟩ | rfl
  · obtain ⟨place, piece, hpiece, rfl⟩ := cutting.mem_chunks_iff.mp hchunk
    have hlength : piece.length ≤ cutting.size.size :=
      Stream.length_le_of_mem_cut (List.mem_of_getElem? hpiece)
    rw [Chunk.length_encode]
    exact Nat.add_le_add_left hlength Wire.headerLength
  · exact Nat.le_add_right Wire.headerLength _

namespace Transmission

/-- The report goes over the wire as this stream. -/
structure Carries (transmission : Transmission) (report : Report) (stream : Stream) : Prop where
  fits : report.render.length ≤ Wire.maxResponseLength
  splits : transmission.stream report = .ok stream
  /-- Neither the length nor any sequence number wraps around. -/
  numbers : ∀ (place : ℕ) (chunk : Chunk), stream.chunks[place]? = some chunk →
    chunk.sequence.toNat = place ∧ chunk.total.toNat = report.render.length
  datagrams_le : ∀ datagram ∈ stream.datagrams, datagram.length ≤ 1024
  completes : Assembly.Completes stream.datagrams report.render

theorem exists_carries {transmission : Transmission}
    (hsize : transmission.chunkSize = ServiceConfig.defaultChunkSize) {report : Report}
    (hfits : report.render.length ≤ Wire.maxResponseLength) :
    ∃ stream, transmission.Carries report stream := by
  have hpos : 0 < transmission.chunkSize := by rw [hsize]; decide
  have hle : transmission.chunkSize ≤ Wire.maxPayloadLength := by rw [hsize]; decide
  have hsplits : transmission.Splits report := ⟨hpos, hle, hfits⟩
  let cutting : Cutting := hsplits.cutting
  refine ⟨cutting.stream, hfits, hsplits.stream_eq, ?_, ?_, cutting.completes⟩
  · intro place chunk hchunk
    exact cutting.chunk_numbers hchunk
  · intro datagram hmem
    have hlength := cutting.length_le_of_mem_datagrams hmem
    have htotal : Wire.headerLength + cutting.size.size = 1024 := by
      change Wire.headerLength + transmission.chunkSize = 1024
      rw [hsize]
      decide
    exact hlength.trans_eq htotal

end Transmission

/-- Any command line and environment that are understood configure a queue of 1 to 1024 places and a
cap under which everything that is ever sent back goes over the wire: the report on a command,
whatever its process comes to and whatever code it has, and what is said of a command without a
report and of a refused one. -/
theorem ServiceConfig.carries_every_report (arguments : List String)
    (environment : String → Option String) (config : ServiceConfig)
    (hconfig : ofArguments arguments environment = .ok config) :
    (1 ≤ config.queueDepth ∧ config.queueDepth ≤ 1024) ∧
      config.shell.maxCapture ≤ maxMaxCapture ∧
      (∀ launch line report, config.shell.runnerOn launch line = .ok report →
        ∃ stream, config.transmission.Carries report stream) ∧
      (∀ (code : Int32) (stdout stderr : Bytes), stdout.length ≤ config.shell.maxCapture →
        stderr.length ≤ config.shell.maxCapture →
          ∃ stream, config.transmission.Carries (.ofProcess code stdout stderr) stream) ∧
      (∃ stream, config.transmission.Carries Report.failed stream) ∧
      ∃ stream, config.transmission.Carries Report.busy stream := by
  obtain ⟨settings, hrange, rfl⟩ := exists_settings hconfig
  obtain ⟨hlow, hhigh, hcapture⟩ := hrange.config
  have hroom : 2 * maxMaxCapture + 35 ≤ Wire.maxResponseLength := by decide
  refine ⟨⟨hlow, hhigh⟩, hcapture, ?_, ?_, ?_, ?_⟩
  · intro launch line report hreport
    have hlength := ShellConfig.length_render_le_of_runnerOn hreport
    exact Transmission.exists_carries rfl (by omega)
  · intro code stdout stderr hstdout hstderr
    have hlength := Report.length_render_ofProcess_le code hstdout hstderr
    exact Transmission.exists_carries rfl (by omega)
  · exact Transmission.exists_carries rfl (by decide)
  · exact Transmission.exists_carries rfl (by decide)

/-- The largest cap, with a queue depth from the environment, and a process that is killed after
some output. -/
theorem ServiceConfig.carries_report_at_largest_cap :
    let environment := fun name : String =>
      if name = "EXECUTOR_QUEUE_DEPTH" then some "1024" else none
    let launch : Launcher := fun _ _ _ =>
      .ok ⟨.ok (), [], [.ok [111, 112], .ok [115]], .ok (.signaled 9)⟩
    ∃ config, ofArguments ["--max-capture-bytes=33553408"] environment = .ok config ∧
      config.queueDepth = 1024 ∧ config.shell.maxCapture = maxMaxCapture ∧
      config.shell.runnerOn launch [] = .ok ⟨.ackOk, 137, [], [111, 112, 115]⟩ ∧
      (∃ stream, config.transmission.Carries ⟨.ackOk, 137, [], [111, 112, 115]⟩ stream) ∧
      ∃ stream, config.transmission.Carries (.ofProcess (-2147483648) [] [111]) stream := by
  intro environment launch
  let settings : ServiceSettings := { queueDepth := some 1024, maxCapture := some 33553408 }
  have hconfig : ofArguments ["--max-capture-bytes=33553408"] environment =
      .ok settings.config := by decide +kernel
  obtain ⟨_, _, hrunner, hprocess, _⟩ :=
    carries_every_report _ environment settings.config hconfig
  have hreport : settings.config.shell.runnerOn launch [] =
      .ok ⟨.ackOk, 137, [], [111, 112, 115]⟩ := by decide +kernel
  exact ⟨settings.config, hconfig, rfl, rfl, hreport, hrunner launch [] _ hreport,
    hprocess _ _ _ (by decide) (by decide)⟩

end DatagramShell
