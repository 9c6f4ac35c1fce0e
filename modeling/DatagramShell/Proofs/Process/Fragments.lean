import DatagramShell.Proofs.Process.Output
import Mathlib.Tactic

/-!
# Output in whatever pieces it arrives

A pipe is read turn by turn until a read brings nothing.  Every byte in front of that read is taken
out of the pipe, and is either kept or counted as discarded.  What is kept depends on the bytes
alone, not on the turns in which they came, and so does the report on a process.  A process of which
there is a report is one whose input, output and end the system has dealt with without an error.
-/

namespace DatagramShell

namespace Capture

theorem size_take (limit : ℕ) (capture : Capture) (read : Bytes) :
    (capture.take limit read).size = capture.size + min read.length (limit - capture.size) := by
  rw [take, List.length_take, Nat.min_comm]

/-- A pipe brings these bytes up to the end of the data, in reads that are as large or small as it
likes.  Behind the end stands `rest`. -/
inductive Delivers : Reads → Bytes → Reads → Prop
  | closed : Delivers [] [] []
  | finished (rest : Reads) : Delivers rest [] (.ok [] :: rest)
  | read {rest reads : Reads} {bytes : Bytes} (piece : Bytes) (hpiece : piece ≠ [])
      (hlater : Delivers rest bytes reads) : Delivers rest (piece ++ bytes) (.ok piece :: reads)

/-- The bytes are read to the end of the data and not further.  Exactly the first ones are kept, as
many as there are up to the limit, and all others are discarded. -/
structure Exhausts (limit : ℕ) (bytes : Bytes) (rest : Reads) (drained : Draining) : Prop where
  unread : drained.unread = rest
  kept : drained.capture.bytes = bytes.take limit
  length_kept : drained.capture.bytes.length = min bytes.length limit
  discarded : drained.discarded = bytes.length - limit

/-- Every way to cut some bytes is a way to deliver them. -/
theorem delivers_of_pieces {pieces : List Bytes} (hpieces : ∀ piece ∈ pieces, piece ≠ [])
    (rest : Reads) :
    Delivers rest pieces.flatten (pieces.map .ok ++ .ok [] :: rest) ∧
      Delivers [] pieces.flatten (pieces.map .ok) := by
  induction pieces with
  | nil => exact ⟨.finished rest, .closed⟩
  | cons piece pieces ih =>
      have hpiece : piece ≠ [] := hpieces piece List.mem_cons_self
      obtain ⟨hfinished, hclosed⟩ :=
        ih fun later hmem => hpieces later (List.mem_cons_of_mem _ hmem)
      exact ⟨.read piece hpiece hfinished, .read piece hpiece hclosed⟩

/-- The loop makes all reads in front of the end and loses no byte. -/
theorem Delivers.exists_readToEnd {rest reads : Reads} {bytes : Bytes}
    (hdelivers : Delivers rest bytes reads) {limit : ℕ} {earlier : Bytes} {capture : Capture}
    (hkeeps : Keeps limit earlier capture) (discarded : ℕ) :
    ∃ drained, readToEnd limit capture discarded reads = .ok drained ∧
      Keeps limit (earlier ++ bytes) drained.capture ∧
      drained.capture.size + drained.discarded = capture.size + discarded + bytes.length ∧
      drained.unread = rest := by
  induction hdelivers generalizing earlier capture discarded with
  | closed => exact ⟨_, rfl, by simpa using hkeeps, rfl, rfl⟩
  | finished rest => exact ⟨⟨capture, discarded, rest⟩, rfl, by simpa using hkeeps, rfl, rfl⟩
  | read piece hpiece _ ih =>
      obtain ⟨drained, hread, hkept, hcount, hunread⟩ := ih (hkeeps.take piece)
        (discarded + (piece.length - min piece.length (limit - capture.size)))
      refine ⟨drained, ?_, ?_, hcount.trans ?_, hunread⟩
      · rw [readToEnd, if_neg hpiece]
        exact hread
      · rw [← List.append_assoc]
        exact hkept
      · rw [size_take, List.length_append]
        omega

theorem Delivers.exists_exhausts {rest reads : Reads} {bytes : Bytes}
    (hdelivers : Delivers rest bytes reads) (limit : ℕ) :
    ∃ drained, readToEnd limit {} 0 reads = .ok drained ∧ Exhausts limit bytes rest drained := by
  obtain ⟨drained, hread, ⟨hkept, hsize⟩, hcount, hunread⟩ :=
    hdelivers.exists_readToEnd (keeps_nothing limit) 0
  rw [List.nil_append] at hkept
  have hlength := congrArg List.length hkept
  rw [List.length_take] at hlength
  rw [hsize, hlength] at hcount
  -- The loop starts with nothing kept and nothing discarded, so its count is that of the bytes.
  change min limit bytes.length + _ = 0 + 0 + bytes.length at hcount
  exact ⟨drained, hread, hunread, hkept, hlength.trans (Nat.min_comm _ _), by omega⟩

theorem Delivers.drain_eq {rest reads : Reads} {bytes : Bytes}
    (hdelivers : Delivers rest bytes reads) (limit : ℕ) :
    drain limit reads = .ok (bytes.take limit) := by
  obtain ⟨drained, hread, hexhausts⟩ := hdelivers.exists_exhausts limit
  rw [drain, hread, ← hexhausts.kept]
  rfl

/-- A pipe that can be read to its end has delivered some bytes. -/
theorem exists_delivers {limit : ℕ} {capture : Capture} {discarded : ℕ} {reads : Reads}
    {drained : Draining} (hread : readToEnd limit capture discarded reads = .ok drained) :
    ∃ rest bytes, Delivers rest bytes reads := by
  induction reads generalizing capture discarded with
  | nil => exact ⟨[], [], .closed⟩
  | cons read reads ih =>
      cases read with
      | error cause => cases hread
      | ok piece =>
          by_cases hpiece : piece = []
          · exact ⟨reads, [], hpiece ▸ .finished reads⟩
          · rw [readToEnd, if_neg hpiece] at hread
            obtain ⟨rest, bytes, hlater⟩ := ih hread
            exact ⟨rest, piece ++ bytes, .read piece hpiece hlater⟩

theorem drain_eq_ok_iff {limit : ℕ} {reads : Reads} {kept : Bytes} :
    drain limit reads = .ok kept ↔
      ∃ rest bytes, Delivers rest bytes reads ∧ kept = bytes.take limit := by
  constructor
  · intro hdrain
    obtain ⟨drained, hread, _⟩ := exists_of_drain_eq_ok hdrain
    obtain ⟨rest, bytes, hdelivers⟩ := exists_delivers hread
    rw [hdelivers.drain_eq] at hdrain
    exact ⟨rest, bytes, hdelivers, (Except.ok.inj hdrain).symm⟩
  · rintro ⟨rest, bytes, hdelivers, rfl⟩
    exact hdelivers.drain_eq limit

end Capture

/-! ## How a process ends -/

namespace Ending

theorem toInt_code_exited (code : UInt8) : (exited code).code.toInt = code.toNat := by
  have hbound := code.toNat_lt
  exact Int32.toInt_ofInt_of_le (by omega) (by omega)

theorem toInt_code_signaled (signal : Fin 128) :
    (signaled signal).code.toInt = 128 + (signal.val : ℤ) := by
  have hbound := signal.isLt
  exact Int32.toInt_ofInt_of_le (by omega) (by omega)

/-- Only a process that exits by itself can name one of the two codes of a launch failure. -/
theorem isLaunchFailure_code_iff {ending : Ending} :
    Report.isLaunchFailure ending.code = true ↔ ending = .exited 126 ∨ ending = .exited 127 := by
  have hcodes : Report.isLaunchFailure ending.code = true ↔
      ending.code.toInt = 126 ∨ ending.code.toInt = 127 := by
    rw [Report.isLaunchFailure, Bool.or_eq_true, beq_iff_eq, beq_iff_eq, ← Int32.toInt_inj,
      ← Int32.toInt_inj]
    rfl
  rw [hcodes]
  cases ending with
  | exited code =>
      rw [toInt_code_exited, exited.injEq, exited.injEq, ← UInt8.toNat_inj, ← UInt8.toNat_inj]
      exact or_congr Int.ofNat_inj Int.ofNat_inj
  | signaled signal =>
      rw [toInt_code_signaled]
      simp
      omega
  | unexplained => decide

end Ending

namespace Outcome

/-- A process that puts out these bytes and ends in this way, without an error of the system.  It
may leave its input unread. -/
structure Runs (outcome : Outcome) (stdout stderr : Bytes) (ending : Ending) : Prop where
  stdin : outcome.stdin = .ok () ∨ outcome.stdin = .error .brokenPipe
  stdout : ∃ rest, Capture.Delivers rest stdout outcome.stdout
  stderr : ∃ rest, Capture.Delivers rest stderr outcome.stderr
  ending : outcome.ending = .ok ending

theorem feed_eq_ok_iff {outcome : Outcome} :
    outcome.feed = .ok () ↔ outcome.stdin = .ok () ∨ outcome.stdin = .error .brokenPipe := by
  unfold feed
  cases outcome.stdin with
  | ok _ => simp
  | error cause => cases cause <;> simp

/-- The report on a process depends on the bytes of its output and on the way it ended. -/
theorem Runs.report_eq {outcome : Outcome} {stdout stderr : Bytes} {ending : Ending}
    (hruns : outcome.Runs stdout stderr ending) (limit : ℕ) :
    outcome.report limit =
      .ok (.ofProcess ending.code (stdout.take limit) (stderr.take limit)) := by
  obtain ⟨_, hstdout⟩ := hruns.stdout
  obtain ⟨_, hstderr⟩ := hruns.stderr
  exact report_eq_ok_iff.mpr ⟨feed_eq_ok_iff.mpr hruns.stdin, _, _, ending,
    hstdout.drain_eq limit, hstderr.drain_eq limit, hruns.ending, rfl⟩

/-- There is a report exactly on the processes that run without an error of the system. -/
theorem exists_report_iff {outcome : Outcome} {limit : ℕ} :
    (∃ report, outcome.report limit = .ok report) ↔
      ∃ stdout stderr ending, outcome.Runs stdout stderr ending := by
  constructor
  · rintro ⟨report, hreport⟩
    obtain ⟨hfeed, _, _, ending, hout, herr, hending, _⟩ := report_eq_ok_iff.mp hreport
    obtain ⟨outRest, stdout, hstdout, _⟩ := Capture.drain_eq_ok_iff.mp hout
    obtain ⟨errRest, stderr, hstderr, _⟩ := Capture.drain_eq_ok_iff.mp herr
    exact ⟨stdout, stderr, ending, feed_eq_ok_iff.mp hfeed, ⟨outRest, hstdout⟩,
      ⟨errRest, hstderr⟩, hending⟩
  · rintro ⟨stdout, stderr, ending, hruns⟩
    exact ⟨_, hruns.report_eq limit⟩

end Outcome

theorem Report.ofProcess_eq_notLaunched_iff {ending : Ending} {stdout stderr : Bytes} :
    ofProcess ending.code stdout stderr = notLaunched ending.code ↔
      ending = .exited 126 ∨ ending = .exited 127 := by
  rw [← Ending.isLaunchFailure_code_iff, ofProcess]
  split
  · next hfailure => exact iff_of_true rfl hfailure
  · next hlaunched => exact iff_of_false (by simp [completed, notLaunched]) hlaunched

theorem Report.ofProcess_eq_completed_iff {ending : Ending} {stdout stderr : Bytes} :
    ofProcess ending.code stdout stderr = completed ending.code stdout stderr ↔
      ¬ (ending = .exited 126 ∨ ending = .exited 127) := by
  rw [← Ending.isLaunchFailure_code_iff, ofProcess]
  split
  · next hfailure =>
      exact iff_of_false (by simp [completed, notLaunched]) (not_not.mpr hfailure)
  · next hlaunched => exact iff_of_true rfl hlaunched

/-- However large a stream is and in whatever reads it comes, it is read to its end, and exactly its
first bytes up to the limit are kept.  The report says that nothing was launched exactly if the
process exits with one of the two codes for that; otherwise it has the code, which counts from 128
for a signal, and what was kept of both streams.  Other reads of the same bytes lead to the same
report. -/
theorem ShellConfig.report_independent_of_fragments (shell : ShellConfig) (launch : Launcher)
    (line stdout stderr : Bytes) (outcome : Outcome) (ending : Ending)
    (hruns : outcome.Runs stdout stderr ending)
    (hlaunch : launch shell.program shell.arguments line = .ok outcome) :
    let limit := shell.maxCapture
    let launchFailed := ending = .exited 126 ∨ ending = .exited 127
    (∀ bytes rest reads, Capture.Delivers rest bytes reads →
        ∃ drained, Capture.readToEnd limit {} 0 reads = .ok drained ∧
          Capture.Exhausts limit bytes rest drained) ∧
      (∀ code, ending = .exited code → ending.code.toInt = code.toNat) ∧
      (∀ signal, ending = .signaled signal → ending.code.toInt = 128 + (signal.val : ℤ)) ∧
      ∃ report, shell.runnerOn launch line = .ok report ∧
        (report = .notLaunched ending.code ↔ launchFailed) ∧
        (report = .completed ending.code (stdout.take limit) (stderr.take limit) ↔ ¬ launchFailed) ∧
        ∀ (other : Launcher) (otherOutcome : Outcome),
          otherOutcome.Runs stdout stderr ending →
          other shell.program shell.arguments line = .ok otherOutcome →
          shell.runnerOn other line = .ok report := by
  intro limit launchFailed
  refine ⟨?_, ?_, ?_, .ofProcess ending.code (stdout.take limit) (stderr.take limit), ?_,
    Report.ofProcess_eq_notLaunched_iff, Report.ofProcess_eq_completed_iff, ?_⟩
  · intro bytes rest reads hdelivers
    exact hdelivers.exists_exhausts limit
  · rintro code rfl
    exact Ending.toInt_code_exited code
  · rintro signal rfl
    exact Ending.toInt_code_signaled signal
  · rw [runnerOn, hlaunch]
    exact hruns.report_eq limit
  · intro other otherOutcome hother hotherLaunch
    rw [runnerOn, hotherLaunch]
    exact hother.report_eq limit

/-- Three bytes are kept.  The output straddles the limit in one case and meets it in the other, and
the process is killed by signal 9; in the second case it also leaves its input unread. -/
theorem ShellConfig.report_of_straddling_reads :
    let shell : ShellConfig := ⟨"sh", ["-s"], 3⟩
    let straddling : Reads := [.ok [97, 98], .ok [99, 100], .ok [], .ok [101]]
    let meeting : Reads := [.ok [97, 98, 99], .ok [100]]
    let launchOf : Except SystemError Unit → Reads → Launcher := fun stdin reads _ _ _ =>
      .ok ⟨stdin, reads, [.ok [120], .ok [121]], .ok (.signaled 9)⟩
    (∃ drained, Capture.readToEnd 3 {} 0 straddling = .ok drained ∧
        drained.capture.bytes = [97, 98, 99] ∧ drained.discarded = 1 ∧
        drained.unread = [.ok [101]]) ∧
      shell.runnerOn (launchOf (.ok ()) straddling) [108, 115] =
        .ok ⟨.ackOk, 137, [97, 98, 99], [120, 121]⟩ ∧
      shell.runnerOn (launchOf (.error .brokenPipe) meeting) [108, 115] =
        .ok ⟨.ackOk, 137, [97, 98, 99], [120, 121]⟩ := by
  intro shell straddling meeting launchOf
  have hout : Capture.Delivers [.ok [101]] [97, 98, 99, 100] straddling :=
    .read [97, 98] (by decide) (.read [99, 100] (by decide) (.finished _))
  have hother : Capture.Delivers [] [97, 98, 99, 100] meeting :=
    .read [97, 98, 99] (by decide) (.read [100] (by decide) .closed)
  have herr : Capture.Delivers [] [120, 121] [.ok [120], .ok [121]] :=
    .read [120] (by decide) (.read [121] (by decide) .closed)
  obtain ⟨hdrain, _, _, report, hreport, _, hcompleted, hsame⟩ :=
    shell.report_independent_of_fragments (launchOf (.ok ()) straddling) [108, 115]
      [97, 98, 99, 100] [120, 121] _ (.signaled 9)
      ⟨.inl rfl, ⟨_, hout⟩, ⟨_, herr⟩, rfl⟩ rfl
  obtain ⟨drained, hread, hexhausts⟩ := hdrain _ _ _ hout
  have hvalue : report = .completed 137 [97, 98, 99] [120, 121] := hcompleted.mpr (by decide)
  refine ⟨⟨drained, hread, hexhausts.kept, hexhausts.discarded, hexhausts.unread⟩, ?_, ?_⟩
  · rw [hreport, hvalue]
    rfl
  · rw [hsame (launchOf (.error .brokenPipe) meeting) _
      ⟨.inr rfl, ⟨_, hother⟩, ⟨_, herr⟩, rfl⟩ rfl, hvalue]
    rfl

end DatagramShell
