import DatagramShell.Process.Execution
import DatagramShell.Proofs.Text.Decimal
import Mathlib.Tactic

/-!
# The size of a report

Of a stream that arrives piece by piece exactly the first bytes are kept, however it is cut, and so
no more of them than the limit says.  Around the two streams a report puts its status word, a code
of at most eleven characters and markers of fixed length.
-/

namespace DatagramShell

namespace Capture

/-- What is kept of some bytes: all of them up to the limit. -/
def Keeps (limit : ℕ) (bytes : Bytes) (capture : Capture) : Prop :=
  capture.bytes = bytes.take limit ∧ capture.size = capture.bytes.length

theorem keeps_nothing (limit : ℕ) : Keeps limit [] {} := by
  simp [Keeps, Capture.bytes]

theorem Keeps.take {limit : ℕ} {bytes : Bytes} {capture : Capture}
    (hkeeps : Keeps limit bytes capture) (read : Bytes) :
    Keeps limit (bytes ++ read) (capture.take limit read) := by
  obtain ⟨hbytes, hsize⟩ := hkeeps
  have hroom : limit - capture.size = limit - bytes.length := by
    rw [hsize, hbytes, List.length_take]
    omega
  constructor
  · rw [List.take_append, ← hbytes, ← hroom]
    simp [Capture.bytes, Capture.take]
  · simp [Capture.bytes, Capture.take, hsize]

theorem Keeps.length_le {limit : ℕ} {bytes : Bytes} {capture : Capture}
    (hkeeps : Keeps limit bytes capture) : capture.bytes.length ≤ limit := by
  rw [hkeeps.1]
  exact List.length_take_le _ _

/-- However many reads a pipe allows, what is kept are the first of the bytes that they bring. -/
theorem Keeps.readToEnd {limit : ℕ} {bytes : Bytes} {capture : Capture} {discarded : ℕ}
    {reads : Reads} {drained : Draining} (hkeeps : Keeps limit bytes capture)
    (hdrained : Capture.readToEnd limit capture discarded reads = .ok drained) :
    ∃ more, Keeps limit (bytes ++ more) drained.capture := by
  induction reads generalizing bytes capture discarded with
  | nil =>
      cases hdrained
      exact ⟨[], by simpa using hkeeps⟩
  | cons read reads ih =>
      cases read with
      | error cause => cases hdrained
      | ok piece =>
          rw [Capture.readToEnd] at hdrained
          split at hdrained
          · cases hdrained
            exact ⟨[], by simpa using hkeeps⟩
          · obtain ⟨more, hmore⟩ := ih (hkeeps.take piece) hdrained
            refine ⟨piece ++ more, ?_⟩
            rw [← List.append_assoc]
            exact hmore

theorem exists_of_drain_eq_ok {limit : ℕ} {reads : Reads} {kept : Bytes}
    (hdrain : drain limit reads = .ok kept) :
    ∃ drained, Capture.readToEnd limit {} 0 reads = .ok drained ∧ drained.capture.bytes = kept := by
  unfold drain at hdrain
  cases hread : Capture.readToEnd limit {} 0 reads with
  | error cause =>
      rw [hread] at hdrain
      cases hdrain
  | ok drained =>
      rw [hread] at hdrain
      exact ⟨drained, rfl, Except.ok.inj hdrain⟩

theorem length_le_of_drain {limit : ℕ} {reads : Reads} {kept : Bytes}
    (hdrain : drain limit reads = .ok kept) : kept.length ≤ limit := by
  obtain ⟨drained, hread, rfl⟩ := exists_of_drain_eq_ok hdrain
  obtain ⟨_, hkeeps⟩ := (keeps_nothing limit).readToEnd hread
  exact hkeeps.length_le

end Capture

namespace Bytes

theorem length_ofString_of_ascii {text : List Char}
    (hascii : ∀ character ∈ text, character.toNat < 128) :
    (ofString (String.ofList text)).length = text.length := by
  rw [ofString, String.toList_ofList]
  induction text with
  | nil => rfl
  | cons first rest ih =>
      rw [List.flatMap_cons, Utf8.utf8EncodeChar_of_ascii (hascii first List.mem_cons_self),
        List.singleton_append, List.length_cons, List.length_cons,
        ih fun character hmem => hascii character (List.mem_cons_of_mem _ hmem)]

end Bytes

namespace Numeral

theorem length_ofNat_le {number : ℕ} (hsmall : number < 10 ^ 10) : (ofNat number).length ≤ 10 :=
  (Nat.length_toDigits_le_iff (by decide) (by decide)).mpr hsmall

theorem length_ofInt_le (code : Int32) : (ofInt code.toInt).length ≤ 11 := by
  have hlow := code.le_toInt
  have hhigh := code.toInt_lt
  cases hnumber : code.toInt with
  | ofNat magnitude =>
      rw [hnumber, Int.ofNat_eq_natCast] at hhigh
      have hdigits : (ofNat magnitude).length ≤ 10 := length_ofNat_le (by omega)
      exact hdigits.trans (by decide)
  | negSucc predecessor =>
      have hdigits : (ofNat (predecessor + 1)).length ≤ 10 := length_ofNat_le (by omega)
      exact Nat.succ_le_succ hdigits

end Numeral

namespace Report

theorem length_codeText_le (exitCode : Int32) : (codeText exitCode).length ≤ 11 := by
  have hascii : ∀ character ∈ Numeral.ofInt exitCode.toInt, character.toNat < 128 := by
    intro character hmem
    have hbounds := Numeral.mem_ofInt_bounds hmem
    omega
  rw [codeText, Bytes.length_ofString_of_ascii hascii]
  exact Numeral.length_ofInt_le exitCode

theorem length_word_le (status : Status) : (Bytes.ofString status.word).length ≤ 6 := by
  cases status <;> decide

/-- The longest frame around two streams: the word `ack-ok`, a code of eleven characters, the two
markers and three line feeds. -/
theorem length_render_le (report : Report) :
    report.render.length ≤ report.stdout.length + report.stderr.length + 35 := by
  have hword := length_word_le report.status
  have hcode := length_codeText_le report.exitCode
  have hstdout : stdoutMarker.length = 7 := by decide
  have hstderr : stderrMarker.length = 8 := by decide
  simp only [render, List.length_append, List.length_cons, List.length_nil, hstdout, hstderr]
  omega

theorem length_render_ofProcess_le (code : Int32) {limit : ℕ} {stdout stderr : Bytes}
    (hstdout : stdout.length ≤ limit) (hstderr : stderr.length ≤ limit) :
    (ofProcess code stdout stderr).render.length ≤ 2 * limit + 35 := by
  have hstreams : (ofProcess code stdout stderr).stdout.length ≤ limit ∧
      (ofProcess code stdout stderr).stderr.length ≤ limit := by
    unfold ofProcess
    split
    · exact ⟨Nat.zero_le _, Nat.zero_le _⟩
    · exact ⟨hstdout, hstderr⟩
  have hframe := (ofProcess code stdout stderr).length_render_le
  omega

end Report

namespace Outcome

/-- A report comes about if the shell takes its input, both streams can be read to their end and the
shell can be waited for. -/
theorem report_eq_ok_iff {limit : ℕ} {outcome : Outcome} {report : Report} :
    outcome.report limit = .ok report ↔
      outcome.feed = .ok () ∧ ∃ stdout stderr ending,
        Capture.drain limit outcome.stdout = .ok stdout ∧
        Capture.drain limit outcome.stderr = .ok stderr ∧ outcome.ending = .ok ending ∧
        report = .ofProcess ending.code stdout stderr := by
  unfold Outcome.report Outcome.drain
  cases outcome.feed with
  | error error => simp [bind, Except.bind]
  | ok _ =>
      cases Capture.drain limit outcome.stdout <;> cases Capture.drain limit outcome.stderr <;>
        cases outcome.ending <;>
          simp [bind, Except.bind, pure, Except.pure, Except.mapError, eq_comm]

theorem length_render_le_of_report {limit : ℕ} {outcome : Outcome} {report : Report}
    (hreport : outcome.report limit = .ok report) : report.render.length ≤ 2 * limit + 35 := by
  obtain ⟨_, stdout, stderr, ending, hstdout, hstderr, _, rfl⟩ := report_eq_ok_iff.mp hreport
  exact Report.length_render_ofProcess_le _ (Capture.length_le_of_drain hstdout)
    (Capture.length_le_of_drain hstderr)

end Outcome

/-- Whatever a command comes to, the report on it is at most this long. -/
theorem ShellConfig.length_render_le_of_runnerOn {shell : ShellConfig} {launch : Launcher}
    {line : Bytes} {report : Report} (hreport : shell.runnerOn launch line = .ok report) :
    report.render.length ≤ 2 * shell.maxCapture + 35 := by
  unfold runnerOn at hreport
  split at hreport
  · cases hreport
  · exact Outcome.length_render_le_of_report hreport

end DatagramShell
