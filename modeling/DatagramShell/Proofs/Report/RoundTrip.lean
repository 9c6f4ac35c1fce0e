import DatagramShell.Report
import DatagramShell.Proofs.Text.Decimal
import DatagramShell.Proofs.Text.Search
import Mathlib.Tactic

/-!
# Reading back what was rendered

A rendered report is always read back, with its status and its code.  Only the border between the
two output sections can move: the reader takes the first marker, which is the one that was written
unless another one begins inside the captured output.  Such a marker lies in the output as a whole,
or it shares its last line feed with the marker that was written, since that line feed is the only
border of the marker.
-/

namespace DatagramShell

namespace Report

/-! ## The two lines in front -/

theorem lineFeed_notMem_word (status : Status) :
    Bytes.lineFeed ∉ Bytes.ofString status.word := by
  cases status <;> decide

theorem codeText_ascii (exitCode : Int32) :
    ∀ character ∈ Numeral.ofInt exitCode.toInt, character.toNat < 128 := by
  intro character hmem
  have hbounds := Numeral.mem_ofInt_bounds hmem
  omega

theorem lineFeed_notMem_codeText (exitCode : Int32) : Bytes.lineFeed ∉ codeText exitCode := by
  intro hmem
  rw [codeText, Bytes.ofString, String.toList_ofList, List.mem_flatMap] at hmem
  rcases hmem with ⟨character, hcharacter, hbyte⟩
  rw [Utf8.utf8EncodeChar_of_ascii (codeText_ascii exitCode character hcharacter),
    List.mem_singleton] at hbyte
  have hbounds := Numeral.mem_ofInt_bounds hcharacter
  have hvalue := congrArg UInt8.toNat hbyte
  rw [UInt8.toNat_ofNat', show Bytes.lineFeed.toNat = 10 from rfl] at hvalue
  omega

theorem readStatus_word (status : Status) (rest : Bytes) :
    readStatus (Bytes.ofString status.word ++ Bytes.lineFeed :: rest) = .ok (status, rest) := by
  simp only [readStatus, Bytes.splitLine?_append (lineFeed_notMem_word status),
    Status.ofWord?_word]

theorem readCode_codeText (exitCode : Int32) (rest : Bytes) :
    readCode (codeText exitCode ++ Bytes.lineFeed :: rest) = .ok (exitCode, rest) := by
  have hdecode : Utf8.decode (codeText exitCode) = Numeral.ofInt exitCode.toInt :=
    Utf8.decode_ofString (codeText_ascii exitCode)
  simp only [readCode, Bytes.splitLine?_append (lineFeed_notMem_codeText exitCode), hdecode,
    Numeral.int32?_ofInt]

/-! ## The output sections -/

theorem stderrMarker_eq : stderrMarker = [10, 115, 116, 100, 101, 114, 114, 10] := by
  decide

theorem length_stderrMarker : stderrMarker.length = 8 := by
  rw [stderrMarker_eq]
  rfl

/-- The marker overlaps itself in its outer line feeds only. -/
theorem stderrMarker_border {shift : Nat} (hpos : 0 < shift) (hshift : shift < 8)
    (hborder : stderrMarker.drop shift <+: stderrMarker) : shift = 7 := by
  rw [stderrMarker_eq] at hborder
  revert hborder
  interval_cases shift <;> decide

/-- A marker begins inside the captured output exactly if it lies in the output and the line feed
behind it, whatever follows the marker that was written. -/
theorem marker_in_stdout_iff (stdout tail : Bytes) :
    (∃ position < stdout.length,
        stderrMarker <+: (stdout ++ (stderrMarker ++ tail)).drop position) ↔
      stderrMarker <:+: stdout ++ [Bytes.lineFeed] := by
  have hbegin : stdout ++ [Bytes.lineFeed] <+: stdout ++ (stderrMarker ++ tail) := by
    rw [List.prefix_append_right_inj, stderrMarker_eq]
    exact ⟨_, rfl⟩
  constructor
  · intro hinside
    rcases hinside with ⟨position, hposition, hstarts⟩
    -- Either the marker ends with the output, or it reaches into the one written, by one byte.
    have hend : position + 8 ≤ stdout.length + 1 := by
      by_contra hbeyond
      have hborder := Bytes.border_of_overlap hposition.le hstarts
      have hshift := stderrMarker_border (by omega) (by omega) hborder
      omega
    have hdrop : (stdout ++ [Bytes.lineFeed]).drop position <+:
        (stdout ++ (stderrMarker ++ tail)).drop position := hbegin.drop position
    have hmarker : stderrMarker <+: (stdout ++ [Bytes.lineFeed]).drop position := by
      apply List.prefix_of_prefix_length_le hstarts hdrop
      rw [length_stderrMarker, List.length_drop, List.length_append, List.length_singleton]
      omega
    exact hmarker.isInfix.trans (List.drop_suffix _ _).isInfix
  · intro hinfix
    rcases hinfix with ⟨front, behind, heq⟩
    have hlength := congrArg List.length heq
    simp only [List.length_append, List.length_singleton, length_stderrMarker] at hlength
    refine ⟨front.length, by omega, ?_⟩
    have hmarker : stderrMarker <+: (stdout ++ [Bytes.lineFeed]).drop front.length := by
      rw [← heq, List.append_assoc, List.drop_left]
      exact List.prefix_append _ _
    exact hmarker.trans (hbegin.drop front.length)

def sections (stdout stderr : Bytes) : Bytes :=
  stdout ++ (stderrMarker ++ (stderr ++ [Bytes.lineFeed]))

theorem readSections_sections (stdout stderr : Bytes) :
    ∃ readStdout readStderr,
      readSections (stdoutMarker ++ sections stdout stderr) = .ok (readStdout, readStderr) ∧
        readStdout ++ (stderrMarker ++ readStderr) = stdout ++ (stderrMarker ++ stderr) ∧
        (readStdout = stdout ↔ ¬ stderrMarker <:+: stdout ++ [Bytes.lineFeed]) := by
  have hwritten : stderrMarker <+: (sections stdout stderr).drop stdout.length := by
    unfold sections
    rw [List.drop_left]
    exact List.prefix_append _ _
  obtain ⟨position, hposition, hfind⟩ := Bytes.exists_find?_eq_some hwritten
  obtain ⟨hsplit, hjoin⟩ := Bytes.splitAt?_of_find? hfind
  obtain ⟨hstarts, hleast⟩ := Bytes.find?_eq_some_iff.mp hfind
  set tail := (sections stdout stderr).drop (position + stderrMarker.length) with htail
  -- The marker found lies in front of the final line feed, which therefore closes the tail.
  have htailEq : tail = (stdout ++ (stderrMarker ++ stderr)).drop
      (position + stderrMarker.length) ++ [Bytes.lineFeed] := by
    have hsections : sections stdout stderr =
        (stdout ++ (stderrMarker ++ stderr)) ++ [Bytes.lineFeed] := by
      simp only [sections, List.append_assoc]
    rw [htail, hsections, List.drop_append_of_le_length]
    simp only [List.length_append]
    omega
  refine ⟨(sections stdout stderr).take position,
    (stdout ++ (stderrMarker ++ stderr)).drop (position + stderrMarker.length), ?_, ?_, ?_⟩
  · rw [readSections, Bytes.dropPrefix?_append]
    simp only [hsplit]
    rw [htailEq, Bytes.dropFinalLineFeed_append]
  · have hcancel : ((sections stdout stderr).take position ++ (stderrMarker ++
        (stdout ++ (stderrMarker ++ stderr)).drop (position + stderrMarker.length))) ++
          [Bytes.lineFeed] = (stdout ++ (stderrMarker ++ stderr)) ++ [Bytes.lineFeed] := by
      rw [htailEq] at hjoin
      simpa only [List.append_assoc, sections] using hjoin
    exact List.append_cancel_right hcancel
  · rw [← marker_in_stdout_iff stdout (stderr ++ [Bytes.lineFeed])]
    constructor
    · intro hsame hinside
      rcases hinside with ⟨earlier, hearlier, hmarker⟩
      have hlength := congrArg List.length hsame
      rw [List.length_take, sections, List.length_append] at hlength
      exact hleast earlier (by omega) hmarker
    · intro hnone
      have hequal : position = stdout.length := by
        by_contra hne
        exact hnone ⟨position, by omega, hstarts⟩
      rw [hequal, sections, List.take_left]

/-! ## The whole report -/

/-- A rendered report is read back with another border between its output sections at most, and with
the border that was written exactly if no marker begins inside the captured output. -/
theorem parse_render (report : Report) :
    ∃ stdout stderr, parse report.render = .ok ⟨report.status, report.exitCode, stdout, stderr⟩ ∧
      stdout ++ (stderrMarker ++ stderr) = report.stdout ++ (stderrMarker ++ report.stderr) ∧
      (⟨report.status, report.exitCode, stdout, stderr⟩ = report ↔
        ¬ stderrMarker <:+: report.stdout ++ [Bytes.lineFeed]) := by
  obtain ⟨stdout, stderr, hread, hjoin, hborder⟩ :=
    readSections_sections report.stdout report.stderr
  refine ⟨stdout, stderr, ?_, hjoin, ?_⟩
  · have hrender : report.render = Bytes.ofString report.status.word ++ Bytes.lineFeed ::
        (codeText report.exitCode ++ Bytes.lineFeed ::
          (stdoutMarker ++ sections report.stdout report.stderr)) := rfl
    simp only [parse, hrender, readStatus_word, readCode_codeText, hread]
  · rw [← hborder]
    constructor
    · intro hsame
      exact congrArg Report.stdout hsame
    · intro hstdout
      rw [hstdout, List.append_cancel_left_eq, List.append_cancel_left_eq] at hjoin
      rw [hstdout, hjoin]

/-- A report comes back with its status and its code, and with the same output text around a marker;
it comes back as it was exactly if no marker begins inside the captured output. -/
theorem exists_parse_render (report : Report) :
    ∃ read, parse report.render = .ok read ∧
      read.status = report.status ∧ read.exitCode = report.exitCode ∧
      read.stdout ++ stderrMarker ++ read.stderr =
        report.stdout ++ stderrMarker ++ report.stderr ∧
      (read = report ↔ ¬ stderrMarker <:+: report.stdout ++ [Bytes.lineFeed]) := by
  obtain ⟨stdout, stderr, hparse, hjoin, hsame⟩ := parse_render report
  refine ⟨_, hparse, rfl, rfl, ?_, hsame⟩
  rw [List.append_assoc, List.append_assoc]
  exact hjoin

end Report

end DatagramShell
