import DatagramShell.Proofs.Report.RoundTrip
import DatagramShell.Proofs.Text.Spelling
import Mathlib.Tactic

/-!
# The texts that are reports

Each of the three readers takes its part off the front of a text, so what they accept one after the
other is a grammar: the word of a status, a spelling of a code in the range, the two sections around
the first marker.  A text has one reading at most.  Two things are left to whoever writes one, how
the code is spelled and whether a line feed ends the text; everything else is as it is rendered.
-/

namespace DatagramShell

namespace Report

/-- The text of a report whose code is spelled as `numeral`, with `tail` behind the second marker.
-/
def textWith (report : Report) (numeral tail : Bytes) : Bytes :=
  Bytes.ofString report.status.word ++ Bytes.lineFeed ::
    (numeral ++ Bytes.lineFeed ::
      (stdoutMarker ++ (report.stdout ++ (stderrMarker ++ tail))))

theorem render_eq_textWith (report : Report) :
    report.render =
      report.textWith (codeText report.exitCode) (report.stderr ++ [Bytes.lineFeed]) :=
  rfl

theorem textWith_append (report : Report) (numeral tail behind : Bytes) :
    report.textWith numeral tail ++ behind = report.textWith numeral (tail ++ behind) := by
  simp only [textWith, List.append_assoc, List.cons_append]

/-- What may stand behind the second marker: the captured output and a line feed, which can be left
out unless another one would be taken for it. -/
def Closes (stderr tail : Bytes) : Prop :=
  tail = stderr ++ [Bytes.lineFeed] ∨ (tail = stderr ∧ stderr.getLast? ≠ some Bytes.lineFeed)

/-- The bytes are a text of the report, with this spelling of its code and this tail. -/
structure Written (report : Report) (numeral tail bytes : Bytes) : Prop where
  text : bytes = report.textWith numeral tail
  code : Numeral.Spells numeral report.exitCode.toInt
  border : ¬ stderrMarker <:+: report.stdout ++ [Bytes.lineFeed]
  closed : Closes report.stderr tail

/-! ## What each reader accepts -/

theorem readStatus_eq_ok_iff {bytes rest : Bytes} {status : Status} :
    readStatus bytes = .ok (status, rest) ↔
      bytes = Bytes.ofString status.word ++ Bytes.lineFeed :: rest := by
  constructor
  · intro hread
    unfold readStatus at hread
    cases hsplit : Bytes.splitLine? bytes with
    | none => simp [hsplit] at hread
    | some parts =>
        obtain ⟨line, behind⟩ := parts
        cases hword : Status.ofWord? line with
        | none => simp [hsplit, hword] at hread
        | some found =>
            simp only [hsplit, hword, Except.ok.injEq, Prod.mk.injEq] at hread
            obtain ⟨rfl, rfl⟩ := hread
            rw [(Bytes.splitLine?_eq_some_iff.mp hsplit).1, Status.eq_word_of_ofWord? hword]
  · rintro rfl
    exact readStatus_word status rest

theorem lineFeed_notMem_of_spells {numeral : Bytes} {number : ℤ}
    (hspells : Numeral.Spells numeral number) : Bytes.lineFeed ∉ numeral := by
  intro hmem
  have hbounds := hspells.mem_bounds hmem
  exact absurd hbounds.1 (by decide)

theorem readCode_eq_ok_iff {bytes rest : Bytes} {exitCode : Int32} :
    readCode bytes = .ok (exitCode, rest) ↔
      ∃ numeral, bytes = numeral ++ Bytes.lineFeed :: rest ∧
        Numeral.Spells numeral exitCode.toInt := by
  constructor
  · intro hread
    unfold readCode at hread
    cases hsplit : Bytes.splitLine? bytes with
    | none => simp [hsplit] at hread
    | some parts =>
        obtain ⟨line, behind⟩ := parts
        cases hcode : Numeral.int32? (Utf8.decode line) with
        | none => simp [hsplit, hcode] at hread
        | some found =>
            simp only [hsplit, hcode, Except.ok.injEq, Prod.mk.injEq] at hread
            obtain ⟨rfl, rfl⟩ := hread
            exact ⟨line, (Bytes.splitLine?_eq_some_iff.mp hsplit).1,
              Numeral.int32?_decode.mp hcode⟩
  · rintro ⟨numeral, rfl, hspells⟩
    have hsplit := Bytes.splitLine?_append (lineFeed_notMem_of_spells hspells) rest
    simp only [readCode, hsplit, Numeral.int32?_decode.mpr hspells]

theorem readSections_eq_ok_iff {bytes stdout stderr : Bytes} :
    readSections bytes = .ok (stdout, stderr) ↔
      ∃ tail, bytes = stdoutMarker ++ (stdout ++ (stderrMarker ++ tail)) ∧
        ¬ stderrMarker <:+: stdout ++ [Bytes.lineFeed] ∧ Closes stderr tail := by
  constructor
  · intro hread
    unfold readSections at hread
    cases hdrop : Bytes.dropPrefix? stdoutMarker bytes with
    | none => simp [hdrop] at hread
    | some sections =>
        cases hsplit : Bytes.splitAt? stderrMarker sections with
        | none => simp [hdrop, hsplit] at hread
        | some parts =>
            obtain ⟨front, tail⟩ := parts
            simp only [hdrop, hsplit, Except.ok.injEq, Prod.mk.injEq] at hread
            obtain ⟨rfl, hstderr⟩ := hread
            obtain ⟨rfl, hfirst⟩ := Bytes.splitAt?_eq_some_iff.mp hsplit
            refine ⟨tail, Bytes.dropPrefix?_eq_some_iff.mp hdrop, ?_,
              Bytes.dropFinalLineFeed_eq_iff.mp hstderr⟩
            rw [← marker_in_stdout_iff front tail]
            rintro ⟨earlier, hearlier, hmarker⟩
            exact hfirst earlier hearlier hmarker
  · rintro ⟨tail, rfl, hborder, hclosed⟩
    have hsplit : Bytes.splitAt? stderrMarker (stdout ++ (stderrMarker ++ tail)) =
        some (stdout, tail) := by
      rw [← marker_in_stdout_iff stdout tail] at hborder
      rw [Bytes.splitAt?_eq_some_iff]
      exact ⟨rfl, fun earlier hearlier hmarker => hborder ⟨earlier, hearlier, hmarker⟩⟩
    simp only [readSections, Bytes.dropPrefix?_append, hsplit,
      Bytes.dropFinalLineFeed_eq_iff.mpr hclosed]

/-- A report is read where each reader accepts what the one before it has left. -/
theorem parse_eq_ok_iff {bytes : Bytes} {report : Report} :
    parse bytes = .ok report ↔
      ∃ afterStatus afterCode, readStatus bytes = .ok (report.status, afterStatus) ∧
        readCode afterStatus = .ok (report.exitCode, afterCode) ∧
        readSections afterCode = .ok (report.stdout, report.stderr) := by
  constructor
  · intro hparse
    unfold parse at hparse
    cases hstatus : readStatus bytes with
    | error fault => simp [hstatus] at hparse
    | ok first =>
        obtain ⟨status, afterStatus⟩ := first
        cases hcode : readCode afterStatus with
        | error fault => simp [hstatus, hcode] at hparse
        | ok second =>
            obtain ⟨exitCode, afterCode⟩ := second
            cases hsections : readSections afterCode with
            | error fault => simp [hstatus, hcode, hsections] at hparse
            | ok sections =>
                simp only [hstatus, hcode, hsections, Except.ok.injEq] at hparse
                subst hparse
                exact ⟨afterStatus, afterCode, rfl, hcode, hsections⟩
  · rintro ⟨afterStatus, afterCode, hstatus, hcode, hsections⟩
    simp only [parse, hstatus, hcode, hsections]

theorem parse_eq_ok_iff_written {bytes : Bytes} {report : Report} :
    parse bytes = .ok report ↔ ∃ numeral tail, Written report numeral tail bytes := by
  rw [parse_eq_ok_iff]
  constructor
  · rintro ⟨afterStatus, afterCode, hstatus, hcode, hsections⟩
    obtain ⟨tail, rfl, hborder, hclosed⟩ := readSections_eq_ok_iff.mp hsections
    obtain ⟨numeral, rfl, hspells⟩ := readCode_eq_ok_iff.mp hcode
    exact ⟨numeral, tail, readStatus_eq_ok_iff.mp hstatus, hspells, hborder, hclosed⟩
  · rintro ⟨numeral, tail, hwritten⟩
    exact ⟨_, _, readStatus_eq_ok_iff.mpr hwritten.text,
      readCode_eq_ok_iff.mpr ⟨numeral, rfl, hwritten.code⟩,
      readSections_eq_ok_iff.mpr ⟨tail, rfl, hwritten.border, hwritten.closed⟩⟩

/-! ## One reading -/

namespace Written

variable {report other : Report} {numeral tail bytes : Bytes}

/-- The second line of the text is the spelling of the code. -/
theorem codeLine_eq (hwritten : Written report numeral tail bytes)
    {statusLine codeLine rest : Bytes} (hstatusLine : Bytes.lineFeed ∉ statusLine)
    (hcodeLine : Bytes.lineFeed ∉ codeLine)
    (hbytes : bytes = statusLine ++ Bytes.lineFeed :: (codeLine ++ Bytes.lineFeed :: rest)) :
    codeLine = numeral := by
  rw [hwritten.text, textWith] at hbytes
  obtain ⟨_, hbehind⟩ := Bytes.line_inj (lineFeed_notMem_word report.status) hstatusLine hbytes
  exact (Bytes.line_inj (lineFeed_notMem_of_spells hwritten.code) hcodeLine hbehind).1.symm

theorem unique (hwritten : Written report numeral tail bytes) {otherNumeral otherTail : Bytes}
    (hother : Written other otherNumeral otherTail bytes) :
    report = other ∧ numeral = otherNumeral ∧ tail = otherTail := by
  have hreport : report = other := by
    have hread := parse_eq_ok_iff_written.mpr ⟨numeral, tail, hwritten⟩
    rw [parse_eq_ok_iff_written.mpr ⟨otherNumeral, otherTail, hother⟩, Except.ok.injEq] at hread
    exact hread.symm
  subst hreport
  have hnumeral : otherNumeral = numeral :=
    hwritten.codeLine_eq (lineFeed_notMem_word report.status)
      (lineFeed_notMem_of_spells hother.code) hother.text
  subst hnumeral
  have htext := hwritten.text.symm.trans hother.text
  simp only [textWith, List.append_cancel_left_eq, List.cons.injEq, true_and] at htext
  exact ⟨rfl, rfl, htext⟩

theorem parse_render_eq (hwritten : Written report numeral tail bytes) :
    parse report.render = .ok report := by
  obtain ⟨stdout, stderr, hparse, _, hsame⟩ := parse_render report
  rw [hparse, hsame.mpr hwritten.border]

/-- With the shortest spelling of its code the text is the rendered one, or wants the final line
feed of it. -/
theorem textWith_codeText (hwritten : Written report numeral tail bytes) :
    report.textWith (codeText report.exitCode) tail = report.render ∨
      report.textWith (codeText report.exitCode) tail ++ [Bytes.lineFeed] = report.render := by
  rw [textWith_append, render_eq_textWith]
  rcases hwritten.closed with htail | ⟨htail, _⟩
  · exact .inl (by rw [htail])
  · exact .inr (by rw [htail])

theorem ascii_codeLine (hwritten : Written report numeral tail bytes) :
    ∀ byte ∈ numeral, byte.toNat < 128 := by
  intro byte hmem
  have hbounds := hwritten.code.mem_bounds hmem
  omega

end Written

/-- A text is read as a report exactly if it is written by the grammar, which it is in one way at
most.  A report that has been read is also read from its rendered text, and that differs from the
text it was read from in the spelling of the code and in a final line feed at most.  A code line
beyond ASCII is not read at all. -/
theorem parse_follows_grammar (bytes : Bytes) :
    (∀ report, parse bytes = .ok report ↔ ∃ numeral tail, Written report numeral tail bytes) ∧
      (∀ report numeral tail other otherNumeral otherTail,
        Written report numeral tail bytes → Written other otherNumeral otherTail bytes →
          report = other ∧ numeral = otherNumeral ∧ tail = otherTail) ∧
      (∀ report, parse bytes = .ok report →
        parse report.render = .ok report ∧
          ∃ numeral tail, Written report numeral tail bytes ∧
            (report.textWith (codeText report.exitCode) tail = report.render ∨
              report.textWith (codeText report.exitCode) tail ++ [Bytes.lineFeed] =
                report.render)) ∧
      ∀ statusLine codeLine rest,
        bytes = statusLine ++ Bytes.lineFeed :: (codeLine ++ Bytes.lineFeed :: rest) →
          Bytes.lineFeed ∉ statusLine → Bytes.lineFeed ∉ codeLine →
            (∃ byte ∈ codeLine, 128 ≤ byte.toNat) → ∀ report, parse bytes ≠ .ok report := by
  refine ⟨fun report => parse_eq_ok_iff_written, ?_, ?_, ?_⟩
  · intro report numeral tail other otherNumeral otherTail hwritten hother
    exact hwritten.unique hother
  · intro report hparse
    obtain ⟨numeral, tail, hwritten⟩ := parse_eq_ok_iff_written.mp hparse
    exact ⟨hwritten.parse_render_eq, numeral, tail, hwritten, hwritten.textWith_codeText⟩
  · intro statusLine codeLine rest hbytes hstatusLine hcodeLine hbeyond report hparse
    obtain ⟨numeral, tail, hwritten⟩ := parse_eq_ok_iff_written.mp hparse
    obtain ⟨byte, hmem, hbyte⟩ := hbeyond
    rw [hwritten.codeLine_eq hstatusLine hcodeLine hbytes] at hmem
    have hascii := hwritten.ascii_codeLine byte hmem
    omega

/-- The code 7 with a sign and zeros in front and no line feed at the end is read; the same text
with a digit beyond ASCII is not. -/
theorem parse_respelled_code :
    let report : Report := ⟨.ackOk, 7, [104, 105], [33]⟩
    let afterCode : Bytes := stdoutMarker ++ ([104, 105] ++ (stderrMarker ++ [33]))
    let textOf := fun codeLine : Bytes =>
      Bytes.ofString "ack-ok" ++ Bytes.lineFeed :: (codeLine ++ Bytes.lineFeed :: afterCode)
    Written report [43, 48, 48, 55] [33] (textOf [43, 48, 48, 55]) ∧
      parse (textOf [43, 48, 48, 55]) = .ok report ∧
      parse report.render = .ok report ∧
      textOf [55] ++ [Bytes.lineFeed] = report.render ∧
      ∀ other, parse (textOf [0xd9, 0xa7]) ≠ .ok other := by
  intro report afterCode textOf
  have hwritten : Written report [43, 48, 48, 55] [33] (textOf [43, 48, 48, 55]) := by
    refine ⟨rfl, ?_, by decide, .inr ⟨rfl, by decide⟩⟩
    have hdigits : Numeral.IsDigits [48, 48, 55] := ⟨by decide, by simp⟩
    exact Numeral.Spells.plus hdigits
  obtain ⟨hgrammar, _, hagain, _⟩ := parse_follows_grammar (textOf [43, 48, 48, 55])
  obtain ⟨_, _, _, hbeyond⟩ := parse_follows_grammar (textOf [0xd9, 0xa7])
  have hread := (hgrammar report).mpr ⟨_, _, hwritten⟩
  refine ⟨hwritten, hread, (hagain report hread).1, by decide +kernel, ?_⟩
  exact hbeyond _ _ _ rfl (by decide) (by decide) ⟨0xd9, by decide, by decide⟩

end Report

end DatagramShell
