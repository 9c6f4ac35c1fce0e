import DatagramShell.Proofs.Options.Reading
import Mathlib.Tactic
import Mathlib.Data.List.TakeWhile

/-!
# How options are written

A program reads an option in each of its spellings: behind its name or its letter, the value
stands in an argument of its own, or in the same argument.  Wherever no option waits for its
value, a row of written options is read as exactly these options, and again no option waits for
its value.  What follows the row, a command in particular, is read as if it stood alone.
-/

namespace DatagramShell

namespace ArgumentForm

theorem splitName_of_notMem {text : List Char} (hequals : '=' ∉ text) :
    splitName text = (String.ofList text, none) := by
  have hnone : text.dropWhile (· != '=') = [] := by
    rw [List.dropWhile_eq_nil_iff]
    intro character hmem
    simpa using ne_of_mem_of_not_mem hmem hequals
  simp [splitName, hnone]

theorem splitName_append {name : List Char} (hequals : '=' ∉ name) (text : List Char) :
    splitName (name ++ '=' :: text) = (String.ofList name, some (String.ofList text)) := by
  have hname : ∀ character ∈ name, (character != '=') = true := by
    intro character hmem
    simpa using ne_of_mem_of_not_mem hmem hequals
  have hdrop : (name ++ '=' :: text).dropWhile (· != '=') = '=' :: text := by
    rw [List.dropWhile_append_of_pos hname]
    rfl
  have htake : (name ++ '=' :: text).takeWhile (· != '=') = name := by
    rw [List.takeWhile_append_of_pos hname]
    simp
  simp [splitName, hdrop, htake]

variable {argument : String}

theorem ofText_eq_long {name : List Char} (hne : name ≠ [])
    (hargument : argument.toList = '-' :: '-' :: name) :
    ofText argument = .long (splitName name).1 (splitName name).2 := by
  unfold ofText
  rw [hargument]
  cases name with
  | nil => exact absurd rfl hne
  | cons first name => rfl

theorem ofText_eq_short {letter : Char} (hletter : letter ≠ '-') {letters : List Char}
    (hargument : argument.toList = '-' :: letter :: letters) :
    ofText argument = .short (letter :: letters) := by
  unfold ofText
  rw [hargument]
  split <;> simp_all

theorem ofText_eq_plain (hargument : argument = "-" ∨ argument.toList.head? ≠ some '-') :
    ofText argument = .plain := by
  rcases hargument with rfl | hhead
  · decide
  · unfold ofText
    split <;> simp_all

end ArgumentForm

variable {ι : Type}

def Pending.Ready : Pending ι → Prop
  | .awaiting _ => False
  | .settled | .holding _ _ => True

namespace Vocabulary

structure WellNamed (vocabulary : Vocabulary ι) : Prop where
  name_ne : ∀ {name option}, vocabulary.long? name = some option → name ≠ ""
  equals_notMem : ∀ {name option}, vocabulary.long? name = some option → '=' ∉ name.toList
  letter_ne : ∀ {letter option}, vocabulary.short? letter = some option → letter ≠ '-'

/-- Behind one dash, these letters are read as options.  A program that takes a command takes them
for its first word, if it does not know them all. -/
def ReadsLetters (vocabulary : Vocabulary ι) (letters : List Char) : Prop :=
  vocabulary.takesWords = true → ∀ letter ∈ letters, (vocabulary.short? letter).isSome

inductive Opens (vocabulary : Vocabulary ι) (option : ι) : String → Prop
  | long {name : String} (hname : vocabulary.long? name = some option) :
      Opens vocabulary option ("--" ++ name)
  | short {letter : Char} (hletter : vocabulary.short? letter = some option) :
      Opens vocabulary option ("-" ++ letter.toString)

inductive Holds (vocabulary : Vocabulary ι) (option : ι) (text : String) : String → Prop
  | long {name : String} (hname : vocabulary.long? name = some option) :
      Holds vocabulary option text ("--" ++ name ++ "=" ++ text)
  | shortEquals {letter : Char} (hletter : vocabulary.short? letter = some option)
      (hread : vocabulary.ReadsLetters ('=' :: text.toList)) :
      Holds vocabulary option text ("-" ++ letter.toString ++ "=" ++ text)
  | short {letter : Char} (hletter : vocabulary.short? letter = some option)
      (hread : vocabulary.ReadsLetters text.toList) (hne : text ≠ "")
      (hequals : text.toList.head? ≠ some '=') :
      Holds vocabulary option text ("-" ++ letter.toString ++ text)

/-- The arguments that write down one flag, or one option with its value.  Only an option that may
be repeated takes a value that looks like an option, if the value has an argument of its own. -/
inductive Writes (vocabulary : Vocabulary ι) : Finding ι → List String → Prop
  | flag {option : ι} {name : String} (hname : vocabulary.long? name = some option)
      (hkind : vocabulary.kind option = .flag) : Writes vocabulary (.flag option) ["--" ++ name]
  | apart {option : ι} {argument text : String} (hopens : vocabulary.Opens option argument)
      (hkind : (vocabulary.kind option).takesValue = true)
      (htext : vocabulary.kind option = .repeated ∨ text = "-" ∨ text.toList.head? ≠ some '-') :
      Writes vocabulary (.value option text) [argument, text]
  | joined {option : ι} {argument text : String} (hholds : vocabulary.Holds option text argument)
      (hkind : (vocabulary.kind option).takesValue = true) :
      Writes vocabulary (.value option text) [argument]

inductive WritesAll (vocabulary : Vocabulary ι) : List (Finding ι) → List String → Prop
  | nil : WritesAll vocabulary [] []
  | cons {finding : Finding ι} {said : List (Finding ι)} {arguments later : List String}
      (hfirst : vocabulary.Writes finding arguments) (hlater : WritesAll vocabulary said later) :
      WritesAll vocabulary (finding :: said) (arguments ++ later)

/-- The argument begins no command, though it stands where no option waits for its value. -/
def ReadsAsOption (vocabulary : Vocabulary ι) (argument : String) : Prop :=
  match ArgumentForm.ofText argument with
  | .escape => True
  | .long name _ => (vocabulary.long? name).isSome
  | .short letters => ∀ letter ∈ letters, (vocabulary.short? letter).isSome
  | .plain => False

/-! ## One argument -/

variable {vocabulary : Vocabulary ι} {pending : Pending ι} {option : ι} {argument text : String}

theorem takesAnything_of_ready (hready : pending.Ready) :
    vocabulary.takesAnything pending = false := by
  cases pending with
  | awaiting option => exact hready.elim
  | settled | holding => rfl

theorem stepPlain_of_ready (hready : pending.Ready) (following : List String) :
    vocabulary.stepPlain pending argument following =
      (vocabulary.scanWords pending (argument :: following), none) := by
  cases pending with
  | awaiting option => exact hready.elim
  | settled | holding => rfl

theorem step_long (hanything : vocabulary.takesAnything pending = false) {name : String}
    {value : Option String}
    (hform : ArgumentForm.ofText argument = .long name value)
    (hname : vocabulary.long? name = some option) (following : List String) :
    vocabulary.step pending argument following = vocabulary.stepLong pending option value := by
  simp only [step, hanything, hform, hname, Bool.false_eq_true, if_false]

theorem step_short (hready : pending.Ready) {letters : List Char}
    (hform : ArgumentForm.ofText argument = .short letters)
    (hread : vocabulary.ReadsLetters letters) (following : List String) :
    vocabulary.step pending argument following = vocabulary.scanLetters pending letters := by
  have hknown : (vocabulary.takesWords && letters.any fun letter =>
      (vocabulary.short? letter).isNone) = false := by
    rw [Bool.and_eq_false_imp]
    intro htakes
    rw [List.any_eq_false]
    intro letter hmem
    simpa [Option.isSome_iff_ne_none] using hread htakes letter hmem
  simp only [step, takesAnything_of_ready hready, hform, hknown, Bool.false_eq_true, if_false]

theorem ReadsLetters.cons {letter : Char} (hletter : vocabulary.short? letter = some option)
    {letters : List Char} (hread : vocabulary.ReadsLetters letters) :
    vocabulary.ReadsLetters (letter :: letters) := by
  intro htakes other hmem
  rcases List.mem_cons.mp hmem with rfl | hlater
  · rw [hletter]
    rfl
  · exact hread htakes other hlater

theorem readsLetters_nil : vocabulary.ReadsLetters [] := by
  intro _ letter hmem
  cases hmem

theorem WellNamed.ofText_name (hwell : vocabulary.WellNamed) {name : String}
    (hname : vocabulary.long? name = some option) :
    ArgumentForm.ofText ("--" ++ name) = .long name none := by
  have hne : name.toList ≠ [] := by simpa using hwell.name_ne hname
  rw [ArgumentForm.ofText_eq_long hne (by simp),
    ArgumentForm.splitName_of_notMem (hwell.equals_notMem hname), String.ofList_toList]

theorem Opens.step (hwell : vocabulary.WellNamed) (hopens : vocabulary.Opens option argument)
    (hkind : (vocabulary.kind option).takesValue = true) (hready : pending.Ready)
    (following : List String) :
    vocabulary.step pending argument following = (pending.settle, some (.awaiting option)) := by
  cases hopens with
  | @long name hname =>
      rw [step_long (takesAnything_of_ready hready) (hwell.ofText_name hname) hname]
      simp only [stepLong, hkind]
  | @short letter hletter =>
      have hform : ArgumentForm.ofText ("-" ++ letter.toString) = .short [letter] :=
        ArgumentForm.ofText_eq_short (hwell.letter_ne hletter) (by simp)
      rw [step_short hready hform (.cons hletter readsLetters_nil), scanLetters, hletter]
      simp only [hkind, if_true]

theorem Holds.step (hwell : vocabulary.WellNamed) (hholds : vocabulary.Holds option text argument)
    (hkind : (vocabulary.kind option).takesValue = true) (hready : pending.Ready)
    (following : List String) :
    vocabulary.step pending argument following =
      (pending.settle ++ [.value option text], some .settled) := by
  cases hholds with
  | @long name hname =>
      have hform : ArgumentForm.ofText ("--" ++ name ++ "=" ++ text) = .long name (some text) := by
        have hargument : ("--" ++ name ++ "=" ++ text).toList =
            '-' :: '-' :: (name.toList ++ '=' :: text.toList) := by simp
        rw [ArgumentForm.ofText_eq_long (by simp) hargument,
          ArgumentForm.splitName_append (hwell.equals_notMem hname), String.ofList_toList,
          String.ofList_toList]
      rw [step_long (takesAnything_of_ready hready) hform hname]
      simp only [stepLong, hkind]
  | @shortEquals letter hletter hread =>
      have hform : ArgumentForm.ofText ("-" ++ letter.toString ++ "=" ++ text) =
          .short (letter :: '=' :: text.toList) :=
        ArgumentForm.ofText_eq_short (hwell.letter_ne hletter) (by simp)
      rw [step_short hready hform (hread.cons hletter), scanLetters, hletter]
      simp only [hkind, if_true, String.ofList_toList]
  | @short letter hletter hread hne hequals =>
      have hform : ArgumentForm.ofText ("-" ++ letter.toString ++ text) =
          .short (letter :: text.toList) :=
        ArgumentForm.ofText_eq_short (hwell.letter_ne hletter) (by simp)
      rw [step_short hready hform (hread.cons hletter), scanLetters, hletter]
      simp only [hkind, if_true]
      split
      · next hnil => exact absurd (by simpa using hnil) hne
      · next hfirst => simp [hfirst] at hequals
      · rw [String.ofList_toList]

theorem step_flag (hwell : vocabulary.WellNamed) {name : String}
    (hname : vocabulary.long? name = some option) (hkind : vocabulary.kind option = .flag)
    (hanything : vocabulary.takesAnything pending = false) (following : List String) :
    vocabulary.step pending ("--" ++ name) following =
      (pending.settle ++ [.flag option], some .settled) := by
  rw [step_long hanything (hwell.ofText_name hname) hname]
  simp only [stepLong, finding, hkind, OptionKind.takesValue]

theorem step_awaiting
    (htext : vocabulary.kind option = .repeated ∨ text = "-" ∨ text.toList.head? ≠ some '-')
    (following : List String) :
    vocabulary.step (.awaiting option) text following = ([], some (.holding option text)) := by
  unfold step
  split
  · rfl
  · next hsingle =>
      have hplain : text = "-" ∨ text.toList.head? ≠ some '-' := by
        rcases htext with hrepeated | hplain
        · simp [takesAnything, hrepeated] at hsingle
        · exact hplain
      rw [ArgumentForm.ofText_eq_plain hplain]
      rfl

theorem step_escape (hready : pending.Ready) (following : List String) :
    vocabulary.step pending "--" following = (vocabulary.scanWords pending following, none) := by
  have hform : ArgumentForm.ofText "--" = .escape := by decide
  simp only [step, takesAnything_of_ready hready, hform, Bool.false_eq_true, if_false]

theorem step_word (htakes : vocabulary.takesWords = true) (hready : pending.Ready)
    (hword : ¬ vocabulary.ReadsAsOption argument) (following : List String) :
    vocabulary.step pending argument following =
      (vocabulary.scanWords pending (argument :: following), none) := by
  rw [← stepPlain_of_ready hready]
  unfold ReadsAsOption at hword
  simp only [step, takesAnything_of_ready hready, Bool.false_eq_true, if_false]
  split
  · next hform => simp [hform] at hword
  · rfl
  · next name value hform =>
      have hunknown : vocabulary.long? name = none := by simpa [hform] using hword
      simp only [hunknown, htakes, if_true]
  · next letters hform =>
      have hunknown : (letters.any fun letter => (vocabulary.short? letter).isNone) = true := by
        simpa [hform, List.any_eq_true] using hword
      simp only [hunknown, htakes, Bool.and_self, if_true]

/-! ## A row of options -/

/-- Behind these arguments no option waits for its value.  What has been found there, and the
value that may still be held, are what was held before the arguments and then what they say. -/
def Passes (vocabulary : Vocabulary ι) (pending : Pending ι) (arguments : List String)
    (said : List (Finding ι)) : Prop :=
  ∃ next : Pending ι, next.Ready ∧ ∃ found, found ++ next.settle = pending.settle ++ said ∧
    ∀ rest, vocabulary.scan pending (arguments ++ rest) = found ++ vocabulary.scan next rest

theorem scan_cons_of_step {arguments : List String} {found : List (Finding ι)} {next : Pending ι}
    (hstep : vocabulary.step pending argument arguments = (found, some next)) :
    vocabulary.scan pending (argument :: arguments) = found ++ vocabulary.scan next arguments := by
  rw [scan, hstep]

theorem scan_cons_of_stop {arguments : List String} {found : List (Finding ι)}
    (hstep : vocabulary.step pending argument arguments = (found, none)) :
    vocabulary.scan pending (argument :: arguments) = found := by
  rw [scan, hstep]

theorem passes_nil (hready : pending.Ready) : vocabulary.Passes pending [] [] :=
  ⟨pending, hready, [], by simp, fun _ => rfl⟩

theorem passes_of_step {finding : Finding ι} (hstep : ∀ following,
      vocabulary.step pending argument following = (pending.settle ++ [finding], some .settled)) :
    vocabulary.Passes pending [argument] [finding] := by
  refine ⟨.settled, trivial, pending.settle ++ [finding], List.append_nil _, ?_⟩
  intro rest
  exact scan_cons_of_step (hstep rest)

variable {said : List (Finding ι)} {arguments : List String}

theorem Passes.ready_append {later : List String} {following : List (Finding ι)}
    (hpasses : vocabulary.Passes pending arguments said)
    (hlater : ∀ next : Pending ι, next.Ready → vocabulary.Passes next later following) :
    vocabulary.Passes pending (arguments ++ later) (said ++ following) := by
  obtain ⟨middle, hmiddle, found, hfound, hscan⟩ := hpasses
  obtain ⟨next, hnext, foundLater, hfoundLater, hscanLater⟩ := hlater middle hmiddle
  refine ⟨next, hnext, found ++ foundLater, ?_, ?_⟩
  · rw [List.append_assoc, hfoundLater, ← List.append_assoc, hfound, List.append_assoc]
  · intro rest
    rw [List.append_assoc, hscan, hscanLater, List.append_assoc]

theorem Writes.passes (hwell : vocabulary.WellNamed) {finding : Finding ι}
    (hwrites : vocabulary.Writes finding arguments) (hready : pending.Ready) :
    vocabulary.Passes pending arguments [finding] := by
  cases hwrites with
  | flag hname hkind =>
      exact passes_of_step (step_flag hwell hname hkind (takesAnything_of_ready hready))
  | @apart option argument text hopens hkind htext =>
      refine ⟨.holding option text, trivial, pending.settle, rfl, ?_⟩
      intro rest
      have hfirst := scan_cons_of_step (hopens.step hwell hkind hready (text :: rest))
      have hsecond := scan_cons_of_step (step_awaiting htext rest)
      exact hfirst.trans (congrArg (pending.settle ++ ·) hsecond)
  | joined hholds hkind => exact passes_of_step (hholds.step hwell hkind hready)

theorem WritesAll.passes (hwell : vocabulary.WellNamed)
    (hwrites : vocabulary.WritesAll said arguments) (hready : pending.Ready) :
    vocabulary.Passes pending arguments said := by
  -- A value in an argument of its own is still held when the next option is read, so the row is
  -- read from any state that is ready, not only from the one at the beginning.
  induction hwrites generalizing pending with
  | nil => exact passes_nil hready
  | cons hfirst _ ih => exact (hfirst.passes hwell hready).ready_append fun _ hnext => ih hnext

theorem WritesAll.findings_append (hwell : vocabulary.WellNamed)
    (hwrites : vocabulary.WritesAll said arguments) {rest : List String} {found : List (Finding ι)}
    (hrest : ∀ next : Pending ι, next.Ready → vocabulary.scan next rest = next.settle ++ found) :
    vocabulary.findings (arguments ++ rest) = said ++ found := by
  have hpasses : vocabulary.Passes .settled arguments said := hwrites.passes hwell trivial
  obtain ⟨next, hnext, before, hbefore, hscan⟩ := hpasses
  rw [findings, hscan, hrest next hnext, ← List.append_assoc, hbefore]
  rfl

theorem WritesAll.findings_eq (hwell : vocabulary.WellNamed)
    (hwrites : vocabulary.WritesAll said arguments) : vocabulary.findings arguments = said := by
  have hnothing : vocabulary.findings (arguments ++ []) = said ++ [] := by
    apply hwrites.findings_append hwell
    intro next _
    exact (List.append_nil next.settle).symm
  simpa using hnothing

theorem WritesAll.append {left right : List (Finding ι)}
    {leftArguments rightArguments : List String}
    (hleft : vocabulary.WritesAll left leftArguments)
    (hright : vocabulary.WritesAll right rightArguments) :
    vocabulary.WritesAll (left ++ right) (leftArguments ++ rightArguments) := by
  induction hleft with
  | nil => exact hright
  | cons hfirst _ ih =>
      rw [List.append_assoc]
      exact .cons hfirst ih

theorem Writes.cut {finding : Finding ι} {left right : List String}
    (hwrites : vocabulary.Writes finding (left ++ right)) :
    left = [] ∨ right = [] ∨ ∃ option text argument, finding = .value option text ∧
      left = [argument] ∧ vocabulary.Opens option argument ∧
      (vocabulary.kind option).takesValue = true := by
  generalize hwhole : left ++ right = arguments at hwrites
  have hsingle : ∀ argument, left ++ right = [argument] → left = [] ∨ right = [] := by
    intro argument heq
    rcases List.append_eq_singleton_iff.mp heq with hleft | hright
    · exact .inl hleft.1
    · exact .inr hright.2
  cases hwrites with
  | flag => exact (hsingle _ hwhole).imp_right .inl
  | joined => exact (hsingle _ hwhole).imp_right .inl
  | @apart option argument text hopens hkind _ =>
      match left with
      | [] => exact .inl rfl
      | [first] =>
          rw [List.singleton_append, List.cons.injEq] at hwhole
          rw [hwhole.1]
          exact .inr (.inr ⟨option, text, argument, rfl, rfl, hopens, hkind⟩)
      | _ :: _ :: later =>
          simp only [List.cons_append, List.cons.injEq, List.append_eq_nil_iff] at hwhole
          exact .inr (.inl hwhole.2.2.2)

/-- A row that is cut falls apart into two rows, or the cut separates an option from its value. -/
theorem WritesAll.cut {left right : List String}
    (hwrites : vocabulary.WritesAll said (left ++ right)) :
    (∃ before after, said = before ++ after ∧ vocabulary.WritesAll before left ∧
        vocabulary.WritesAll after right) ∨
      ∃ before after option text earlier argument,
        said = before ++ .value option text :: after ∧ left = earlier ++ [argument] ∧
          vocabulary.WritesAll before earlier ∧ vocabulary.Opens option argument ∧
          (vocabulary.kind option).takesValue = true := by
  generalize hwhole : left ++ right = arguments at hwrites
  induction hwrites generalizing left with
  | nil =>
      obtain ⟨rfl, rfl⟩ := List.append_eq_nil_iff.mp hwhole
      exact .inl ⟨[], [], rfl, .nil, .nil⟩
  | @cons finding said first later hfirst hlater ih =>
      have hall := WritesAll.cons hfirst hlater
      rcases List.append_eq_append_iff.mp hwhole with ⟨rest, rfl, rfl⟩ | ⟨rest, rfl, hrest⟩
      · rcases hfirst.cut with rfl | rfl | ⟨option, text, argument, rfl, rfl, hopens, hkind⟩
        · exact .inl ⟨[], _, rfl, .nil, hall⟩
        · have hthis : vocabulary.WritesAll [finding] left := by
            simpa using WritesAll.cons hfirst .nil
          exact .inl ⟨[finding], said, rfl, hthis, hlater⟩
        · exact .inr ⟨[], said, option, text, [], argument, rfl, rfl, .nil, hopens, hkind⟩
      · rcases ih hrest.symm with ⟨before, after, rfl, hbefore, hafter⟩ |
          ⟨before, after, option, text, earlier, argument, rfl, rfl, hbefore, hopens, hkind⟩
        · exact .inl ⟨finding :: before, after, rfl, .cons hfirst hbefore, hafter⟩
        · refine .inr ⟨finding :: before, after, option, text, first ++ earlier, argument, rfl, ?_,
            .cons hfirst hbefore, hopens, hkind⟩
          rw [List.append_assoc]

/-! ## The command behind a row of options -/

theorem scan_escape (htakes : vocabulary.takesWords = true) (hready : pending.Ready)
    {words : List String} (hwords : words ≠ []) :
    vocabulary.scan pending ("--" :: words) = pending.settle ++ [.words words] := by
  rw [scan_cons_of_stop (step_escape hready words), scanWords, if_neg hwords, if_pos htakes]

theorem scan_words (htakes : vocabulary.takesWords = true) (hready : pending.Ready)
    (hword : ¬ vocabulary.ReadsAsOption argument) :
    vocabulary.scan pending (argument :: arguments) =
      pending.settle ++ [.words (argument :: arguments)] := by
  rw [scan_cons_of_stop (step_word htakes hready hword arguments), scanWords,
    if_neg (List.cons_ne_nil _ _), if_pos htakes]

theorem WritesAll.exists_findings_of_flag (hwell : vocabulary.WellNamed)
    (hwrites : vocabulary.WritesAll said arguments) (hopens : vocabulary.Opens option argument)
    (hkind : vocabulary.kind option = .single) {flag : ι} {name : String}
    (hname : vocabulary.long? name = some flag) (hflag : vocabulary.kind flag = .flag)
    (rest : List String) :
    ∃ later, vocabulary.findings (arguments ++ argument :: ("--" ++ name) :: rest) =
      said ++ .missingValue option :: later := by
  refine ⟨.flag flag :: vocabulary.scan .settled rest, hwrites.findings_append hwell ?_⟩
  intro next hnext
  have htakes : (vocabulary.kind option).takesValue = true := by rw [hkind]; rfl
  have hanything : vocabulary.takesAnything (.awaiting option) = false := by
    rw [takesAnything, hkind]
    rfl
  have hsecond := scan_cons_of_step (step_flag hwell hname hflag hanything rest)
  rw [scan_cons_of_step (hopens.step hwell htakes hnext _), hsecond]
  rfl

/-- A command behind written options: the words that follow `--`, or that begin with one that is not
itself read as an option. -/
inductive Commands (vocabulary : Vocabulary ι) (words : List String) : List String → Prop
  | escaped (hwords : words ≠ []) : Commands vocabulary words ("--" :: words)
  | plain {word : String} {later : List String} (hsplit : words = word :: later)
      (hword : ¬ vocabulary.ReadsAsOption word) : Commands vocabulary words words

theorem Commands.words_ne_nil {words tail : List String}
    (hcommands : vocabulary.Commands words tail) : words ≠ [] := by
  cases hcommands with
  | escaped hwords => exact hwords
  | plain hsplit => simp [hsplit]

theorem WritesAll.findings_command (hwell : vocabulary.WellNamed)
    (htakes : vocabulary.takesWords = true) (hwrites : vocabulary.WritesAll said arguments)
    {words tail : List String} (hcommands : vocabulary.Commands words tail) :
    vocabulary.findings (arguments ++ tail) = said ++ [.words words] := by
  apply hwrites.findings_append hwell
  intro next hnext
  cases hcommands with
  | escaped hwords => exact scan_escape htakes hnext hwords
  | plain hsplit hword =>
      rw [hsplit]
      exact scan_words htakes hnext hword

end Vocabulary

end DatagramShell
