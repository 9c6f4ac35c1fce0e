import DatagramShell.Client.Program
import DatagramShell.Proofs.Client.Agreement
import DatagramShell.Proofs.Options.Settings
import Mathlib.Tactic

/-!
# The words of a command are no options

What stands behind `--`, or begins with a word that is not read as an option, is the command, word
for word, whatever the words look like.  The options in front of it keep their meaning, and the
order to stop the service does not go together with a command, wherever it stands in front of it.
-/

namespace DatagramShell

namespace ClientOption

theorem wellNamed : vocabulary.WellNamed where
  name_ne hname := by
    rintro rfl
    cases hname
  equals_notMem hname := by
    simp only [vocabulary, ofLong?] at hname
    split at hname <;> first | decide | cases hname
  letter_ne hletter := by
    rintro rfl
    cases hletter

abbrev Value : ClientOption → Type
  | .target | .bind => Endpoint
  | .timeout => ℕ
  | .kill | .help | .version => Unit

def read : (option : ClientOption) → String → Except OptionFault option.Value
  | .target | .bind => ClientSettings.readEndpoint
  | .timeout => ClientSettings.readTimeout
  | .kill => fun _ => .ok ()
  | .help | .version => fun _ => .error .unneededValue

def default : (option : ClientOption) → option.Value
  | .target => Invocation.defaultTarget
  | .bind => Invocation.defaultBind
  | .timeout => Invocation.defaultTimeout
  | .kill | .help | .version => ()

end ClientOption

namespace ClientSettings

def get (settings : ClientSettings) : (option : ClientOption) → Option option.Value
  | .target => settings.target
  | .bind => settings.bind
  | .timeout => settings.timeout
  | .kill => settings.kill
  | .help | .version => none

def set (settings : ClientSettings) : (option : ClientOption) → Option option.Value → ClientSettings
  | .target, target => { settings with target }
  | .bind, bind => { settings with bind }
  | .timeout, timeout => { settings with timeout }
  | .kill, kill => { settings with kill }
  | .help, _ | .version, _ => settings

theorem get_set {option : ClientOption} (settings : ClientSettings) (next : Option option.Value)
    (hkind : (ClientOption.vocabulary.kind option).isGiven = true) :
    (settings.set option next).get option = next := by
  cases option <;> first | rfl | cases hkind

theorem get_set_of_ne {option other : ClientOption} (settings : ClientSettings)
    (next : Option option.Value) (hother : other ≠ option) :
    (settings.set option next).get other = settings.get other := by
  cases option <;> cases other <;> first | rfl | exact absurd rfl hother

def fields : Fields ClientOption.vocabulary ClientSettings where
  Value := ClientOption.Value
  get := get
  set := set
  add := fun option current text => readOnce current option.read text
  takeIn := takeIn
  get_set := get_set
  get_set_of_ne := get_set_of_ne
  takeIn_flag := by
    intro option settings hkind
    cases option <;> first | rfl | cases hkind
  takeIn_value := by
    intro option settings text hkind
    cases option <;> first | rfl | cases hkind

end ClientSettings

namespace ClientOption

structure WellFormed (said : List (Finding ClientOption)) : Prop where
  once : ∀ option, (Finding.texts option said).length ≤ 1
  readable : ∀ option, ∀ text ∈ Finding.texts option said, ∃ value, option.read text = .ok value

/-- A setting is what its option gives, or the default if the option is not there. -/
inductive Resolves (said : List (Finding ClientOption)) (option : ClientOption)
    (value : option.Value) : Prop
  | fromCommandLine {text : String} (hpresent : Finding.texts option said = [text])
      (hread : option.read text = .ok value)
  | fromDefault (habsent : Finding.texts option said = []) (hdefault : value = option.default)

variable {said before after : List (Finding ClientOption)}

theorem WellFormed.front (hwell : WellFormed (before ++ after)) : WellFormed before where
  once option := by
    have honce := hwell.once option
    rw [Finding.texts_append, List.length_append] at honce
    omega
  readable option text hmem := by
    apply hwell.readable option text
    rw [Finding.texts_append]
    exact List.mem_append_left _ hmem

theorem texts_insert_kill (option : ClientOption) :
    Finding.texts option (before ++ .flag .kill :: after) =
      Finding.texts option before ++
        ((if option = .kill then ["true"] else []) ++ Finding.texts option after) := by
  rw [Finding.texts_append]
  by_cases hkill : option = .kill
  · rw [hkill, Finding.texts_cons_self rfl]
    rfl
  · rw [Finding.texts_cons_of_ne rfl (Ne.symm hkill), if_neg hkill, List.nil_append]

theorem WellFormed.insert_kill (hwell : WellFormed (before ++ after))
    (hkill : Finding.texts .kill (before ++ after) = []) :
    WellFormed (before ++ .flag .kill :: after) := by
  rw [Finding.texts_append, List.append_eq_nil_iff] at hkill
  constructor
  · intro option
    rw [texts_insert_kill]
    by_cases hoption : option = .kill
    · simp [hoption, hkill]
    · simpa [hoption, Finding.texts_append] using hwell.once option
  · intro option text hmem
    by_cases hoption : option = .kill
    · subst hoption
      exact ⟨(), rfl⟩
    · rw [texts_insert_kill, if_neg hoption, List.nil_append, ← Finding.texts_append] at hmem
      exact hwell.readable option text hmem

end ClientOption

namespace ClientSettings

theorem exists_foldlM_takeIn {said : List (Finding ClientOption)} {arguments : List String}
    (hwrites : ClientOption.vocabulary.WritesAll said arguments)
    (hwell : ClientOption.WellFormed said) :
    ∃ settings : ClientSettings, said.foldlM takeIn {} = .ok settings ∧
      ∀ option : ClientOption, (settings.get option = none ↔ Finding.texts option said = []) ∧
        option.Resolves said ((settings.get option).getD option.default) := by
  have hsettled : ∀ option : ClientOption, ∃ settled : Option option.Value,
      (Finding.texts option said).foldlM (fun current text => readOnce current option.read text)
          none = .ok settled ∧
        (settled = none ↔ Finding.texts option said = []) ∧
        option.Resolves said (settled.getD option.default) := by
    intro option
    match htexts : Finding.texts option said with
    | [] => exact ⟨none, rfl, by simp, .fromDefault htexts rfl⟩
    | [text] =>
        obtain ⟨value, hvalue⟩ := hwell.readable option text (htexts ▸ List.mem_cons_self)
        exact ⟨some value, foldlM_readOnce hvalue, by simp, .fromCommandLine htexts hvalue⟩
    | _ :: _ :: _ => simpa [htexts] using hwell.once option
  choose settled hread hspec using hsettled
  have hstart : ∀ option, (Finding.texts option said).foldlM (fields.add option)
      (fields.get {} option) = .ok (settled option) := by
    intro option
    have hempty : ({} : ClientSettings).get option = none := by cases option <;> rfl
    rw [show fields.get {} option = none from hempty]
    exact hread option
  obtain ⟨settings, hsettings, hget⟩ := fields.exists_foldlM hwrites hstart
  refine ⟨settings, hsettings, ?_⟩
  intro option
  rw [show settings.get option = settled option from hget option]
  exact hspec option

end ClientSettings

namespace Invocation

def get (invocation : Invocation) : (option : ClientOption) → option.Value
  | .target => invocation.target
  | .bind => invocation.bind
  | .timeout => invocation.timeout
  | .kill | .help | .version => ()

variable {said : List (Finding ClientOption)} {arguments words tail : List String}

theorem ofArguments_command {settings : ClientSettings}
    (hwrites : ClientOption.vocabulary.WritesAll said arguments)
    (hcommands : ClientOption.vocabulary.Commands words tail)
    (hsettings : said.foldlM ClientSettings.takeIn {} = .ok settings) :
    ofArguments (arguments ++ tail) =
      ({ settings with words }.task).map fun task =>
        { target := settings.target.getD defaultTarget
          bind := settings.bind.getD defaultBind
          timeout := settings.timeout.getD defaultTimeout
          task } := by
  have htake : (said ++ [Finding.words words]).foldlM ClientSettings.takeIn {} =
      .ok { settings with words } := by
    rw [List.foldlM_append, hsettings]
    rfl
  rw [ofArguments, ClientSettings.ofArguments,
    hwrites.findings_command ClientOption.wellNamed rfl hcommands, htake]

theorem exists_fault_of_kill {left right : List String}
    (hwrites : ClientOption.vocabulary.WritesAll said (left ++ right))
    (hwell : ClientOption.WellFormed said) (hkill : Finding.texts .kill said = [])
    (hcommands : ClientOption.vocabulary.Commands words tail) :
    ∃ fault, ofArguments (left ++ "--kill" :: (right ++ tail)) = .error fault ∧
      fault.exitStatus = 2 := by
  -- Between two options the order to stop excludes the command; between an option and its value it
  -- stands where the value should be.
  rcases hwrites.cut with ⟨before, after, rfl, hleft, hright⟩ |
    ⟨before, after, option, text, earlier, argument, rfl, rfl, hearlier, hopens, hkind⟩
  · have hflag : ClientOption.vocabulary.Writes (.flag .kill) ["--" ++ "kill"] := .flag rfl rfl
    have hinserted := hleft.append (.cons hflag hright)
    obtain ⟨settings, hsettings, hget⟩ :=
      ClientSettings.exists_foldlM_takeIn hinserted (hwell.insert_kill hkill)
    have hstop : settings.kill = some () := by
      cases hfield : settings.kill with
      | some => rfl
      | none =>
          have hnothing := (hget .kill).1.mp hfield
          rw [ClientOption.texts_insert_kill] at hnothing
          simp at hnothing
    have hconflict : { settings with words }.task = .error .conflictingCommand := by
      obtain ⟨word, later, rfl⟩ := List.exists_cons_of_ne_nil hcommands.words_ne_nil
      simp only [ClientSettings.task, hstop]
    have hinvocation := ofArguments_command hinserted hcommands hsettings
    rw [hconflict, List.append_assoc] at hinvocation
    exact ⟨.conflictingCommand, hinvocation, rfl⟩
  · have hsingle : ClientOption.vocabulary.kind option = .single := by
      cases option with
      | target | bind | timeout => rfl
      | kill | help | version => cases hkind
    obtain ⟨later, hfindings⟩ := hearlier.exists_findings_of_flag ClientOption.wellNamed hopens
      hsingle (rfl : ClientOption.vocabulary.long? "kill" = some .kill) rfl (right ++ tail)
    obtain ⟨settings, hsettings, _⟩ := ClientSettings.exists_foldlM_takeIn hearlier hwell.front
    have htake : (before ++ Finding.missingValue option :: later).foldlM ClientSettings.takeIn {} =
        .error .missingValue := by
      rw [List.foldlM_append, hsettings]
      rfl
    refine ⟨.missingValue, ?_, rfl⟩
    rw [ofArguments, ClientSettings.ofArguments, List.append_assoc, List.singleton_append,
      show "--kill" = "--" ++ "kill" from rfl, hfindings, htake]

end Invocation

namespace ClientRun

variable {said : List (Finding ClientOption)} {arguments words tail : List String}

theorem eq_of_mem_sent_run {host : Host} {console : Console} {client : Client}
    {receives : Receives} {line : String} {datagram : Bytes}
    (hmem : datagram ∈ (ofTask host console client receives (.run line)).sent) :
    datagram = Bytes.ofString line := by
  rw [sent_ofTask_run, Option.mem_toList] at hmem
  exact (Client.eq_of_sent_ask hmem).2

theorem sent_start_of_run {host : Host} {console : Console} {receives : Receives}
    {invocation : Invocation} {line : String}
    (hinvocation : Invocation.ofArguments arguments = .ok invocation)
    (htask : invocation.task = .run line) :
    (∀ datagram ∈ (start host console arguments receives).sent, datagram = Bytes.ofString line) ∧
      (host.bind invocation.bind = .ok () → Client.rejection? (Bytes.ofString line) = none →
        host.send invocation.bind invocation.target (Bytes.ofString line).length = .ok () →
          (start host console arguments receives).sent = [Bytes.ofString line]) := by
  constructor
  · intro datagram hmem
    simp only [start, hinvocation, htask] at hmem
    split at hmem
    · cases hmem
    · exact eq_of_mem_sent_run hmem
  · intro hbind haccepted hsend
    simp only [start, hinvocation, Client.connect, hbind, htask, sent_ofTask_run]
    rw [Client.sent_ask haccepted hsend, Option.toList_some]

theorem ofArguments_of_fault {fault : OptionFault}
    (hfault : Invocation.ofArguments arguments = .error fault) (host : Host)
    (replies : List Reply) :
    ofArguments host arguments replies = ⟨fault.exitStatus, [], none⟩ := by
  rw [ofArguments, start, hfault]

/-- Behind options other than the order to stop, the words that follow `--`, and words of which
the first is not read as an option, are the command that the client is told to run.  The order to
stop in front of them, wherever it is put, makes the client end without sending anything. -/
theorem words_are_no_options (hwrites : ClientOption.vocabulary.WritesAll said arguments)
    (hwell : ClientOption.WellFormed said) (hkill : Finding.texts .kill said = [])
    (hcommands : ClientOption.vocabulary.Commands words tail) :
    (∃ invocation, Invocation.ofArguments (arguments ++ tail) = .ok invocation ∧
      invocation.task = .run (" ".intercalate words) ∧
      (∀ option : ClientOption, option.Resolves said (invocation.get option)) ∧
      ∀ host replies,
        let line := Bytes.ofString (" ".intercalate words)
        let run := ofArguments host (arguments ++ tail) replies
        (∀ datagram ∈ run.sent, datagram = line) ∧
          (host.bind invocation.bind = .ok () → Client.rejection? line = none →
            host.send invocation.bind invocation.target line.length = .ok () →
              run.sent = [line])) ∧
      ∀ left right, arguments = left ++ right → ∀ host replies,
        ofArguments host (left ++ "--kill" :: (right ++ tail)) replies = ⟨2, [], none⟩ := by
  constructor
  · obtain ⟨settings, hsettings, hget⟩ := ClientSettings.exists_foldlM_takeIn hwrites hwell
    have hnone : settings.kill = none := (hget .kill).1.mpr hkill
    have htask : { settings with words }.task = .ok (.run (" ".intercalate words)) := by
      obtain ⟨word, later, rfl⟩ := List.exists_cons_of_ne_nil hcommands.words_ne_nil
      simp only [ClientSettings.task, hnone]
      rfl
    have hinvocation := Invocation.ofArguments_command hwrites hcommands hsettings
    rw [htask] at hinvocation
    refine ⟨_, hinvocation, rfl, ?_, ?_⟩
    · intro option
      cases option <;> exact (hget _).2
    · intro host replies
      exact sent_start_of_run hinvocation rfl
  · intro left right hsplit host replies
    subst hsplit
    obtain ⟨fault, hfault, hstatus⟩ :=
      Invocation.exists_fault_of_kill hwrites hwell hkill hcommands
    rw [ofArguments_of_fault hfault, hstatus]

/-- The words of one command spell the options in front of it; the other begins with a letter of the
client and a digit. -/
theorem words_spell_options :
    let options := ["-t", "127.0.0.1:4000", "--timeout=3"]
    (∃ invocation,
      Invocation.ofArguments (options ++ ["--", "--kill", "-t", "--timeout=5", "--"]) =
          .ok invocation ∧
        invocation.task = .run "--kill -t --timeout=5 --" ∧ invocation.timeout = 3) ∧
      (∃ invocation, Invocation.ofArguments (options ++ ["-t8", "--kill"]) = .ok invocation ∧
        invocation.task = .run "-t8 --kill") ∧
      ∀ host replies,
        ofArguments host (["-t", "--kill", "127.0.0.1:4000", "--timeout=3", "-t8", "--kill"])
            replies = ⟨2, [], none⟩ ∧
          ofArguments host (["-t", "127.0.0.1:4000", "--timeout=3", "--kill", "-t8", "--kill"])
            replies = ⟨2, [], none⟩ := by
  intro options
  have htarget : ClientOption.vocabulary.Writes (.value .target "127.0.0.1:4000")
      ["-" ++ 't'.toString, "127.0.0.1:4000"] := .apart (.short rfl) rfl (.inr (.inr (by decide)))
  have htimeout : ClientOption.vocabulary.Writes (.value .timeout "3")
      ["--" ++ "timeout" ++ "=" ++ "3"] := .joined (.long rfl) rfl
  have hwrites := Vocabulary.WritesAll.cons htarget (.cons htimeout .nil)
  have hwell : ClientOption.WellFormed
      [.value .target "127.0.0.1:4000", .value .timeout "3"] := by
    constructor
    · intro option
      cases option <;> decide
    · intro option text hmem
      cases option with
      | target =>
          cases List.mem_singleton.mp hmem
          exact ⟨⟨.v4 ⟨127, 0, 0, 1⟩, 4000, 0⟩, by decide⟩
      | timeout =>
          cases List.mem_singleton.mp hmem
          exact ⟨3, rfl⟩
      | bind | kill | help | version => cases hmem
  have hword : ¬ ClientOption.vocabulary.ReadsAsOption "-t8" := by
    intro hoption
    exact absurd (hoption '8' (by decide)) (by decide)
  obtain ⟨⟨escaped, hescaped, htask, hoptions, _⟩, _⟩ :=
    words_are_no_options hwrites hwell rfl
      (.escaped (List.cons_ne_nil "--kill" ["-t", "--timeout=5", "--"]))
  obtain ⟨⟨plain, hplain, hplainTask, _⟩, hkill⟩ :=
    words_are_no_options hwrites hwell rfl (.plain (rfl : ["-t8", "--kill"] = _) hword)
  refine ⟨⟨escaped, hescaped, htask, ?_⟩, ⟨plain, hplain, hplainTask⟩, ?_⟩
  · cases hoptions .timeout with
    | fromCommandLine hpresent hread =>
        cases hpresent
        exact (Except.ok.inj hread).symm
    | fromDefault habsent => cases habsent
  · intro host replies
    have hinside := hkill ["-t"] ["127.0.0.1:4000", "--timeout=3"] rfl host replies
    have hbehind := hkill ["-t", "127.0.0.1:4000", "--timeout=3"] [] rfl host replies
    exact ⟨hinside, hbehind⟩

end ClientRun

end DatagramShell
