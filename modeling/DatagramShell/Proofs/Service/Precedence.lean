import DatagramShell.Service.Options
import DatagramShell.Proofs.Net.Spelling
import DatagramShell.Proofs.Options.Settings
import DatagramShell.Proofs.Text.Spelling
import Mathlib.Tactic

/-!
# The command line before the environment, the environment before the default

What a text says as the value of an option can be told from the text alone, and the readers take
exactly the texts that say something.  Every setting of the service is settled by the texts that its
own option is given and, if there are none, by its own variable.  So neither the spelling of the
options matters, nor the order of different options, nor the variable of an option that is given.
-/

namespace DatagramShell

theorem splitBlanks_eq_splitOn (text : List Char) : splitBlanks text = text.splitOn ' ' := by
  induction text with
  | nil => rfl
  | cons character text ih =>
      rw [splitBlanks, ih, List.splitOn, List.splitOn, List.splitOnP_cons_eq_if_modifyHead]
      by_cases hblank : character = ' '
      · simp [hblank]
      · simp only [hblank, if_false, beq_iff_eq]
        cases hwords : List.splitOnP (· == ' ') text with
        | nil => exact absurd hwords (List.splitOnP_ne_nil _ _)
        | cons word words => rfl

namespace ServiceOption

theorem wellNamed : vocabulary.WellNamed where
  name_ne hname := by
    rintro rfl
    cases hname
  equals_notMem hname := by
    simp only [vocabulary, ofLong?] at hname
    split at hname <;> first | decide | cases hname
  letter_ne hletter := by
    rintro rfl
    cases hletter

abbrev Value : ServiceOption → Type
  | .bind => Address
  | .port => UInt16
  | .queueDepth => ℕ
  | .shell => String
  | .shellArguments => List String
  | .maxCapture => ℕ
  | .padFinal => Bool
  | .help | .version => Unit

def read : (option : ServiceOption) → String → Except OptionFault option.Value
  | .bind => ServiceSettings.readAddress
  | .port => ServiceSettings.readPort
  | .queueDepth => ServiceSettings.readQueueDepth
  | .shell => ServiceSettings.readShell
  | .shellArguments => fun text => .ok ((text.toList.splitOn ' ').map String.ofList)
  | .maxCapture => ServiceSettings.readMaxCapture
  | .padFinal => ServiceSettings.readPadFinal
  | .help | .version => fun _ => .error .unneededValue

/-- What a text says as the value of an option, and which texts say nothing. -/
def Denotes : (option : ServiceOption) → String → option.Value → Prop
  | .bind => fun text address => address.Spells text
  | .port => fun text port => Numeral.Spells (Bytes.ofString text) port.toNat
  | .queueDepth => fun text depth =>
    Numeral.Spells (Bytes.ofString text) (depth : ℕ) ∧ 1 ≤ depth ∧ depth ≤ 1024
  | .shell => fun text program => program = text
  | .shellArguments => fun text words => words = (text.toList.splitOn ' ').map String.ofList
  | .maxCapture => fun text limit =>
    Numeral.Spells (Bytes.ofString text) (limit : ℕ) ∧ '-' ∉ text.toList ∧ limit ≤ 33553408
  | .padFinal => fun text switched => text = if switched then "true" else "false"
  | .help | .version => fun _ _ => False

def default : (option : ServiceOption) → option.Value
  | .bind => .v4 ⟨0, 0, 0, 0⟩
  | .port => 35000
  | .queueDepth => 8
  | .shell => "bash"
  | .shellArguments => ["-l", "-s"]
  | .maxCapture => 16777216
  | .padFinal => false
  | .help | .version => ()

theorem between?_toList {text : String} {low high number : ℤ} :
    Numeral.between? low high text.toList = some number ↔
      Numeral.Spells (Bytes.ofString text) number ∧ low ≤ number ∧ number ≤ high := by
  rw [Numeral.between?, Option.filter_eq_some_iff, Numeral.signed?_toList, Bool.and_eq_true,
    decide_eq_true_eq, decide_eq_true_eq]

theorem readPort_eq_ok_iff {text : String} {port : UInt16} :
    ServiceSettings.readPort text = .ok port ↔
      Numeral.Spells (Bytes.ofString text) port.toNat := by
  have hlimit := port.toNat_lt
  simp only [ServiceSettings.readPort, readWith_eq_ok_iff, Option.map_eq_some_iff, between?_toList]
  constructor
  · rintro ⟨number, ⟨hspells, hlow, hhigh⟩, rfl⟩
    have hvalue : ((UInt16.ofNat number.toNat).toNat : ℤ) = number := by
      rw [UInt16.toNat_ofNat']
      omega
    rw [hvalue]
    exact hspells
  · intro hspells
    exact ⟨port.toNat, ⟨hspells, by omega, by omega⟩, by simp⟩

theorem readQueueDepth_eq_ok_iff {text : String} {depth : ℕ} :
    ServiceSettings.readQueueDepth text = .ok depth ↔
      Numeral.Spells (Bytes.ofString text) depth ∧ 1 ≤ depth ∧ depth ≤ 1024 := by
  simp only [ServiceSettings.readQueueDepth, readWith_eq_ok_iff, Option.map_eq_some_iff,
    between?_toList, ServiceConfig.maxQueueDepth]
  constructor
  · rintro ⟨number, ⟨hspells, hlow, hhigh⟩, rfl⟩
    rw [Int.toNat_of_nonneg (by omega)]
    exact ⟨hspells, by omega, by omega⟩
  · rintro ⟨hspells, hlow, hhigh⟩
    exact ⟨depth, ⟨hspells, by omega, by omega⟩, by simp⟩

theorem readMaxCapture_eq_ok_iff {text : String} {limit : ℕ} :
    ServiceSettings.readMaxCapture text = .ok limit ↔
      Numeral.Spells (Bytes.ofString text) limit ∧ '-' ∉ text.toList ∧ limit ≤ 33553408 := by
  rw [ServiceSettings.readMaxCapture, readWith_eq_ok_iff, Numeral.upTo?, Option.filter_eq_some_iff,
    Numeral.unsigned?_toList, and_assoc, decide_eq_true_eq]
  rfl

theorem readPadFinal_eq_ok_iff {text : String} {switched : Bool} :
    ServiceSettings.readPadFinal text = .ok switched ↔
      text = if switched then "true" else "false" := by
  unfold ServiceSettings.readPadFinal
  split
  · next htrue => cases switched <;> simp [htrue]
  · next htrue =>
      split
      · next hfalse => cases switched <;> simp [hfalse]
      · next hfalse => cases switched <;> simp [htrue, hfalse]

/-- A text is read as a value exactly if it says so. -/
theorem read_eq_ok_iff {option : ServiceOption} {text : String} {value : option.Value} :
    option.read text = .ok value ↔ option.Denotes text value := by
  cases option with
  | bind => exact readWith_eq_ok_iff.trans Address.ofText?_eq_some_iff
  | port => exact readPort_eq_ok_iff
  | queueDepth => exact readQueueDepth_eq_ok_iff
  | shell | shellArguments =>
      constructor
      · intro hread
        exact (Except.ok.inj hread).symm
      · intro hdenotes
        exact congrArg Except.ok hdenotes.symm
  | maxCapture => exact readMaxCapture_eq_ok_iff
  | padFinal => exact readPadFinal_eq_ok_iff
  | help | version => exact iff_of_false (by simp [read]) not_false

theorem Denotes.eq {option : ServiceOption} {text : String} {value other : option.Value}
    (hvalue : option.Denotes text value) (hother : option.Denotes text other) : value = other := by
  rw [← read_eq_ok_iff] at hvalue hother
  exact Except.ok.inj (hvalue.symm.trans hother)

theorem readShellArguments_eq (text : String) :
    ServiceSettings.readShellArguments text = read .shellArguments text := by
  rw [ServiceSettings.readShellArguments, splitBlanks_eq_splitOn]
  rfl

def add : (option : ServiceOption) → Option option.Value → String →
    Except OptionFault (Option option.Value)
  | .shellArguments => fun current text =>
    (read .shellArguments text).map fun given => some (current.getD [] ++ given)
  | option => fun current text => readOnce current option.read text

end ServiceOption

def ServiceSettings.get (settings : ServiceSettings) :
    (option : ServiceOption) → Option option.Value
  | .bind => settings.address
  | .port => settings.port
  | .queueDepth => settings.queueDepth
  | .shell => settings.shell
  | .shellArguments => settings.shellArguments
  | .maxCapture => settings.maxCapture
  | .padFinal => settings.padFinal
  | .help | .version => none

def ServiceConfig.get (config : ServiceConfig) : (option : ServiceOption) → option.Value
  | .bind => config.endpoint.address
  | .port => config.endpoint.port
  | .queueDepth => config.queueDepth
  | .shell => config.shell.program
  | .shellArguments => config.shell.arguments
  | .maxCapture => config.shell.maxCapture
  | .padFinal => config.transmission.padFinal
  | .help | .version => ()

namespace ServiceSettings

theorem ext_get {settings other : ServiceSettings}
    (hget : ∀ option, settings.get option = other.get option) : settings = other := by
  cases settings
  cases other
  have hbind := hget .bind
  have hport := hget .port
  have hqueueDepth := hget .queueDepth
  have hshell := hget .shell
  have hshellArguments := hget .shellArguments
  have hmaxCapture := hget .maxCapture
  have hpadFinal := hget .padFinal
  simp only [get] at *
  subst hbind hport hqueueDepth hshell hshellArguments hmaxCapture hpadFinal
  rfl

theorem get_config (settings : ServiceSettings) (option : ServiceOption) :
    settings.config.get option = (settings.get option).getD option.default := by
  cases option <;> rfl

def set (settings : ServiceSettings) :
    (option : ServiceOption) → Option option.Value → ServiceSettings
  | .bind, address => { settings with address }
  | .port, port => { settings with port }
  | .queueDepth, queueDepth => { settings with queueDepth }
  | .shell, shell => { settings with shell }
  | .shellArguments, shellArguments => { settings with shellArguments }
  | .maxCapture, maxCapture => { settings with maxCapture }
  | .padFinal, padFinal => { settings with padFinal }
  | .help, _ | .version, _ => settings

theorem get_set {option : ServiceOption} (settings : ServiceSettings) (next : Option option.Value)
    (hkind : (ServiceOption.vocabulary.kind option).isGiven = true) :
    (settings.set option next).get option = next := by
  cases option <;> first | rfl | cases hkind

theorem get_set_of_ne {option other : ServiceOption} (settings : ServiceSettings)
    (next : Option option.Value) (hother : other ≠ option) :
    (settings.set option next).get other = settings.get other := by
  cases option <;> cases other <;> first | rfl | exact absurd rfl hother

theorem takeIn_value (settings : ServiceSettings) {option : ServiceOption} (text : String)
    (hkind : (ServiceOption.vocabulary.kind option).takesValue = true) :
    settings.takeIn (.value option text) =
      (option.add (settings.get option) text).map (settings.set option) := by
  cases option with
  | shellArguments =>
      rw [takeIn, give, ServiceOption.readShellArguments_eq]
      rfl
  | bind | port | queueDepth | shell | maxCapture => rfl
  | padFinal | help | version => cases hkind

def fields : Fields ServiceOption.vocabulary ServiceSettings where
  Value := ServiceOption.Value
  get := get
  set := set
  add := ServiceOption.add
  takeIn := takeIn
  get_set := get_set
  get_set_of_ne := get_set_of_ne
  takeIn_flag := by
    intro option settings hkind
    cases option <;> first | rfl | cases hkind
  takeIn_value := fun settings text hkind => settings.takeIn_value text hkind

theorem exists_withEnvironment {settings : ServiceSettings} {environment : String → Option String}
    {value : (option : ServiceOption) → Option option.Value}
    (hvalue : ∀ option, orVariable (settings.get option) (option.given environment) option.read =
      .ok (value option)) :
    ∃ after, settings.withEnvironment environment = .ok after ∧
      ∀ option, after.get option = value option := by
  have hbind := hvalue .bind
  have hport := hvalue .port
  have hqueueDepth := hvalue .queueDepth
  have hshell := hvalue .shell
  have hmaxCapture := hvalue .maxCapture
  have hpadFinal := hvalue .padFinal
  have hshellArguments : orVariable settings.shellArguments
      (ServiceOption.given environment .shellArguments) readShellArguments =
        .ok (value .shellArguments) := by
    rw [funext ServiceOption.readShellArguments_eq]
    exact hvalue .shellArguments
  simp only [get, ServiceOption.read] at hbind hport hqueueDepth hshell hmaxCapture hpadFinal
  simp only [withEnvironment, hbind, hport, hqueueDepth, hshell, hshellArguments, hmaxCapture,
    hpadFinal]
  refine ⟨_, rfl, ?_⟩
  intro option
  cases option with
  | help => exact Except.ok.inj (hvalue .help)
  | version => exact Except.ok.inj (hvalue .version)
  | _ => rfl

end ServiceSettings

namespace ServiceOption

/-! ## What settles an option -/

/-- The value that the texts on the command line give to an option. -/
def Given : (option : ServiceOption) → List String → option.Value → Prop
  | .shellArguments => fun texts value =>
    value = texts.flatMap fun text => (text.toList.splitOn ' ').map String.ofList
  | option => fun texts value => ∃ text, texts = [text] ∧ option.Denotes text value

/-- The value of an option comes from the command line; if the option is not there, from its
variable; and if this is not set, it is the default. -/
inductive Resolves (environment : String → Option String) (said : List (Finding ServiceOption))
    (option : ServiceOption) (value : option.Value) : Prop
  | fromCommandLine (hpresent : Finding.texts option said ≠ [])
      (hgiven : option.Given (Finding.texts option said) value)
  | fromVariable {text : String} (habsent : Finding.texts option said = [])
      (hvariable : option.given environment = some text) (hdenotes : option.Denotes text value)
  | fromDefault (habsent : Finding.texts option said = [])
      (hvariable : option.given environment = none) (hdefault : value = option.default)

/-- Every option but the arguments of the shell is given once at most, and what decides says
something: the texts on the command line, or the variable of an option that is not given. -/
structure Resolvable (environment : String → Option String)
    (said : List (Finding ServiceOption)) : Prop where
  once : ∀ option, option ≠ .shellArguments → (Finding.texts option said).length ≤ 1
  texts_denote : ∀ option, ∀ text ∈ Finding.texts option said,
    ∃ value, option.Denotes text value
  variable_denotes : ∀ option text, Finding.texts option said = [] →
    option.given environment = some text → ∃ value, option.Denotes text value

theorem foldlM_add_shellArguments (current : List String) (texts : List String) :
    texts.foldlM (add .shellArguments) (some current) =
      .ok (some (current ++ texts.flatMap fun text =>
        (text.toList.splitOn ' ').map String.ofList)) := by
  induction texts generalizing current with
  | nil => simp [pure, Except.pure]
  | cons text texts ih =>
      rw [List.foldlM_cons, List.flatMap_cons, ← List.append_assoc, ← ih]
      rfl

theorem add_eq_readOnce {option : ServiceOption} (hsingle : option ≠ .shellArguments) :
    option.add = fun current text => readOnce current option.read text := by
  cases option <;> first | rfl | exact absurd rfl hsingle

theorem given_singleton {option : ServiceOption} {text : String} {value : option.Value}
    (hdenotes : option.Denotes text value) : option.Given [text] value := by
  cases option with
  | shellArguments => exact hdenotes.trans (List.append_nil _).symm
  | _ => exact ⟨text, rfl, hdenotes⟩

theorem exists_given {option : ServiceOption} {texts : List String} (hpresent : texts ≠ [])
    (honce : option ≠ .shellArguments → texts.length ≤ 1)
    (hdenote : ∀ text ∈ texts, ∃ value, option.Denotes text value) :
    ∃ value, texts.foldlM option.add none = .ok (some value) ∧ option.Given texts value := by
  obtain ⟨first, later, rfl⟩ := List.exists_cons_of_ne_nil hpresent
  by_cases hrepeated : option = .shellArguments
  · subst hrepeated
    exact ⟨_, foldlM_add_shellArguments _ later, rfl⟩
  · have hnone : later = [] := by simpa using honce hrepeated
    obtain ⟨value, hvalue⟩ := hdenote first List.mem_cons_self
    rw [hnone, add_eq_readOnce hrepeated]
    exact ⟨value, foldlM_readOnce (read_eq_ok_iff.mpr hvalue), given_singleton hvalue⟩

theorem Given.exists_text {option : ServiceOption} {texts : List String} {value : option.Value}
    (hsingle : option ≠ .shellArguments) (hgiven : option.Given texts value) :
    ∃ text, texts = [text] ∧ option.Denotes text value := by
  cases option with
  | shellArguments => exact absurd rfl hsingle
  | _ => exact hgiven

theorem Given.eq {option : ServiceOption} {texts : List String} {value other : option.Value}
    (hvalue : option.Given texts value) (hother : option.Given texts other) : value = other := by
  by_cases hrepeated : option = .shellArguments
  · subst hrepeated
    exact hvalue.trans hother.symm
  · obtain ⟨text, rfl, hdenotes⟩ := hvalue.exists_text hrepeated
    obtain ⟨_, htext, hotherDenotes⟩ := hother.exists_text hrepeated
    rw [← List.singleton_inj.mp htext] at hotherDenotes
    exact hdenotes.eq hotherDenotes

/-- What settles an option settles it in one way. -/
theorem Resolves.eq {environment : String → Option String} {said : List (Finding ServiceOption)}
    {option : ServiceOption} {value other : option.Value}
    (hvalue : option.Resolves environment said value)
    (hother : option.Resolves environment said other) : value = other := by
  cases hvalue with
  | fromCommandLine hpresent hgiven =>
      cases hother with
      | fromCommandLine _ hotherGiven => exact hgiven.eq hotherGiven
      | fromVariable habsent => exact absurd habsent hpresent
      | fromDefault habsent => exact absurd habsent hpresent
  | fromVariable habsent hvariable hdenotes =>
      cases hother with
      | fromCommandLine hpresent => exact absurd habsent hpresent
      | fromVariable _ hotherVariable hotherDenotes =>
          rw [hvariable, Option.some.injEq] at hotherVariable
          subst hotherVariable
          exact hdenotes.eq hotherDenotes
      | fromDefault _ hnone => cases hvariable.symm.trans hnone
  | fromDefault habsent hnone hdefault =>
      cases hother with
      | fromCommandLine hpresent => exact absurd habsent hpresent
      | fromVariable _ hotherVariable => cases hotherVariable.symm.trans hnone
      | fromDefault _ _ hotherDefault => exact hdefault.trans hotherDefault.symm

/-- A command line and an environment that settle every option have nothing against them. -/
theorem Resolvable.of_resolves {environment : String → Option String}
    {said : List (Finding ServiceOption)} {value : (option : ServiceOption) → option.Value}
    (hresolves : ∀ option : ServiceOption, option.Resolves environment said (value option)) :
    Resolvable environment said := by
  constructor
  · intro option hsingle
    cases hresolves option with
    | fromCommandLine _ hgiven =>
        obtain ⟨text, htexts, _⟩ := hgiven.exists_text hsingle
        rw [htexts, List.length_singleton]
    | fromVariable habsent | fromDefault habsent =>
        rw [habsent]
        exact Nat.zero_le _
  · intro option text hmem
    by_cases hrepeated : option = .shellArguments
    · subst hrepeated
      exact ⟨_, rfl⟩
    · cases hresolves option with
      | fromCommandLine _ hgiven =>
          obtain ⟨given, htexts, hdenotes⟩ := hgiven.exists_text hrepeated
          rw [htexts, List.mem_singleton] at hmem
          subst hmem
          exact ⟨_, hdenotes⟩
      | fromVariable habsent | fromDefault habsent =>
          rw [habsent] at hmem
          cases hmem
  · intro option text habsent hvariable
    cases hresolves option with
    | fromCommandLine hpresent => exact absurd habsent hpresent
    | fromVariable _ hother hdenotes =>
        rw [hvariable, Option.some.injEq] at hother
        subst hother
        exact ⟨_, hdenotes⟩
    | fromDefault _ hnone => cases hvariable.symm.trans hnone

/-- What the program makes of the texts of an option, and of its variable if there are none. -/
def Settles (option : ServiceOption) (environment : String → Option String) (texts : List String)
    (settled : Option option.Value) : Prop :=
  ∃ current, texts.foldlM option.add none = .ok current ∧
    ServiceSettings.orVariable current (option.given environment) option.read = .ok settled

theorem exists_settled {environment : String → Option String} {said : List (Finding ServiceOption)}
    (hresolvable : Resolvable environment said) (option : ServiceOption) :
    ∃ settled, option.Resolves environment said (settled.getD option.default) ∧
      ∀ other, (Finding.texts option said = [] → option.given other = option.given environment) →
        option.Settles other (Finding.texts option said) settled := by
  by_cases habsent : Finding.texts option said = []
  · cases hvariable : option.given environment with
    | none =>
        refine ⟨none, .fromDefault habsent hvariable rfl, ?_⟩
        intro other hother
        refine ⟨none, by rw [habsent]; rfl, ?_⟩
        rw [hother habsent]
        rfl
    | some text =>
        obtain ⟨value, hvalue⟩ := hresolvable.variable_denotes option text habsent hvariable
        refine ⟨some value, .fromVariable habsent hvariable hvalue, ?_⟩
        intro other hother
        refine ⟨none, by rw [habsent]; rfl, ?_⟩
        rw [hother habsent, ServiceSettings.orVariable, read_eq_ok_iff.mpr hvalue]
        rfl
  · obtain ⟨value, hcollected, hgiven⟩ := exists_given habsent (hresolvable.once option)
      (hresolvable.texts_denote option)
    refine ⟨some value, .fromCommandLine habsent hgiven, ?_⟩
    -- The environment does not come in: a setting that is there is not looked up.
    intro other _
    exact ⟨some value, hcollected, rfl⟩

end ServiceOption

namespace ServiceConfig

theorem exists_settings_of_settles {environment : String → Option String}
    {said : List (Finding ServiceOption)} {arguments : List String}
    (hwrites : ServiceOption.vocabulary.WritesAll said arguments)
    {settled : (option : ServiceOption) → Option option.Value}
    (hsettles : ∀ option : ServiceOption,
      option.Settles environment (Finding.texts option said) (settled option)) :
    ∃ settings : ServiceSettings, (∀ option, settings.get option = settled option) ∧
      ofArguments arguments environment = .ok settings.config := by
  choose current hcurrent hvariable using hsettles
  have hstart : ∀ option, (Finding.texts option said).foldlM (ServiceSettings.fields.add option)
      (ServiceSettings.fields.get {} option) = .ok (current option) := by
    intro option
    have hempty : ({} : ServiceSettings).get option = none := by cases option <;> rfl
    rw [show ServiceSettings.fields.get {} option = none from hempty]
    exact hcurrent option
  obtain ⟨given, hgiven, hget⟩ := ServiceSettings.fields.exists_foldlM hwrites hstart
  have hargument : ServiceSettings.ofArguments arguments = .ok given := by
    rw [ServiceSettings.ofArguments, hwrites.findings_eq ServiceOption.wellNamed]
    exact hgiven
  have hsettled : ∀ option, ServiceSettings.orVariable (given.get option)
      (option.given environment) option.read = .ok (settled option) := by
    intro option
    rw [show given.get option = current option from hget option]
    exact hvariable option
  obtain ⟨settings, hsettings, hvalues⟩ := ServiceSettings.exists_withEnvironment hsettled
  refine ⟨settings, hvalues, ?_⟩
  rw [ofArguments, hargument]
  simp only [hsettings]
  rfl

/-- Every setting comes from the command line if its option is there, or else from its variable if
that is set, or else it is the default.  Neither the spellings of the options nor their order make a
difference, as long as the arguments of the shell keep theirs, and the variables of the options that
are there do not either. -/
theorem ofArguments_by_precedence {environment : String → Option String}
    {said : List (Finding ServiceOption)} {arguments : List String}
    (hwrites : ServiceOption.vocabulary.WritesAll said arguments)
    (hresolvable : ServiceOption.Resolvable environment said) :
    ∃ config, ofArguments arguments environment = .ok config ∧
      (∀ option : ServiceOption, option.Resolves environment said (config.get option)) ∧
      config.transmission.chunkSize = 1016 ∧ config.endpoint.scope = 0 ∧
      ∀ others otherArguments otherEnvironment,
        ServiceOption.vocabulary.WritesAll others otherArguments → others.Perm said →
        Finding.texts .shellArguments others = Finding.texts .shellArguments said →
        (∀ option : ServiceOption, Finding.texts option said = [] →
          option.given otherEnvironment = option.given environment) →
        ofArguments otherArguments otherEnvironment = .ok config := by
  choose settled hresolves hsettles using ServiceOption.exists_settled hresolvable
  obtain ⟨settings, hget, hconfig⟩ :=
    exists_settings_of_settles hwrites fun option => hsettles option environment fun _ => rfl
  refine ⟨settings.config, hconfig, ?_, rfl, rfl, ?_⟩
  · intro option
    rw [ServiceSettings.get_config, hget]
    exact hresolves option
  · intro others otherArguments otherEnvironment hothers hperm hshell hagree
    -- Moving different options past each other moves no text past another of its own option.
    have htexts : ∀ option, Finding.texts option others = Finding.texts option said := by
      intro option
      by_cases hrepeated : option = .shellArguments
      · rw [hrepeated, hshell]
      · exact Finding.texts_eq_of_perm hperm (hresolvable.once option hrepeated)
    have hsame : ∀ option : ServiceOption,
        option.Settles otherEnvironment (Finding.texts option others) (settled option) := by
      intro option
      rw [htexts]
      exact hsettles option otherEnvironment (hagree option)
    obtain ⟨otherSettings, hotherGet, hotherConfig⟩ := exists_settings_of_settles hothers hsame
    have heq : otherSettings = settings := ServiceSettings.ext_get fun option => by
      rw [hotherGet, hget]
    rw [hotherConfig, heq]

/-- A configuration is known by its settings. -/
theorem ext_get {config other : ServiceConfig}
    (hget : ∀ option, config.get option = other.get option)
    (hsize : config.transmission.chunkSize = other.transmission.chunkSize)
    (hscope : config.endpoint.scope = other.endpoint.scope) : config = other := by
  obtain ⟨⟨address, port, scope⟩, queueDepth, ⟨chunkSize, padFinal⟩, program, arguments, limit⟩ :=
    config
  obtain ⟨⟨_, _, _⟩, _, ⟨_, _⟩, _, _, _⟩ := other
  have hbind := hget .bind
  have hport := hget .port
  have hqueueDepth := hget .queueDepth
  have hshell := hget .shell
  have hshellArguments := hget .shellArguments
  have hmaxCapture := hget .maxCapture
  have hpadFinal := hget .padFinal
  simp only [get] at *
  subst hbind hport hqueueDepth hshell hshellArguments hmaxCapture hpadFinal hsize hscope
  rfl

/-- The address and the limit come from their variables.  Everything else is given, so the other
variables are not looked at, malformed as three of them are. -/
theorem ofArguments_in_two_orders :
    let environment : String → Option String := fun name =>
      if name = "EXECUTOR_BIND" then some "::1"
      else if name = "EXECUTOR_PORT" then some "many"
      else if name = "EXECUTOR_QUEUE_DEPTH" then some "0"
      else if name = "EXECUTOR_SHELL" then some "fish"
      else if name = "EXECUTOR_SHELL_ARGS" then some "-i"
      else if name = "EXECUTOR_MAX_CAPTURE" then some "+05"
      else if name = "EXECUTOR_PAD_FINAL_CHUNK" then some "no"
      else none
    let others : String → Option String := fun name =>
      if name = "EXECUTOR_BIND" then some "::1"
      else if name = "EXECUTOR_MAX_CAPTURE" then some "+05"
      else none
    let config : ServiceConfig :=
      { endpoint := { address := .v6 ⟨[0, 0, 0, 0, 0, 0, 0, 1], rfl⟩, port := 36000 }
        queueDepth := 2
        transmission := { chunkSize := 1016, padFinal := true }
        shell := { program := "zsh", arguments := ["-l", "-s", "--"], maxCapture := 5 } }
    ofArguments ["--shell-args", "-l -s", "-p36000", "--shell", "zsh", "--pad-final-chunk",
        "--shell-args=--", "-q=2"] environment = .ok config ∧
      ofArguments ["-q", "2", "--shell-args=-l -s", "-szsh", "--port=36000", "--shell-args", "--",
        "--pad-final-chunk"] others = .ok config := by
  intro environment others config
  let said : List (Finding ServiceOption) :=
    [.value .shellArguments "-l -s", .value .port "36000", .value .shell "zsh", .flag .padFinal,
      .value .shellArguments "--", .value .queueDepth "2"]
  have hapart : ∀ text, ServiceOption.vocabulary.Writes (.value .shellArguments text)
      ["--" ++ "shell-args", text] := fun _ => .apart (.long rfl) rfl (.inl rfl)
  have hjoined : ∀ text, ServiceOption.vocabulary.Writes (.value .shellArguments text)
      ["--" ++ "shell-args" ++ "=" ++ text] := fun _ => .joined (.long rfl) rfl
  have hflag : ServiceOption.vocabulary.Writes (.flag .padFinal) ["--" ++ "pad-final-chunk"] :=
    .flag rfl rfl
  have hletters : ∀ letters, ServiceOption.vocabulary.ReadsLetters letters :=
    fun _ htakes => absurd htakes (by decide)
  have hport : ServiceOption.vocabulary.Writes (.value .port "36000")
      ["-" ++ 'p'.toString ++ "36000"] :=
    .joined (.short rfl (hletters _) (by decide) (by decide)) rfl
  have hshell : ServiceOption.vocabulary.Writes (.value .shell "zsh") ["--" ++ "shell", "zsh"] :=
    .apart (.long rfl) rfl (.inr (.inr (by decide)))
  have hdepth : ServiceOption.vocabulary.Writes (.value .queueDepth "2")
      ["-" ++ 'q'.toString ++ "=" ++ "2"] := .joined (.shortEquals rfl (hletters _)) rfl
  have hotherPort : ServiceOption.vocabulary.Writes (.value .port "36000")
      ["--" ++ "port" ++ "=" ++ "36000"] := .joined (.long rfl) rfl
  have hotherShell : ServiceOption.vocabulary.Writes (.value .shell "zsh")
      ["-" ++ 's'.toString ++ "zsh"] :=
    .joined (.short rfl (hletters _) (by decide) (by decide)) rfl
  have hotherDepth : ServiceOption.vocabulary.Writes (.value .queueDepth "2")
      ["-" ++ 'q'.toString, "2"] := .apart (.short rfl) rfl (.inr (.inr (by decide)))
  have hwrites := Vocabulary.WritesAll.cons (hapart "-l -s") (.cons hport (.cons hshell
    (.cons hflag (.cons (hjoined "--") (.cons hdepth .nil)))))
  have hothers := Vocabulary.WritesAll.cons hotherDepth (.cons (hjoined "-l -s")
    (.cons hotherShell (.cons hotherPort (.cons (hapart "--") (.cons hflag .nil)))))
  have hsaysBind : ServiceOption.bind.Denotes "::1" (config.get .bind) :=
    ServiceOption.read_eq_ok_iff.mp (by decide)
  have hsaysPort : ServiceOption.port.Denotes "36000" (config.get .port) :=
    ServiceOption.read_eq_ok_iff.mp (by decide)
  have hsaysDepth : ServiceOption.queueDepth.Denotes "2" (config.get .queueDepth) :=
    ServiceOption.read_eq_ok_iff.mp (by decide)
  have hsaysCapture : ServiceOption.maxCapture.Denotes "+05" (config.get .maxCapture) :=
    ServiceOption.read_eq_ok_iff.mp (by decide)
  have hsaysArguments : config.get .shellArguments =
      ["-l -s", "--"].flatMap fun text => (text.toList.splitOn ' ').map String.ofList := by
    decide
  have hexpected : ∀ option : ServiceOption,
      option.Resolves environment said (config.get option) := by
    intro option
    cases option with
    | bind => exact .fromVariable rfl rfl hsaysBind
    | maxCapture => exact .fromVariable rfl rfl hsaysCapture
    | port => exact .fromCommandLine (by decide) ⟨_, rfl, hsaysPort⟩
    | queueDepth => exact .fromCommandLine (by decide) ⟨_, rfl, hsaysDepth⟩
    | shell => exact .fromCommandLine (by decide) ⟨_, rfl, rfl⟩
    | padFinal => exact .fromCommandLine (by decide) ⟨_, rfl, rfl⟩
    | shellArguments => exact .fromCommandLine (by decide) hsaysArguments
    | help | version => exact .fromDefault rfl rfl rfl
  obtain ⟨found, hfound, hresolves, hsize, hscope, hsame⟩ :=
    ofArguments_by_precedence hwrites (.of_resolves hexpected)
  have hconfig : found = config :=
    ext_get (fun option => (hresolves option).eq (hexpected option)) hsize hscope
  rw [hconfig] at hfound hsame
  refine ⟨hfound, hsame _ _ others hothers (by decide) (by decide) ?_⟩
  intro option habsent
  cases option with
  | port | queueDepth | shell | shellArguments | padFinal => cases habsent
  | bind | maxCapture | help | version => rfl

end ServiceConfig

end DatagramShell
