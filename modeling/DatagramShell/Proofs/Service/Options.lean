import DatagramShell.Service.Options
import DatagramShell.Proofs.Options.Reading
import Mathlib.Tactic

/-!
# What the settings can be

A setting comes from the reader of its option, whether the text stands on the command line or in a
variable, or it is the default.  So the two settings with a range keep to it.
-/

namespace DatagramShell

theorem ServiceSettings.forall_mem_of_orVariable {α : Type} {property : α → Prop}
    {read : String → Except OptionFault α}
    (hread : ∀ text value, read text = .ok value → property value) {current next : Option α}
    (hcurrent : ∀ value ∈ current, property value) {given : Option String}
    (hnext : orVariable current given read = .ok next) :
    ∀ value ∈ next, property value := by
  cases current with
  | some value =>
      cases hnext
      exact hcurrent
  | none =>
      cases given with
      | none =>
          cases hnext
          exact hcurrent
      | some text =>
          obtain ⟨value, hvalue, rfl⟩ := exists_of_map_eq_ok hnext
          intro other hother
          cases hother
          exact hread text value hvalue

namespace Numeral

theorem le_of_upTo? {high number : ℕ} {text : List Char}
    (hread : upTo? high text = some number) : number ≤ high := by
  simpa using (Option.filter_eq_some_iff.mp hread).2

theorem bounds_of_between? {low high number : ℤ} {text : List Char}
    (hread : between? low high text = some number) : low ≤ number ∧ number ≤ high := by
  simpa using (Option.filter_eq_some_iff.mp hread).2

end Numeral

namespace ServiceSettings

theorem bounds_of_readQueueDepth (text : String) (depth : ℕ)
    (hread : readQueueDepth text = .ok depth) :
    1 ≤ depth ∧ depth ≤ ServiceConfig.maxQueueDepth := by
  rcases Option.map_eq_some_iff.mp (readWith_eq_ok_iff.mp hread) with ⟨number, hnumber, rfl⟩
  have hbounds := Numeral.bounds_of_between? hnumber
  omega

theorem le_of_readMaxCapture (text : String) (limit : ℕ) (hread : readMaxCapture text = .ok limit) :
    limit ≤ ServiceConfig.maxMaxCapture :=
  Numeral.le_of_upTo? (readWith_eq_ok_iff.mp hread)

/-- The settings that have a range are within it, as far as they are given. -/
structure InRange (settings : ServiceSettings) : Prop where
  queueDepth : ∀ depth ∈ settings.queueDepth, 1 ≤ depth ∧ depth ≤ ServiceConfig.maxQueueDepth
  maxCapture : ∀ limit ∈ settings.maxCapture, limit ≤ ServiceConfig.maxMaxCapture

namespace InRange

variable {settings next : ServiceSettings}

theorem nothing : InRange {} where
  queueDepth _ hmem := by cases hmem
  maxCapture _ hmem := by cases hmem

theorem give (hrange : InRange settings) {option : ServiceOption} {text : String}
    (hgive : settings.give option text = .ok next) : InRange next := by
  cases option with
  | bind | port | shell =>
      obtain ⟨_, _, rfl⟩ := exists_of_map_eq_ok hgive
      exact ⟨hrange.queueDepth, hrange.maxCapture⟩
  | shellArguments =>
      cases hgive
      exact ⟨hrange.queueDepth, hrange.maxCapture⟩
  | queueDepth =>
      obtain ⟨_, honce, rfl⟩ := exists_of_map_eq_ok hgive
      exact ⟨forall_mem_of_readOnce bounds_of_readQueueDepth honce, hrange.maxCapture⟩
  | maxCapture =>
      obtain ⟨_, honce, rfl⟩ := exists_of_map_eq_ok hgive
      exact ⟨hrange.queueDepth, forall_mem_of_readOnce le_of_readMaxCapture honce⟩
  | padFinal | help | version => cases hgive

theorem giveFlag (hrange : InRange settings) {option : ServiceOption}
    (hgive : settings.giveFlag option = .ok next) : InRange next := by
  cases option with
  | padFinal =>
      obtain ⟨_, _, rfl⟩ := exists_of_map_eq_ok hgive
      exact ⟨hrange.queueDepth, hrange.maxCapture⟩
  | _ => cases hgive

theorem takeIn (hrange : InRange settings) {finding : Finding ServiceOption}
    (htake : settings.takeIn finding = .ok next) : InRange next := by
  cases finding with
  | flag option => exact hrange.giveFlag htake
  | value option text => exact hrange.give htake
  | _ => cases htake

theorem foldlM (hrange : InRange settings) {findings : List (Finding ServiceOption)}
    (htake : findings.foldlM ServiceSettings.takeIn settings = .ok next) : InRange next := by
  induction findings generalizing settings with
  | nil =>
      cases htake
      exact hrange
  | cons finding findings ih =>
      obtain ⟨middle, hfirst, hrest⟩ := exists_of_foldlM_cons htake
      exact ih (hrange.takeIn hfirst) hrest

theorem withEnvironment (hrange : InRange settings) {environment : String → Option String}
    (hnext : settings.withEnvironment environment = .ok next) : InRange next := by
  obtain ⟨_, _, hnext⟩ := exists_of_bind_eq_ok hnext
  obtain ⟨_, _, hnext⟩ := exists_of_bind_eq_ok hnext
  obtain ⟨_, hdepth, hnext⟩ := exists_of_bind_eq_ok hnext
  obtain ⟨_, _, hnext⟩ := exists_of_bind_eq_ok hnext
  obtain ⟨_, _, hnext⟩ := exists_of_bind_eq_ok hnext
  obtain ⟨_, hcapture, hnext⟩ := exists_of_bind_eq_ok hnext
  obtain ⟨_, _, hnext⟩ := exists_of_bind_eq_ok hnext
  cases hnext
  exact ⟨forall_mem_of_orVariable bounds_of_readQueueDepth hrange.queueDepth hdepth,
    forall_mem_of_orVariable le_of_readMaxCapture hrange.maxCapture hcapture⟩

/-- The defaults are within the ranges, too. -/
theorem config (hrange : InRange settings) :
    1 ≤ settings.config.queueDepth ∧ settings.config.queueDepth ≤ ServiceConfig.maxQueueDepth ∧
      settings.config.shell.maxCapture ≤ ServiceConfig.maxMaxCapture := by
  have hdepth : 1 ≤ settings.config.queueDepth ∧
      settings.config.queueDepth ≤ ServiceConfig.maxQueueDepth :=
    getD_of_forall_mem hrange.queueDepth (by decide)
  have hcapture : settings.config.shell.maxCapture ≤ ServiceConfig.maxMaxCapture :=
    getD_of_forall_mem hrange.maxCapture (by decide)
  exact ⟨hdepth.1, hdepth.2, hcapture⟩

end InRange

end ServiceSettings

theorem ServiceConfig.exists_settings {arguments : List String}
    {environment : String → Option String} {config : ServiceConfig}
    (hconfig : ofArguments arguments environment = .ok config) :
    ∃ settings, settings.InRange ∧ config = ServiceSettings.config settings := by
  unfold ofArguments at hconfig
  cases hgiven : ServiceSettings.ofArguments arguments with
  | error fault =>
      rw [hgiven] at hconfig
      cases hconfig
  | ok given =>
      rw [hgiven] at hconfig
      obtain ⟨settings, hsettings, rfl⟩ := exists_of_map_eq_ok hconfig
      exact ⟨settings, (ServiceSettings.InRange.nothing.foldlM hgiven).withEnvironment hsettings,
        rfl⟩

end DatagramShell
