import DatagramShell.Client.Options
import DatagramShell.Proofs.Options.Reading
import Mathlib.Tactic

/-!
# When a client is told to stop the service

The settings record every finding in a field of its own, so the order to stop is in them exactly if
its flag has been found.  A command line that is carried out and has the flag has no command.  The
flag has no letter, so `--kill` stands among the arguments.
-/

namespace DatagramShell

namespace ClientSettings

variable {settings next : ClientSettings}

theorem kill_of_takeIn {finding : Finding ClientOption}
    (htake : settings.takeIn finding = .ok next) :
    next.kill.isSome ↔ settings.kill.isSome ∨ finding = .flag .kill := by
  cases finding with
  | flag option =>
      cases option with
      | kill =>
          obtain ⟨kill, honce, rfl⟩ := exists_of_map_eq_ok htake
          obtain ⟨_, _, _, rfl⟩ := readOnce_eq_ok_iff.mp honce
          simp
      | target | bind | timeout | help | version => cases htake
  | value option text =>
      cases option with
      | target | bind | timeout =>
          obtain ⟨_, _, rfl⟩ := exists_of_map_eq_ok htake
          simp
      | kill | help | version => cases htake
  | words words =>
      cases htake
      simp
  | missingValue | unneededValue | unknown | help | version => cases htake

theorem kill_of_foldlM {findings : List (Finding ClientOption)}
    (htake : findings.foldlM takeIn settings = .ok next) :
    next.kill.isSome ↔ settings.kill.isSome ∨ .flag .kill ∈ findings := by
  induction findings generalizing settings with
  | nil =>
      cases htake
      simp
  | cons finding findings ih =>
      obtain ⟨middle, hfirst, hrest⟩ := exists_of_foldlM_cons htake
      rw [ih hrest, kill_of_takeIn hfirst, List.mem_cons, or_assoc, @eq_comm _ finding]

theorem task_eq_stop_iff {task : Task} (htask : settings.task = .ok task) :
    task = .stop ↔ settings.kill.isSome := by
  unfold ClientSettings.task at htask
  split at htask <;> cases htask <;> simp_all

end ClientSettings

namespace Invocation

theorem task_eq_stop_iff {arguments : List String} {invocation : Invocation}
    (hinvocation : ofArguments arguments = .ok invocation) :
    invocation.task = .stop ↔ .flag .kill ∈ ClientOption.vocabulary.findings arguments := by
  unfold ofArguments at hinvocation
  split at hinvocation
  · cases hinvocation
  · next settings hsettings =>
      obtain ⟨task, htask, rfl⟩ := exists_of_map_eq_ok hinvocation
      rw [ClientSettings.task_eq_stop_iff htask, ClientSettings.kill_of_foldlM hsettings]
      simp

end Invocation

namespace ClientOption

theorem eq_of_ofLong?_eq_kill {name : String} (hname : ofLong? name = some .kill) :
    name = "kill" := by
  unfold ofLong? at hname
  split at hname <;> cases hname
  rfl

theorem ofShort?_ne_kill (letter : Char) : ofShort? letter ≠ some .kill := by
  unfold ofShort?
  split <;> simp

theorem eq_of_spells_kill {argument : String} (hspells : vocabulary.Spells .kill argument) :
    argument = "--kill" := by
  unfold Vocabulary.Spells at hspells
  split at hspells
  · next name value hform =>
      obtain ⟨hname, rfl⟩ := hspells
      rw [ArgumentForm.eq_of_ofText_eq_long hform, eq_of_ofLong?_eq_kill hname]
      rfl
  · next letters hform =>
      obtain ⟨letter, _, hletter⟩ := hspells
      exact absurd hletter (ofShort?_ne_kill letter)
  · cases hspells
  · cases hspells

/-- Whoever finds the order to stop has been given it in full. -/
theorem kill_mem_arguments {arguments : List String}
    (hmem : .flag .kill ∈ vocabulary.findings arguments) : "--kill" ∈ arguments := by
  obtain ⟨argument, hargument, hspells⟩ := Vocabulary.exists_spells_of_flag_mem hmem
  rw [← eq_of_spells_kill hspells]
  exact hargument

end ClientOption

end DatagramShell
