import DatagramShell.Proofs.Service.Steps
import Mathlib.Tactic

/-!
# The end of a service

Only the control token stops a service.  Until then each command that was started has been answered,
but for the one that runs.  The token breaks that one off, and from then on nothing is started,
answered or sent.
-/

namespace DatagramShell

namespace Event

/-- The datagrams that go to a peer. -/
def sent : Event → List Bytes
  | .rejected reply | .finished _ reply _ => reply
  | _ => []

def started? : Event → Option Bytes
  | .started line => some line
  | .finished _ _ next => next
  | _ => none

end Event

namespace Session

theorem IsRow.exists_row {depth : ℕ} {session : Session} (hsession : session.IsRow depth)
    (hup : session ≠ .down) :
    ∃ row : List Job, row.length ≤ depth + 1 ∧ session = .up (.ofRow row) := by
  cases hsession with
  | down => exact absurd rfl hup
  | up hlength => exact ⟨_, hlength, rfl⟩

end Session

namespace Service

/-- All that is sent to the peers in a run. -/
def sent (service : Service) (actions : List Action) : List Bytes :=
  (service.events .fresh actions).flatMap Event.sent

/-- The lines that are started in a run. -/
def started (service : Service) (actions : List Action) : List Bytes :=
  (service.events .fresh actions).filterMap Event.started?

variable {service : Service} {row : List Job} {action : Action} {event : Event} {next : Session}

theorem started_append_singleton (actions : List Action) (action : Action) :
    service.started (actions ++ [action]) =
      service.started actions ++
        (service.step (service.after .fresh actions) action).1.started?.toList := by
  unfold started
  rw [events_append, List.filterMap_append]
  rfl

theorem step_of_isControl (hcontrol : action.IsControl) (session : Session) :
    (service.step session action).2 = .down := by
  cases session with
  | down => rfl
  | up tasks =>
      cases action with
      | send datagram peer => simp only [step, Action.isControl_send_iff.mp hcontrol]
      | release => cases hcontrol

theorem Step.ne_down (hstep : Step service row action event next)
    (hcontrol : ¬ action.IsControl) : next ≠ .down := by
  cases hstep with
  | stop hshutdown => exact absurd (Action.isControl_send_iff.mpr hshutdown) hcontrol
  | start | wait | refuse | ignore | idle | finish => simp

/-- A command runs from the action that starts it to the one that answers it. -/
theorem Step.running_add_started (hstep : Step service row action event next)
    (hcontrol : ¬ action.IsControl) :
    row.head?.toList.length + event.started?.toList.length =
      event.answer?.toList.length + next.row.head?.toList.length := by
  cases hstep with
  | stop hshutdown => exact absurd (Action.isControl_send_iff.mpr hshutdown) hcontrol
  | start _ hempty =>
      rw [hempty]
      rfl
  | wait _ hrunning =>
      obtain ⟨first, rest, rfl⟩ := List.exists_cons_of_ne_nil hrunning
      rfl
  | refuse | ignore | idle =>
      rw [Session.row_up]
      exact Nat.add_comm _ _
  | @finish first rest hrow =>
      rw [hrow, Session.row_up]
      cases rest <;> rfl

theorem length_started (hdepth : 1 ≤ service.queueDepth) {actions : List Action}
    (hcontrol : ∀ action ∈ actions, ¬ action.IsControl) :
    service.after .fresh actions ≠ .down ∧
      (service.started actions).length = (service.answered actions).length +
        (service.after .fresh actions).row.head?.toList.length := by
  -- Views of a run grow at its end, so the last action is taken off.
  induction actions using List.reverseRecOn with
  | nil => exact ⟨nofun, rfl⟩
  | append_singleton actions action ih =>
      obtain ⟨hup, hlength⟩ := ih fun earlier hmem => hcontrol _ (List.mem_append_left _ hmem)
      have hlast := hcontrol action (List.mem_append_right _ (List.mem_singleton_self _))
      obtain ⟨row, hrow, hafter⟩ := (isRow_after hdepth (isRow_fresh _) actions).exists_row hup
      have hstep := step_row hdepth hrow action
      rw [after_append_singleton, started_append_singleton, answered_append_singleton,
        List.length_append, List.length_append, hlength, hafter, Session.row_up]
      refine ⟨hstep.ne_down hlast, ?_⟩
      rw [Nat.add_assoc, Nat.add_assoc, hstep.running_add_started hlast]

/-- A service is down exactly if one of the actions was a control token.  The first token is
answered by nobody: it ends the command that runs, if one does, and whatever comes after it is not
seen any more. -/
theorem stops_exactly_on_control (service : Service) (hdepth : 1 ≤ service.queueDepth)
    (actions : List Action) :
    (service.after .fresh actions = .down ↔ ∃ action ∈ actions, action.IsControl) ∧
      ∀ front action behind, actions = front ++ action :: behind → action.IsControl →
        (∀ earlier ∈ front, ¬ earlier.IsControl) →
        ∃ tasks cancelled, service.after .fresh front = .up tasks ∧
          cancelled = (if tasks.running.isSome then 1 else 0) ∧
          (service.started front).length = (service.answered front).length + cancelled ∧
          service.events .fresh actions = service.events .fresh front ++
            .stopped cancelled :: List.replicate behind.length .down ∧
          service.started actions = service.started front ∧
          service.answered actions = service.answered front ∧
          service.sent actions = service.sent front := by
  refine ⟨⟨?_, ?_⟩, ?_⟩
  · intro hdown
    by_contra hnone
    exact (length_started hdepth fun action hmem hcontrol => hnone ⟨action, hmem, hcontrol⟩).1 hdown
  · rintro ⟨action, hmem, hcontrol⟩
    obtain ⟨front, behind, rfl⟩ := List.append_of_mem hmem
    rw [after_append, after, step_of_isControl hcontrol, after_of_down]
  · rintro front action behind rfl hcontrol hfront
    obtain ⟨hup, hlength⟩ := length_started hdepth hfront
    obtain ⟨row, hrow, hafter⟩ := (isRow_after hdepth (isRow_fresh _) front).exists_row hup
    have hstep : service.step (.up (.ofRow row)) action =
        (.stopped (if row.head?.isSome then 1 else 0), .down) := by
      cases action with
      | send datagram peer => exact (Step.stop (Action.isControl_send_iff.mp hcontrol)).eq hdepth
      | release => cases hcontrol
    have hevents : service.events .fresh (front ++ action :: behind) =
        service.events .fresh front ++
          .stopped (if row.head?.isSome then 1 else 0) :: List.replicate behind.length .down := by
      rw [events_append, events, hafter, hstep, events_of_down]
    rw [hafter, Session.row_up, Option.length_toList] at hlength
    refine ⟨.ofRow row, _, hafter, rfl, hlength, hevents, ?_, ?_, ?_⟩
    · simp [started, hevents, Event.started?]
    · simp [answered, hevents, Event.answer?]
    · simp [sent, hevents, Event.sent]

/-- No shell is found, no answer can be cut into chunks, and a third command is too many: none of
this stops the service. -/
theorem stops_while_second_command_runs :
    let service : Service :=
      { queueDepth := 1
        transmission := ⟨0, false⟩
        runner := fun _ => .error (.launch "bash" .notFound) }
    let front : List Action :=
      [.send (Bytes.ofString "ls") 1, .release, .send (Bytes.ofString "ls") 2,
        .send (Bytes.ofString "ps") 1, .send (Bytes.ofString "id") 1]
    let actions := front ++
      .send (Bytes.ofString "KILLITnow") 3 :: [.release, .send (Bytes.ofString "id") 1]
    service.after .fresh front ≠ .down ∧ service.after .fresh actions = .down ∧
      service.events .fresh actions =
        service.events .fresh front ++ [.stopped 1, .down, .down] ∧
      service.started actions = [Bytes.ofString "ls", Bytes.ofString "ls"] ∧
      service.sent actions = [] := by
  intro service front actions
  have hfront : ∀ earlier ∈ front, ¬ earlier.IsControl := by decide +kernel
  obtain ⟨hopen, _⟩ := service.stops_exactly_on_control (by decide) front
  obtain ⟨hdown, hstop⟩ := service.stops_exactly_on_control (by decide) actions
  obtain ⟨tasks, cancelled, hafter, rfl, _, hevents, hstarted, _, hsent⟩ :=
    hstop front _ _ rfl (by decide +kernel) hfront
  have hrunning : tasks.running.isSome := by
    have hrow : service.after .fresh front =
        .up (.ofRow [⟨Bytes.ofString "ls", 2⟩, ⟨Bytes.ofString "ps", 1⟩]) := by decide +kernel
    cases hrow.symm.trans hafter
    rfl
  rw [if_pos hrunning] at hevents
  refine ⟨?_, hdown.mpr ⟨_, List.mem_append_right _ List.mem_cons_self, by decide +kernel⟩,
    hevents, ?_, ?_⟩
  · intro hstopped
    obtain ⟨earlier, hmem, hcontrol⟩ := hopen.mp hstopped
    exact hfront earlier hmem hcontrol
  · rw [hstarted]
    decide +kernel
  · rw [hsent]
    decide +kernel

end Service

end DatagramShell
