import DatagramShell.Service.Lifetime
import DatagramShell.Proofs.Request
import DatagramShell.Proofs.Service.Interleaving
import Mathlib.Tactic

/-!
# What ends a service

How a service ends is told by the last thing that has happened to it: a control token, a receive
that fails, or a command for which there is no worker.  As long as none of these happens and the
worker is there, a life is just a schedule, and every session that is over is a life that a control
token has ended.
-/

namespace DatagramShell

namespace Happening

def move? : Happening → Option Move
  | .move made => some made
  | .receiveFailure _ | .workerLoss => none

/-- A datagram comes that orders the service to stop. -/
def IsControl : Happening → Prop
  | .move (.receive datagram _) => Wire.controlToken <+: datagram
  | _ => False

/-- A datagram comes that holds a command. -/
def IsCommand : Happening → Prop
  | .move (.receive datagram _) => ¬ Wire.controlToken <+: datagram
  | _ => False

end Happening

theorem ServiceEnd.exitStatus_eq_zero_iff {ending : ServiceEnd} :
    ending.exitStatus = 0 ↔ ending = .stopped := by
  cases ending <;> simp [exitStatus, failure?]

namespace Lifetime

def IsAlive : Lifetime → Prop
  | .ended _ => False
  | .serving _ | .workerless _ => True

/-- Everything that one happening can do. -/
inductive Step (depth : ℕ) : Lifetime → Happening → Lifetime → Prop
  | retried {lifetime : Lifetime} (halive : lifetime.IsAlive) :
      Step depth lifetime (.receiveFailure .interrupted) lifetime
  | unreceivable {lifetime : Lifetime} {cause : SystemError} (halive : lifetime.IsAlive)
      (hcause : cause ≠ .interrupted) :
      Step depth lifetime (.receiveFailure cause) (.ended (.unreceivable cause))
  | lost (schedule : Schedule) :
      Step depth (.serving schedule) .workerLoss (.workerless schedule.withoutWorker)
  | stopped {lifetime : Lifetime} {happening : Happening} (halive : lifetime.IsAlive)
      (hcontrol : happening.IsControl) : Step depth lifetime happening (.ended .stopped)
  | gone {schedule : Schedule} {happening : Happening} (hcommand : happening.IsCommand) :
      Step depth (.workerless schedule) happening (.ended .workerGone)
  | moved {schedule next : Schedule} {move : Move} (hmove : schedule.move depth move = some next) :
      Step depth (.serving schedule) (.move move) (.serving next)
  | movedAlone {schedule next : Schedule} {move : Move}
      (hmove : schedule.move depth move = some next) :
      Step depth (.workerless schedule) (.move move) (.workerless next)

variable {depth : ℕ} {lifetime next last : Lifetime} {happening : Happening}
  {happenings : List Happening}

/-- A service that lives can always be told to stop. -/
theorem step_of_isControl (halive : lifetime.IsAlive) (hcontrol : happening.IsControl) :
    step depth lifetime happening = some (.ended .stopped) := by
  cases happening with
  | receiveFailure | workerLoss => cases hcontrol
  | move move =>
      cases move with
      | receive datagram peer =>
          have hline : Request.receive datagram = .shutdown :=
            Request.receive_eq_shutdown_iff.mpr hcontrol
          cases lifetime with
          | serving | workerless => simp only [step, hline]
          | ended => cases halive
      | _ => cases hcontrol

theorem step_receiveFailure (halive : lifetime.IsAlive) {cause : SystemError}
    (hcause : cause ≠ .interrupted) :
    step depth lifetime (.receiveFailure cause) = some (.ended (.unreceivable cause)) := by
  cases lifetime with
  | serving | workerless => exact if_neg hcause
  | ended => cases halive

theorem step_of_isCommand {schedule : Schedule} (hcommand : happening.IsCommand) :
    step depth (.workerless schedule) happening = some (.ended .workerGone) := by
  cases happening with
  | receiveFailure | workerLoss => cases hcommand
  | move move =>
      cases move with
      | receive datagram peer =>
          obtain ⟨line, hline⟩ :=
            Request.exists_execute (mt Request.receive_eq_shutdown_iff.mp hcommand)
          simp only [step, hline]
      | _ => cases hcommand

theorem step_of_move {schedule next : Schedule} {move : Move}
    (hmove : schedule.move depth move = some next) :
    step depth (.serving schedule) (.move move) = some (.serving next) := by
  cases move with
  | receive datagram peer =>
      cases hrequest : Request.receive datagram with
      | shutdown => simp [Schedule.move, hrequest] at hmove
      | execute line => simp only [step, hrequest, hmove, Option.map_some]
  | start | finish | respond | startRefusal | refuse => simp only [step, hmove, Option.map_some]

theorem isAlive_of_step (hstep : step depth lifetime happening = some next) :
    lifetime.IsAlive := by
  cases lifetime with
  | serving | workerless => exact trivial
  | ended => cases hstep

theorem step_receive_cases {datagram : Bytes} {peer : Peer}
    (hstep : step depth lifetime (.move (.receive datagram peer)) = some next) :
    Step depth lifetime (.move (.receive datagram peer)) next := by
  have halive := isAlive_of_step hstep
  -- The token ends every life alike; only a command asks whether there is a worker.
  by_cases hcontrol : (Happening.move (.receive datagram peer)).IsControl
  · rw [step_of_isControl halive hcontrol, Option.some.injEq] at hstep
    rw [← hstep]
    exact .stopped halive hcontrol
  · have hcommand : (Happening.move (.receive datagram peer)).IsCommand := hcontrol
    obtain ⟨line, hline⟩ :=
      Request.exists_execute (mt Request.receive_eq_shutdown_iff.mp hcontrol)
    cases lifetime with
    | serving schedule =>
        simp only [step, hline] at hstep
        obtain ⟨moved, hmove, rfl⟩ := Option.map_eq_some_iff.mp hstep
        exact .moved hmove
    | workerless schedule =>
        rw [step_of_isCommand hcommand, Option.some.injEq] at hstep
        rw [← hstep]
        exact .gone hcommand
    | ended => cases halive

theorem step_receiveFailure_cases {cause : SystemError}
    (hstep : step depth lifetime (.receiveFailure cause) = some next) :
    Step depth lifetime (.receiveFailure cause) next := by
  have halive := isAlive_of_step hstep
  by_cases hcause : cause = .interrupted
  · subst hcause
    have hsame : next = lifetime := by
      cases lifetime with
      | serving | workerless => exact (Option.some.inj hstep).symm
      | ended => cases halive
    rw [hsame]
    exact .retried halive
  · rw [step_receiveFailure halive hcause, Option.some.injEq] at hstep
    rw [← hstep]
    exact .unreceivable halive hcause

theorem step_cases (hstep : step depth lifetime happening = some next) :
    Step depth lifetime happening next := by
  cases happening with
  | receiveFailure cause => exact step_receiveFailure_cases hstep
  | workerLoss =>
      cases lifetime with
      | serving schedule =>
          cases hstep
          exact .lost schedule
      | workerless | ended => cases hstep
  | move move =>
      cases move with
      | receive datagram peer => exact step_receive_cases hstep
      | start | finish | respond | startRefusal | refuse =>
          cases lifetime with
          | serving schedule =>
              obtain ⟨moved, hmove, rfl⟩ := Option.map_eq_some_iff.mp hstep
              exact .moved hmove
          | workerless schedule =>
              obtain ⟨moved, hmove, rfl⟩ := Option.map_eq_some_iff.mp hstep
              exact .movedAlone hmove
          | ended => cases hstep

/-! ## Whole lives -/

theorem run_append_singleton :
    run depth lifetime (happenings ++ [happening]) = some last ↔
      ∃ middle, run depth lifetime happenings = some middle ∧
        step depth middle happening = some last := by
  rw [run, List.foldlM_append, Option.bind_eq_bind, Option.bind_eq_some_iff]
  simp [run]

/-- What the state of a service says about everything that has happened to it. -/
def Tells (depth : ℕ) (happenings : List Happening) : Lifetime → Prop
  | .serving schedule => .workerLoss ∉ happenings ∧
    ({} : Schedule).run depth (happenings.filterMap Happening.move?) = some schedule
  | .workerless _ => .workerLoss ∈ happenings
  | .ended .stopped => ∃ front final, happenings = front ++ [final] ∧ final.IsControl
  | .ended (.unreceivable cause) => cause ≠ .interrupted ∧
    ∃ front, happenings = front ++ [.receiveFailure cause]
  | .ended .workerGone => ∃ front final, happenings = front ++ [final] ∧ final.IsCommand ∧
    .workerLoss ∈ front

theorem Tells.step (htells : Tells depth happenings lifetime)
    (hstep : Step depth lifetime happening next) :
    Tells depth (happenings ++ [happening]) next := by
  cases hstep with
  | retried halive =>
      cases lifetime with
      | serving schedule =>
          obtain ⟨hworker, hrun⟩ := htells
          refine ⟨by simpa using hworker, ?_⟩
          rw [List.filterMap_append, List.filterMap_cons_none rfl, List.filterMap_nil,
            List.append_nil]
          exact hrun
      | workerless schedule => exact List.mem_append_left _ htells
      | ended => cases halive
  | unreceivable _ hcause => exact ⟨hcause, happenings, rfl⟩
  | lost schedule => exact List.mem_append_right _ (List.mem_singleton_self _)
  | stopped _ hcontrol => exact ⟨happenings, _, rfl, hcontrol⟩
  | gone hcommand => exact ⟨happenings, _, rfl, hcommand, htells⟩
  | moved hmove =>
      obtain ⟨hworker, hrun⟩ := htells
      refine ⟨by simpa using hworker, ?_⟩
      rw [List.filterMap_append, Schedule.run_append, hrun]
      simpa [Happening.move?, Schedule.run] using hmove
  | movedAlone => exact List.mem_append_left _ htells

theorem tells_of_run (hrun : run depth .fresh happenings = some last) :
    Tells depth happenings last := by
  induction happenings using List.reverseRecOn generalizing last with
  | nil =>
      cases hrun
      exact ⟨List.not_mem_nil, rfl⟩
  | append_singleton happenings happening ih =>
      obtain ⟨middle, hmiddle, hstep⟩ := run_append_singleton.mp hrun
      exact (ih hmiddle).step (step_cases hstep)

/-- A service stops if and only if the last thing that happens is that it is told to, and fails if
and only if the last thing is a receive that fails, and is not just interrupted, or a command behind
the loss of the worker.  As long as it serves with its worker, nothing has happened to it but a
schedule and interruptions. -/
theorem ends_by_last_happening (hrun : run depth .fresh happenings = some last) :
    (last = .ended .stopped ↔
        ∃ front final, happenings = front ++ [final] ∧ final.IsControl) ∧
      (∀ cause, last = .ended (.unreceivable cause) ↔
        cause ≠ .interrupted ∧ ∃ front, happenings = front ++ [.receiveFailure cause]) ∧
      (last = .ended .workerGone ↔
        ∃ front final, happenings = front ++ [final] ∧ final.IsCommand ∧ .workerLoss ∈ front) ∧
      ∀ schedule, last = .serving schedule → .workerLoss ∉ happenings ∧
        ({} : Schedule).run depth (happenings.filterMap Happening.move?) = some schedule := by
  have htells := tells_of_run hrun
  refine ⟨⟨?_, ?_⟩, fun cause => ⟨?_, ?_⟩, ⟨?_, ?_⟩, ?_⟩
  · rintro rfl
    exact htells
  · rintro ⟨front, final, rfl, hcontrol⟩
    obtain ⟨middle, _, hstep⟩ := run_append_singleton.mp hrun
    rw [step_of_isControl (isAlive_of_step hstep) hcontrol] at hstep
    exact (Option.some.inj hstep).symm
  · rintro rfl
    exact htells
  · rintro ⟨hcause, front, rfl⟩
    obtain ⟨middle, _, hstep⟩ := run_append_singleton.mp hrun
    rw [step_receiveFailure (isAlive_of_step hstep) hcause] at hstep
    exact (Option.some.inj hstep).symm
  · rintro rfl
    exact htells
  · rintro ⟨front, final, rfl, hcommand, hlost⟩
    obtain ⟨middle, hmiddle, hstep⟩ := run_append_singleton.mp hrun
    -- Only a life without a worker has lost one, and there a command ends it.
    have hbefore := tells_of_run hmiddle
    cases middle with
    | serving schedule => exact absurd hlost hbefore.1
    | workerless schedule =>
        rw [step_of_isCommand hcommand] at hstep
        exact (Option.some.inj hstep).symm
    | ended => cases hstep
  · rintro schedule rfl
    exact htells

theorem run_map_move {schedule next : Schedule} {moves : List Move}
    (hrun : schedule.run depth moves = some next) :
    run depth (.serving schedule) (moves.map .move) = some (.serving next) := by
  induction moves generalizing schedule with
  | nil =>
      cases hrun
      rfl
  | cons move moves ih =>
      rw [Schedule.run, Option.bind_eq_some_iff] at hrun
      obtain ⟨middle, hmove, hlater⟩ := hrun
      rw [List.map_cons, run, List.foldlM_cons, step_of_move hmove]
      exact ih hlater

end Lifetime

namespace Service

variable {service : Service} {tasks : Tasks Job}

theorem receive_ne_down (job : Job) : (service.receive tasks job).2 ≠ .down := by
  unfold receive
  cases tasks.admission service.queueDepth with
  | queued =>
      dsimp only
      split <;> simp
  | refused | dropped => simp

theorem release_ne_down : (service.release tasks).2 ≠ .down := by
  unfold release
  split <;> simp

theorem exists_control_of_step {action : Action}
    (hdown : (service.step (.up tasks) action).2 = .down) :
    ∃ datagram peer, action = .send datagram peer ∧ Wire.controlToken <+: datagram := by
  cases action with
  | release => exact absurd hdown release_ne_down
  | send datagram peer =>
      refine ⟨datagram, peer, rfl, ?_⟩
      cases hrequest : Request.receive datagram with
      | shutdown => exact Request.receive_eq_shutdown_iff.mp hrequest
      | execute line =>
          rw [step_send hrequest] at hdown
          exact absurd hdown (receive_ne_down _)

/-- A session that is over is a life that has ended as intended, by the datagram that ended the
session, with the same answers before it. -/
theorem exists_lifetime (service : Service) {actions : List Action}
    (hdown : service.after .fresh actions = .down) :
    ∃ moves schedule datagram peer, Action.send datagram peer ∈ actions ∧
      ({} : Schedule).run service.queueDepth moves = some schedule ∧
      Lifetime.run service.queueDepth .fresh
          (moves.map .move ++ [.move (.receive datagram peer)]) = some (.ended .stopped) ∧
      service.answered actions = schedule.answered.map service.seen := by
  induction actions using List.reverseRecOn with
  | nil => cases hdown
  | append_singleton actions action ih =>
      cases hbefore : service.after .fresh actions with
      | down =>
          -- The session was over before, and nothing is answered any more.
          obtain ⟨moves, schedule, datagram, peer, hmem, hrun, hlife, hanswered⟩ := ih hbefore
          refine ⟨moves, schedule, datagram, peer, List.mem_append_left _ hmem, hrun, hlife, ?_⟩
          rw [answered_append_singleton, hbefore, hanswered]
          exact List.append_nil _
      | up tasks =>
          obtain ⟨moves, schedule, hrun, _, _, _, hanswered⟩ := service.exists_schedule hbefore
          rw [after_append_singleton, hbefore] at hdown
          obtain ⟨datagram, peer, rfl, hcontrol⟩ := exists_control_of_step hdown
          have hcontrolHappening : (Happening.move (.receive datagram peer)).IsControl := hcontrol
          refine ⟨moves, schedule, datagram, peer,
            List.mem_append_right _ (List.mem_singleton_self _), hrun, ?_, ?_⟩
          · exact Lifetime.run_append_singleton.mpr
              ⟨_, Lifetime.run_map_move hrun, Lifetime.step_of_isControl trivial hcontrolHappening⟩
          · have hshutdown := Request.receive_eq_shutdown_iff.mpr hcontrol
            rw [answered_append_singleton, hbefore, hanswered]
            simp only [step, hshutdown]
            exact List.append_nil _

end Service

end DatagramShell
