import DatagramShell.Proofs.Service.Fifo
import DatagramShell.Proofs.Request
import Mathlib.Tactic

/-!
# What one action can do

A session is down or holds a row of commands, and an action does one of seven things to a row.  The
action, the row and the queue's depth decide which one it is.  The results of the commands and the
form of the answers show in the datagrams only; if no refusal can be formed, a refused command is
answered by silence.
-/

namespace DatagramShell

/-- A datagram that stops the service. -/
def Action.IsControl : Action → Prop
  | .send datagram _ => datagram.take 6 = Bytes.ofString "KILLIT"
  | .release => False

instance : DecidablePred Action.IsControl
  | .send datagram _ => inferInstanceAs (Decidable (datagram.take 6 = Bytes.ofString "KILLIT"))
  | .release => inferInstanceAs (Decidable False)

theorem Action.isControl_send_iff {datagram : Bytes} {peer : Peer} :
    (send datagram peer).IsControl ↔ Request.receive datagram = .shutdown := by
  rw [Request.receive_eq_shutdown_iff, Wire.controlToken_prefix_iff]
  rfl

namespace Session

/-- The commands of a session, the one that runs first. -/
def row : Session → List Job
  | .down => []
  | .up tasks => tasks.running.toList ++ tasks.waiting

@[simp] theorem row_up (jobs : List Job) : row (.up (.ofRow jobs)) = jobs :=
  Tasks.running_append_waiting jobs

/-- The sessions that a run can lead to. -/
inductive IsRow (depth : ℕ) : Session → Prop
  | down : IsRow depth .down
  | up {jobs : List Job} (hlength : jobs.length ≤ depth + 1) : IsRow depth (.up (.ofRow jobs))

end Session

namespace Service

/-- What an action can do to a row of commands. -/
inductive Step (service : Service) (row : List Job) : Action → Event → Session → Prop
  | stop {datagram : Bytes} {peer : Peer} (hcontrol : Request.receive datagram = .shutdown) :
      Step service row (.send datagram peer) (.stopped (if row.head?.isSome then 1 else 0)) .down
  | start {datagram line : Bytes} {peer : Peer}
      (hline : Request.receive datagram = .execute line) (hempty : row = []) :
      Step service row (.send datagram peer) (.started line) (.up (.ofRow [⟨line, peer⟩]))
  | wait {datagram line : Bytes} {peer : Peer}
      (hline : Request.receive datagram = .execute line) (hrunning : row ≠ [])
      (hroom : row.length ≤ service.queueDepth) :
      Step service row (.send datagram peer) .silent (.up (.ofRow (row ++ [⟨line, peer⟩])))
  | refuse {datagram line : Bytes} {peer : Peer}
      (hline : Request.receive datagram = .execute line)
      (hfull : row.length = service.queueDepth + 1) (hrefusal : service.refusal ≠ []) :
      Step service row (.send datagram peer) (.rejected service.refusal) (.up (.ofRow row))
  | ignore {datagram line : Bytes} {peer : Peer}
      (hline : Request.receive datagram = .execute line)
      (hfull : row.length = service.queueDepth + 1) (hrefusal : service.refusal = []) :
      Step service row (.send datagram peer) .silent (.up (.ofRow row))
  | idle (hempty : row = []) : Step service row .release .idle (.up (.ofRow row))
  | finish {first : Job} {rest : List Job} (hrow : row = first :: rest) :
      Step service row .release
        (.finished first.peer (service.answer first.line) (rest.head?.map (·.line)))
        (.up (.ofRow rest))

variable {service : Service} {row : List Job} {action : Action} {event : Event} {next : Session}

theorem Step.eq (hstep : Step service row action event next) (hdepth : 1 ≤ service.queueDepth) :
    service.step (.up (.ofRow row)) action = (event, next) := by
  cases hstep with
  | stop hcontrol =>
      simp only [step, hcontrol]
      rfl
  | start hline hempty => rw [step_send hline, hempty, receive_of_empty hdepth]
  | wait hline hrunning hroom =>
      obtain ⟨first, rest, rfl⟩ := List.exists_cons_of_ne_nil hrunning
      rw [step_send hline, receive_of_room hroom]
  | refuse hline hfull hrefusal =>
      obtain ⟨first, rest, rfl⟩ := List.exists_cons_of_length_eq_add_one hfull
      rw [step_send hline, receive_of_full (Nat.succ.inj hfull).ge, if_neg hrefusal]
  | ignore hline hfull hrefusal =>
      obtain ⟨first, rest, rfl⟩ := List.exists_cons_of_length_eq_add_one hfull
      rw [step_send hline, receive_of_full (Nat.succ.inj hfull).ge, if_pos hrefusal]
  | idle hempty => rw [hempty, step, release_of_empty]
  | finish hrow => rw [hrow, step, release_of_cons]

theorem exists_step (hlength : row.length ≤ service.queueDepth + 1) (action : Action) :
    ∃ event next, Step service row action event next := by
  cases action with
  | send datagram peer =>
      cases hrequest : Request.receive datagram with
      | shutdown => exact ⟨_, _, .stop hrequest⟩
      | execute line =>
          by_cases hempty : row = []
          · exact ⟨_, _, .start hrequest hempty⟩
          rcases hlength.lt_or_eq with hroom | hfull
          · exact ⟨_, _, .wait hrequest hempty (Nat.lt_succ_iff.mp hroom)⟩
          by_cases hrefusal : service.refusal = []
          · exact ⟨_, _, .ignore hrequest hfull hrefusal⟩
          · exact ⟨_, _, .refuse hrequest hfull hrefusal⟩
  | release =>
      cases row with
      | nil => exact ⟨_, _, .idle rfl⟩
      | cons first rest => exact ⟨_, _, .finish rfl⟩

theorem step_row (hdepth : 1 ≤ service.queueDepth) (hlength : row.length ≤ service.queueDepth + 1)
    (action : Action) :
    Step service row action (service.step (.up (.ofRow row)) action).1
      (service.step (.up (.ofRow row)) action).2 := by
  obtain ⟨event, next, hstep⟩ := exists_step hlength action
  rw [hstep.eq hdepth]
  exact hstep

theorem Step.isRow (hstep : Step service row action event next)
    (hlength : row.length ≤ service.queueDepth + 1) : next.IsRow service.queueDepth := by
  cases hstep with
  | stop => exact .down
  | start => exact .up (Nat.succ_le_succ (Nat.zero_le _))
  | wait _ _ hroom =>
      refine .up ?_
      rw [List.length_append, List.length_singleton]
      exact Nat.succ_le_succ hroom
  | refuse => exact .up hlength
  | ignore => exact .up hlength
  | idle => exact .up hlength
  | finish hrow =>
      rw [hrow, List.length_cons] at hlength
      exact .up ((Nat.le_succ _).trans hlength)

/-! ## Runs -/

theorem isRow_step (hdepth : 1 ≤ service.queueDepth) {session : Session}
    (hsession : session.IsRow service.queueDepth) (action : Action) :
    (service.step session action).2.IsRow service.queueDepth := by
  cases hsession with
  | down => exact .down
  | up hlength => exact (step_row hdepth hlength action).isRow hlength

theorem isRow_after (hdepth : 1 ≤ service.queueDepth) {session : Session}
    (hsession : session.IsRow service.queueDepth) (actions : List Action) :
    (service.after session actions).IsRow service.queueDepth := by
  induction actions generalizing session with
  | nil => exact hsession
  | cons action actions ih => exact ih (isRow_step hdepth hsession action)

theorem isRow_fresh (depth : ℕ) : Session.IsRow depth .fresh := by
  have hempty : Session.IsRow depth (.up (.ofRow [])) := .up (Nat.zero_le _)
  exact hempty

theorem after_of_down (actions : List Action) : service.after .down actions = .down := by
  induction actions with
  | nil => rfl
  | cons action actions ih => exact ih

theorem events_of_down (actions : List Action) :
    service.events .down actions = List.replicate actions.length .down := by
  induction actions with
  | nil => rfl
  | cons action actions ih => exact congrArg (Event.down :: ·) ih

end Service

end DatagramShell
