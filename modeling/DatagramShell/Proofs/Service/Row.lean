import DatagramShell.Service.Session
import Mathlib.Tactic

/-!
# A session is a row of commands

Between two datagrams every task has done what it can: no refusal waits, and a command waits only
behind one that runs.  So a session that is up holds nothing but a row of commands, the first of
which runs.  A command that comes in goes to the end of the row as long as no more than the queue's
depth wait, and the end of the running command takes the first one off the row.
-/

namespace DatagramShell

namespace Tasks

variable {Item : Type}

def ofRow (row : List Item) : Tasks Item :=
  { running := row.head?, waiting := row.tail }

theorem running_append_waiting (row : List Item) :
    (ofRow row).running.toList ++ (ofRow row).waiting = row := by
  cases row <;> rfl

theorem waiting_of_idle {row : List Item} (hidle : (ofRow row).running = none) :
    (ofRow row).waiting = [] := by
  cases row with
  | nil => rfl
  | cons first row => cases hidle

end Tasks

namespace Service

variable {service : Service}

/-! ## What one action does to a row -/

theorem receive_of_empty (hdepth : 1 ≤ service.queueDepth) (job : Job) :
    service.receive (.ofRow []) job = (.started job.line, .up (.ofRow [job])) := by
  have hroom : 0 < service.queueDepth := hdepth
  simp [receive, Tasks.ofRow, Tasks.accept, Tasks.admission, Tasks.startNext, hroom]

theorem receive_of_room {first : Job} {row : List Job} (hroom : row.length < service.queueDepth)
    (job : Job) :
    service.receive (.ofRow (first :: row)) job =
      (.silent, .up (.ofRow (first :: row ++ [job]))) := by
  simp [receive, Tasks.ofRow, Tasks.accept, Tasks.admission, hroom]

theorem receive_of_full {first : Job} {row : List Job} (hfull : service.queueDepth ≤ row.length)
    (job : Job) :
    service.receive (.ofRow (first :: row)) job =
      (if service.refusal = [] then .silent else .rejected service.refusal,
        .up (.ofRow (first :: row))) := by
  simp [receive, Tasks.ofRow, Tasks.accept, Tasks.admission, Nat.not_lt.mpr hfull,
    Tasks.backlogCapacity, Tasks.startRefusal, Tasks.finishRefusal]

theorem release_of_empty : service.release (.ofRow []) = (.idle, .up (.ofRow [])) := rfl

theorem release_of_cons (first : Job) (row : List Job) :
    service.release (.ofRow (first :: row)) =
      (.finished first.peer (service.answer first.line) (row.head?.map (·.line)),
        .up (.ofRow row)) := by
  cases row <;> rfl

/-! ## Runs -/

theorem after_append (session : Session) (front behind : List Action) :
    service.after session (front ++ behind) =
      service.after (service.after session front) behind := by
  induction front generalizing session with
  | nil => rfl
  | cons action front ih => exact ih _

theorem events_append (session : Session) (front behind : List Action) :
    service.events session (front ++ behind) =
      service.events session front ++ service.events (service.after session front) behind := by
  induction front generalizing session with
  | nil => rfl
  | cons action front ih =>
      rw [List.cons_append, events, events, after, List.cons_append, ih]

theorem length_events (session : Session) (actions : List Action) :
    (service.events session actions).length = actions.length := by
  induction actions generalizing session with
  | nil => rfl
  | cons action actions ih => rw [events, List.length_cons, List.length_cons, ih]

/-- Each event is that of its action in the session that the actions before it have left. -/
theorem getElem?_events (session : Session) (actions : List Action) (index : ℕ) :
    (service.events session actions)[index]? =
      actions[index]?.map fun action =>
        (service.step (service.after session (actions.take index)) action).1 := by
  induction actions generalizing session index with
  | nil => rfl
  | cons action actions ih =>
      cases index with
      | zero => rfl
      | succ index =>
          rw [events, List.getElem?_cons_succ, List.getElem?_cons_succ, ih, List.take_succ_cons,
            after]

end Service

end DatagramShell
