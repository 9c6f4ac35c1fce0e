import DatagramShell.Service.Session

/-!
# Schedules

The receiving task, the worker and the sender of refusals take turns in no fixed order.  A schedule
is the service after some of their steps: what each task holds, and beside it a record of what has
become of the requests received so far.  Requests are numbered as they arrive, so that equal ones
from one peer are still told apart.
-/

namespace DatagramShell

/-- A command and its number among those received. -/
structure Arrival where
  number : Nat
  job : Job
  deriving DecidableEq, Repr

/-- A command that came, and what the receiving task has done with it. -/
structure Receipt where
  arrival : Arrival
  admission : Admission
  deriving DecidableEq, Repr

/-- A response that will not be continued: it was sent to its end, or it was given up. -/
structure Closing where
  arrival : Arrival
  report : Report
  isWhole : Bool
  deriving DecidableEq, Repr

structure Schedule where
  tasks : Tasks Arrival := {}
  /-- The report on the command that the worker holds, once it has ended. -/
  report : Option Report := none
  /-- Everything received, in order. -/
  receipts : List Receipt := []
  /-- The commands that the worker has taken up, in order. -/
  started : List Arrival := []
  /-- The responses to commands, in the order in which the worker was done with them. -/
  answered : List Closing := []
  /-- The responses of refusals. -/
  refused : List Closing := []
  deriving DecidableEq, Repr

inductive Move where
  | receive (datagram : Bytes) (peer : Peer)
  | start
  /-- The running command ends, or comes to no report. -/
  | finish (result : Except CommandError Report)
  | respond (isWhole : Bool)
  | startRefusal
  | refuse (isWhole : Bool)

namespace Schedule

/-- The receiving task never waits. -/
def receive (depth : Nat) (schedule : Schedule) (job : Job) : Schedule :=
  let arrival : Arrival := ⟨schedule.receipts.length, job⟩
  { schedule with
    tasks := schedule.tasks.accept depth arrival
    receipts := schedule.receipts ++ [⟨arrival, schedule.tasks.admission depth⟩] }

/-- The worker takes up a command, if it has none and one is waiting. -/
def start (schedule : Schedule) : Option Schedule :=
  match schedule.tasks.running, schedule.tasks.waiting with
  | none, arrival :: _ =>
    some { schedule with
      tasks := schedule.tasks.startNext
      started := schedule.started ++ [arrival] }
  | _, _ => none

def finish (schedule : Schedule) (result : Except CommandError Report) : Option Schedule :=
  match schedule.tasks.running, schedule.report with
  | some _, none =>
    some { schedule with report := some (.ofResult result) }
  | _, _ => none

/-- The worker sends the response, or gives it up, and is free again. -/
def respond (schedule : Schedule) (isWhole : Bool) : Option Schedule :=
  match schedule.tasks.running, schedule.report with
  | some arrival, some report =>
    some { schedule with
      tasks := schedule.tasks.finishRunning
      report := none
      answered := schedule.answered ++ [⟨arrival, report, isWhole⟩] }
  | _, _ => none

/-- A refusal is taken up, if none is being sent and one is waiting. -/
def startRefusal (schedule : Schedule) : Option Schedule :=
  match schedule.tasks.refusing, schedule.tasks.backlog with
  | none, _ :: _ => some { schedule with tasks := schedule.tasks.startRefusal }
  | _, _ => none

def refuse (schedule : Schedule) (isWhole : Bool) : Option Schedule :=
  match schedule.tasks.refusing with
  | some arrival =>
    some { schedule with
      tasks := schedule.tasks.finishRefusal
      refused := schedule.refused ++ [⟨arrival, Report.busy, isWhole⟩] }
  | none => none

/-- The schedule after a move, if that move can be made.  The control token ends the service, so
nothing is scheduled behind it; what else ends a service is told by its `Lifetime`. -/
def move (depth : Nat) (schedule : Schedule) : Move → Option Schedule
  | .receive datagram peer =>
    match Request.receive datagram with
    | .shutdown => none
    | .execute line => some (schedule.receive depth ⟨line, peer⟩)
  | .start => schedule.start
  | .finish result => schedule.finish result
  | .respond isWhole => schedule.respond isWhole
  | .startRefusal => schedule.startRefusal
  | .refuse isWhole => schedule.refuse isWhole

/-- The schedule after a row of moves, if they can be made one after the other. -/
def run (depth : Nat) (schedule : Schedule) : List Move → Option Schedule
  | [] => some schedule
  | move :: moves => (schedule.move depth move).bind fun next => next.run depth moves

/-- The commands with which the receiving task has done one thing, in the order in which they
came. -/
def admitted (schedule : Schedule) (admission : Admission) : List Arrival :=
  (schedule.receipts.filter (·.admission = admission)).map (·.arrival)

/-! ## Where a request is -/

inductive Place where
  | answered
  | running
  | waiting
  | refused
  | refusing
  | backlog
  | dropped
  deriving DecidableEq, Repr

namespace Place

def all : List Place :=
  [.answered, .running, .waiting, .refused, .refusing, .backlog, .dropped]

end Place

def holding (schedule : Schedule) : Place → List Arrival
  | .answered => schedule.answered.map (·.arrival)
  | .running => schedule.tasks.running.toList
  | .waiting => schedule.tasks.waiting
  | .refused => schedule.refused.map (·.arrival)
  | .refusing => schedule.tasks.refusing.toList
  | .backlog => schedule.tasks.backlog
  | .dropped => schedule.admitted .dropped

/-- The row of commands: answered ones, the one that runs, and those that wait. -/
def commands (schedule : Schedule) : List Arrival :=
  schedule.holding .answered ++ (schedule.holding .running ++ schedule.holding .waiting)

/-- The row of refusals: those sent or given up, the one being sent, and those that wait. -/
def refusals (schedule : Schedule) : List Arrival :=
  schedule.holding .refused ++ (schedule.holding .refusing ++ schedule.holding .backlog)

end Schedule
end DatagramShell
