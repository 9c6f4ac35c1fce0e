import DatagramShell.Service.Schedule

/-!
# The life of a service

A service lives until a control token comes, until its socket fails to receive, or until a command
comes and there is no worker left to take it.  The token ends it as intended; the other two are
failures, and the program reports them.  A receive that is merely interrupted is tried again.  A
worker that is lost takes the command it holds and those that wait with it, while the refusals are
still sent.
-/

namespace DatagramShell

/-- What happens to a service, one thing after the other. -/
inductive Happening where
  | move (move : Move)
  | receiveFailure (cause : SystemError)
  | workerLoss

inductive ServiceEnd where
  | stopped
  | unreceivable (cause : SystemError)
  | workerGone
  deriving DecidableEq, Repr

namespace ServiceEnd

def failure? : ServiceEnd → Option Failure
  | .stopped => none
  | .unreceivable cause => some ⟨"Failed to receive datagram", [cause.message]⟩
  | .workerGone => some ⟨"Execution worker stopped unexpectedly", []⟩

def exitStatus (ending : ServiceEnd) : Nat :=
  if ending.failure?.isSome then 1 else 0

end ServiceEnd

inductive Lifetime where
  | serving (schedule : Schedule)
  | workerless (schedule : Schedule)
  | ended (ending : ServiceEnd)

namespace Schedule

def withoutWorker (schedule : Schedule) : Schedule :=
  { schedule with
    tasks := { schedule.tasks with waiting := [], running := none }
    report := none }

end Schedule

namespace Lifetime

def fresh : Lifetime :=
  .serving {}

/-- The service after something has happened, if that can happen; nothing happens to a service that
has ended. -/
def step (depth : Nat) : Lifetime → Happening → Option Lifetime
  | .ended _, _ => none
  | lifetime, .receiveFailure cause =>
    if cause = .interrupted then some lifetime else some (.ended (.unreceivable cause))
  | .serving schedule, .workerLoss => some (.workerless schedule.withoutWorker)
  | .workerless _, .workerLoss => none
  | .serving schedule, .move (.receive datagram peer) =>
    match Request.receive datagram with
    | .shutdown => some (.ended .stopped)
    | .execute _ => (schedule.move depth (.receive datagram peer)).map .serving
  | .workerless _, .move (.receive datagram _) =>
    match Request.receive datagram with
    | .shutdown => some (.ended .stopped)
    | .execute _ => some (.ended .workerGone)
  | .serving schedule, .move move => (schedule.move depth move).map .serving
  | .workerless schedule, .move move => (schedule.move depth move).map .workerless

def run (depth : Nat) (lifetime : Lifetime) (happenings : List Happening) : Option Lifetime :=
  happenings.foldlM (step depth) lifetime

end Lifetime
end DatagramShell
