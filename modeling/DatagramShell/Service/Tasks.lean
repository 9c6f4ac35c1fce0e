import DatagramShell.Bytes

/-!
# The tasks of the service

Three tasks share the work.  One receives datagrams and never waits: a command goes to the end of a
queue of bounded length; if that is full, its refusal goes to a backlog of bounded length; if that
is full too, the request is dropped.  One worker takes commands off the front of the queue and runs
them one at a time.  A third task takes refusals off the front of the backlog and sends them.
-/

namespace DatagramShell

abbrev Peer := Nat

structure Job where
  line : Bytes
  peer : Peer
  deriving DecidableEq, Repr

inductive Admission where
  | queued
  | refused
  | dropped
  deriving DecidableEq, Repr

/-- The items that the tasks hold, each for one request. -/
structure Tasks (Item : Type) where
  /-- Commands that wait, the oldest first. -/
  waiting : List Item := []
  /-- The command that the worker holds. -/
  running : Option Item := none
  /-- Refusals that wait to be sent, the oldest first. -/
  backlog : List Item := []
  /-- The refusal that is being sent. -/
  refusing : Option Item := none
  deriving DecidableEq, Repr

namespace Tasks

variable {Item : Type}

def backlogCapacity : Nat := 32

def admission (depth : Nat) (tasks : Tasks Item) : Admission :=
  if tasks.waiting.length < depth then .queued
  else if tasks.backlog.length < backlogCapacity then .refused
  else .dropped

def accept (depth : Nat) (tasks : Tasks Item) (item : Item) : Tasks Item :=
  match tasks.admission depth with
  | .queued => { tasks with waiting := tasks.waiting ++ [item] }
  | .refused => { tasks with backlog := tasks.backlog ++ [item] }
  | .dropped => tasks

/-- An idle worker takes the oldest command that waits. -/
def startNext (tasks : Tasks Item) : Tasks Item :=
  match tasks.running, tasks.waiting with
  | none, item :: waiting => { tasks with running := some item, waiting }
  | _, _ => tasks

def finishRunning (tasks : Tasks Item) : Tasks Item :=
  { tasks with running := none }

/-- The oldest refusal that waits is taken up. -/
def startRefusal (tasks : Tasks Item) : Tasks Item :=
  match tasks.refusing, tasks.backlog with
  | none, item :: backlog => { tasks with refusing := some item, backlog }
  | _, _ => tasks

def finishRefusal (tasks : Tasks Item) : Tasks Item :=
  { tasks with refusing := none }

end Tasks
end DatagramShell
