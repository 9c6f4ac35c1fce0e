import DatagramShell.Process.Execution
import DatagramShell.Service.Response
import DatagramShell.Service.Tasks

/-!
# Sessions

The service as its peers see it, when every task does what it can before the next datagram arrives:
an idle worker takes up a command at once, and a refusal is sent at once.  Only the end of a running
command is left to the outside.  The control token takes the service down for good; the command that
runs is broken off, those that wait are forgotten, and nothing is sent.

A burst is the other extreme: many requests arrive before the worker and the sender of refusals get
to run.  The queue fills up first and the backlog after it; then both are worked off.
-/

namespace DatagramShell

structure Service where
  queueDepth : Nat
  transmission : Transmission
  runner : Runner

inductive Session where
  | down
  | up (tasks : Tasks Job)
  deriving DecidableEq, Repr

namespace Session

def fresh : Session :=
  .up {}

end Session

/-- What happens to a service from outside. -/
inductive Action where
  | send (datagram : Bytes) (peer : Peer)
  /-- The running command ends. -/
  | release
  deriving DecidableEq, Repr

/-- What the peers see of it. -/
inductive Event where
  /-- The service has stopped; `cancelled` commands were broken off. -/
  | stopped (cancelled : Nat)
  | started (line : Bytes)
  | silent
  | rejected (reply : List Bytes)
  /-- A command has ended and its requester is answered; the next one may start. -/
  | finished (peer : Peer) (reply : List Bytes) (next : Option Bytes)
  | idle
  | down
  deriving DecidableEq, Repr

namespace Service

def answer (service : Service) (line : Bytes) : List Bytes :=
  service.transmission.reply (service.runner.answer line)

def refusal (service : Service) : List Bytes :=
  service.transmission.reply Report.busy

def receive (service : Service) (tasks : Tasks Job) (job : Job) : Event × Session :=
  let admitted := tasks.accept service.queueDepth job
  match tasks.admission service.queueDepth with
  | .queued =>
    if tasks.running.isNone then (.started job.line, .up admitted.startNext)
    else (.silent, .up admitted)
  | .refused =>
    let event := if service.refusal = [] then .silent else .rejected service.refusal
    (event, .up admitted.startRefusal.finishRefusal)
  | .dropped => (.silent, .up admitted)

def release (service : Service) (tasks : Tasks Job) : Event × Session :=
  match tasks.running with
  | none => (.idle, .up tasks)
  | some job =>
    let next := tasks.finishRunning.startNext
    (.finished job.peer (service.answer job.line) (next.running.map (·.line)), .up next)

def step (service : Service) : Session → Action → Event × Session
  | .down, _ => (.down, .down)
  | .up tasks, .release => service.release tasks
  | .up tasks, .send datagram peer =>
    match Request.receive datagram with
    | .shutdown => (.stopped (if tasks.running.isSome then 1 else 0), .down)
    | .execute line => service.receive tasks ⟨line, peer⟩

def after (service : Service) (session : Session) : List Action → Session
  | [] => session
  | action :: actions => service.after (service.step session action).2 actions

def events (service : Service) (session : Session) : List Action → List Event
  | [] => []
  | action :: actions =>
    (service.step session action).1 :: service.events (service.step session action).2 actions

/-! ## One request at a time -/

/-- What a peer sees that waits for each answer before it sends the next request. -/
inductive Exchange where
  | reply (datagrams : List Bytes)
  | stopped
  | down
  deriving DecidableEq, Repr

/-- A request, and the end of the command that it starts. -/
def exchange (service : Service) (session : Session) (request : Bytes) : Exchange × Session :=
  match service.step session (.send request 0) with
  | (.stopped _, next) => (.stopped, next)
  | (.down, next) => (.down, next)
  | (.started _, next) =>
    match service.step next .release with
    | (.finished _ reply _, last) => (.reply reply, last)
    | (_, last) => (.reply [], last)
  | (_, next) => (.reply [], next)

def exchanges (service : Service) (session : Session) : List Bytes → List Exchange
  | [] => []
  | request :: requests =>
    (service.exchange session request).1 ::
      service.exchanges (service.exchange session request).2 requests

end Service

/-! ## Bursts -/

/-- What a burst comes to: each request's refusal and answer, and the lines that are run. -/
structure BurstResult where
  rejected : List (List Bytes)
  executed : List Bytes
  answered : List (List Bytes)
  deriving DecidableEq, Repr

namespace Service

/-- Receives commands one after the other, and notes what becomes of each. -/
def acceptAll (service : Service) (tasks : Tasks Job) : List Job → List Admission × Tasks Job
  | [] => ([], tasks)
  | job :: jobs =>
    let (admissions, last) := service.acceptAll (tasks.accept service.queueDepth job) jobs
    (tasks.admission service.queueDepth :: admissions, last)

/-- The line of each request, if none of them stops the service. -/
def lines? : List Bytes → Option (List Bytes)
  | [] => some []
  | request :: requests =>
    match Request.receive request with
    | .shutdown => none
    | .execute line => (lines? requests).map (line :: ·)

/-- Each line comes from a peer of its own. -/
def jobs (lines : List Bytes) : List Job :=
  lines.zipIdx.map fun (line, place) => ⟨line, place⟩

def burst (service : Service) (requests : List Bytes) : BurstResult :=
  match lines? requests with
  | none => ⟨requests.map fun _ => [], [], requests.map fun _ => []⟩
  | some lines =>
    let (admissions, tasks) := service.acceptAll {} (jobs lines)
    { rejected := admissions.map fun admission =>
        if admission = .refused then service.refusal else []
      executed := tasks.waiting.map (·.line)
      answered := (admissions.zip lines).map fun (admission, line) =>
        if admission = .queued then service.answer line else [] }

end Service
end DatagramShell
