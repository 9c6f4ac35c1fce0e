import DatagramShell.Service.Response
import DatagramShell.Service.Tasks

/-!
# Taking turns on the wire

The worker and the sender of refusals share one socket.  A response goes out one datagram at a time,
and whoever sends one holds a lock from its first datagram to the moment it is done, fails or is
broken off.  The state records every datagram sent and, for each response that is over, how far it
got and why it ended.
-/

namespace DatagramShell

inductive Sender where
  | worker
  | refuser
  deriving DecidableEq, Repr

/-- A response and the peer that it goes to. -/
structure Parcel where
  target : Peer
  stream : Stream
  deriving DecidableEq, Repr

/-- The first datagrams of a response, as they go over the socket. -/
def Parcel.entries (parcel : Parcel) (sent : Nat) : List (Peer × Bytes) :=
  (parcel.stream.datagrams.take sent).map fun datagram => (parcel.target, datagram)

inductive Turn where
  | resting
  /-- It has a response to send and no lock yet. -/
  | waiting (parcel : Parcel)
  /-- It holds the lock and has sent the first datagrams. -/
  | sending (parcel : Parcel) (sent : Nat)
  /-- It has been broken off for good. -/
  | aborted
  deriving DecidableEq, Repr

/-- Why a response is not continued. -/
inductive ParcelEnd where
  | complete
  | failed
  | aborted
  deriving DecidableEq, Repr

/-- A response whose sender had the lock and has given it back. -/
structure Block where
  parcel : Parcel
  sent : Nat
  ending : ParcelEnd
  deriving DecidableEq, Repr

/-- The senders, the lock that they share, and what has gone over the socket. -/
structure Turns where
  worker : Turn := .resting
  refuser : Turn := .resting
  lock : Option Sender := none
  /-- Every datagram sent and to whom, in order. -/
  log : List (Peer × Bytes) := []
  /-- The responses that are over, in the order in which they ended. -/
  blocks : List Block := []
  deriving DecidableEq, Repr

inductive SendMove where
  | begin (target : Peer) (report : Report)
  | acquire
  /-- The socket takes the next datagram, or refuses it. -/
  | send (isTaken : Bool)
  | finish
  | abort
  deriving DecidableEq, Repr

namespace Turns

def turn (turns : Turns) : Sender → Turn
  | .worker => turns.worker
  | .refuser => turns.refuser

def setTurn (turns : Turns) (sender : Sender) (turn : Turn) : Turns :=
  match sender with
  | .worker => { turns with worker := turn }
  | .refuser => { turns with refuser := turn }

/-- A sender is done with a response and gives the lock back. -/
def release (turns : Turns) (sender : Sender) (after : Turn) (block : Block) : Turns :=
  { turns.setTurn sender after with lock := none, blocks := turns.blocks ++ [block] }

/-- The state after a move of a sender, if it can make that move.  A report that cannot be split is
given up before the lock is asked for. -/
def move (transmission : Transmission) (turns : Turns) (sender : Sender) : SendMove → Option Turns
  | .begin target report =>
    match turns.turn sender with
    | .resting =>
      match transmission.stream report with
      | .ok stream => some (turns.setTurn sender (.waiting ⟨target, stream⟩))
      | .error _ => some turns
    | _ => none
  | .acquire =>
    match turns.turn sender, turns.lock with
    | .waiting parcel, none =>
      some { turns.setTurn sender (.sending parcel 0) with lock := some sender }
    | _, _ => none
  | .send isTaken =>
    match turns.turn sender with
    | .sending parcel sent =>
      match parcel.stream.datagrams[sent]? with
      | some datagram =>
        if isTaken then
          some { turns.setTurn sender (.sending parcel (sent + 1)) with
            log := turns.log ++ [(parcel.target, datagram)] }
        else some (turns.release sender .resting ⟨parcel, sent, .failed⟩)
      | none => none
    | _ => none
  | .finish =>
    match turns.turn sender with
    | .sending parcel sent =>
      if sent = parcel.stream.datagrams.length then
        some (turns.release sender .resting ⟨parcel, sent, .complete⟩)
      else none
    | _ => none
  | .abort =>
    match turns.turn sender with
    | .sending parcel sent => some (turns.release sender .aborted ⟨parcel, sent, .aborted⟩)
    | .aborted => none
    | .resting | .waiting _ => some (turns.setTurn sender .aborted)

/-- The state after a row of moves of both senders, if they can be made one after the other. -/
def run (transmission : Transmission) (turns : Turns) :
    List (Sender × SendMove) → Option Turns
  | [] => some turns
  | (sender, move) :: moves =>
    (turns.move transmission sender move).bind fun next => next.run transmission moves

/-- The response that is being sent, and how many of its datagrams have gone out. -/
def current (turns : Turns) : Option (Parcel × Nat) :=
  match turns.lock.map turns.turn with
  | some (.sending parcel sent) => some (parcel, sent)
  | _ => none

/-- All responses of which a datagram may have gone out, in the order in which they got the lock. -/
def begun (turns : Turns) : List (Parcel × Nat) :=
  turns.blocks.map (fun block => (block.parcel, block.sent)) ++ turns.current.toList

end Turns
end DatagramShell
