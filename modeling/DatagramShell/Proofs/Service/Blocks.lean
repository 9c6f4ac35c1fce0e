import DatagramShell.Service.Turns
import DatagramShell.Proofs.Service.Reply
import Mathlib.Tactic

/-!
# Streams never mix

The worker and the sender of refusals move in any order, a datagram may be refused, and either
sender may be broken off.  The lock is held exactly while a sender is between the first datagram and
the end of its response, so the log of datagrams is a row of blocks: the responses that are over,
each as far as it got, and then the one that is being sent.  A block in which nothing was refused
and whose sender was not broken off is a whole stream, and only a whole stream has the sentinel, as
its last datagram.
-/

namespace DatagramShell

namespace Turns

/-! ## One move -/

@[simp] theorem turn_setTurn_self (turns : Turns) (sender : Sender) (turn : Turn) :
    (turns.setTurn sender turn).turn sender = turn := by
  cases sender <;> rfl

@[simp] theorem turn_setTurn_of_ne (turns : Turns) {sender other : Sender} (turn : Turn)
    (hne : other ≠ sender) : (turns.setTurn sender turn).turn other = turns.turn other := by
  cases sender <;> cases other <;> first | rfl | exact absurd rfl hne

@[simp] theorem lock_setTurn (turns : Turns) (sender : Sender) (turn : Turn) :
    (turns.setTurn sender turn).lock = turns.lock := by
  cases sender <;> rfl

@[simp] theorem log_setTurn (turns : Turns) (sender : Sender) (turn : Turn) :
    (turns.setTurn sender turn).log = turns.log := by
  cases sender <;> rfl

@[simp] theorem blocks_setTurn (turns : Turns) (sender : Sender) (turn : Turn) :
    (turns.setTurn sender turn).blocks = turns.blocks := by
  cases sender <;> rfl

@[simp] theorem turn_setLock (turns : Turns) (lock : Option Sender) (sender : Sender) :
    ({ turns with lock } : Turns).turn sender = turns.turn sender := by
  cases sender <;> rfl

@[simp] theorem turn_setLog (turns : Turns) (log : List (Peer × Bytes)) (sender : Sender) :
    ({ turns with log } : Turns).turn sender = turns.turn sender := by
  cases sender <;> rfl

@[simp] theorem turn_release (turns : Turns) (sender other : Sender) (after : Turn)
    (block : Block) :
    (turns.release sender after block).turn other = (turns.setTurn sender after).turn other := by
  cases other <;> rfl

/-- What each kind of move finds and leaves behind. -/
inductive Step (transmission : Transmission) (turns : Turns) (sender : Sender) :
    SendMove → Turns → Prop
  | begin {target : Peer} {report : Report} {stream : Stream}
      (hresting : turns.turn sender = .resting)
      (hstream : transmission.stream report = .ok stream) :
      Step transmission turns sender (.begin target report)
        (turns.setTurn sender (.waiting ⟨target, stream⟩))
  | giveUp {target : Peer} {report : Report} {cause : SplitError}
      (hresting : turns.turn sender = .resting)
      (hstream : transmission.stream report = .error cause) :
      Step transmission turns sender (.begin target report) turns
  | acquire {parcel : Parcel} (hwaiting : turns.turn sender = .waiting parcel)
      (hfree : turns.lock = none) :
      Step transmission turns sender .acquire
        { turns.setTurn sender (.sending parcel 0) with lock := some sender }
  | take {parcel : Parcel} {sent : ℕ} {datagram : Bytes}
      (hsending : turns.turn sender = .sending parcel sent)
      (hdatagram : parcel.stream.datagrams[sent]? = some datagram) :
      Step transmission turns sender (.send true)
        { turns.setTurn sender (.sending parcel (sent + 1)) with
          log := turns.log ++ [(parcel.target, datagram)] }
  | refuse {parcel : Parcel} {sent : ℕ} (hsending : turns.turn sender = .sending parcel sent) :
      Step transmission turns sender (.send false)
        (turns.release sender .resting ⟨parcel, sent, .failed⟩)
  | finish {parcel : Parcel} {sent : ℕ} (hsending : turns.turn sender = .sending parcel sent)
      (hall : sent = parcel.stream.datagrams.length) :
      Step transmission turns sender .finish
        (turns.release sender .resting ⟨parcel, sent, .complete⟩)
  | breakOff {parcel : Parcel} {sent : ℕ} (hsending : turns.turn sender = .sending parcel sent) :
      Step transmission turns sender .abort
        (turns.release sender .aborted ⟨parcel, sent, .aborted⟩)
  | abort (hidle : ∀ parcel sent, turns.turn sender ≠ .sending parcel sent) :
      Step transmission turns sender .abort (turns.setTurn sender .aborted)

theorem step_of_move {transmission : Transmission} {turns next : Turns} {sender : Sender}
    {move : SendMove} (hmove : turns.move transmission sender move = some next) :
    Step transmission turns sender move next := by
  cases move with
  | begin target report =>
      cases hturn : turns.turn sender with
      | resting =>
          cases hstream : transmission.stream report with
          | ok stream =>
              simp only [Turns.move, hturn, hstream, Option.some.injEq] at hmove
              subst next
              exact .begin hturn hstream
          | error cause =>
              simp only [Turns.move, hturn, hstream, Option.some.injEq] at hmove
              subst next
              exact .giveUp hturn hstream
      | _ => simp [Turns.move, hturn] at hmove
  | acquire =>
      cases hturn : turns.turn sender with
      | waiting parcel =>
          cases hlock : turns.lock with
          | none =>
              simp only [Turns.move, hturn, hlock, Option.some.injEq] at hmove
              subst next
              exact .acquire hturn hlock
          | some holder => simp [Turns.move, hturn, hlock] at hmove
      | _ => simp [Turns.move, hturn] at hmove
  | send isTaken =>
      cases hturn : turns.turn sender with
      | sending parcel sent =>
          cases hdatagram : parcel.stream.datagrams[sent]? with
          | none => simp [Turns.move, hturn, hdatagram] at hmove
          | some datagram =>
              cases isTaken with
              | true =>
                  simp only [Turns.move, hturn, hdatagram, if_true, Option.some.injEq] at hmove
                  subst next
                  exact .take hturn hdatagram
              | false =>
                  simp only [Turns.move, hturn, hdatagram, Bool.false_eq_true, if_false,
                    Option.some.injEq] at hmove
                  subst next
                  exact .refuse hturn
      | _ => simp [Turns.move, hturn] at hmove
  | finish =>
      cases hturn : turns.turn sender with
      | sending parcel sent =>
          by_cases hall : sent = parcel.stream.datagrams.length
          · simp only [Turns.move, hturn, if_pos hall, Option.some.injEq] at hmove
            subst next
            exact .finish hturn hall
          · simp [Turns.move, hturn, hall] at hmove
      | _ => simp [Turns.move, hturn] at hmove
  | abort =>
      cases hturn : turns.turn sender with
      | sending parcel sent =>
          simp only [Turns.move, hturn, Option.some.injEq] at hmove
          subst next
          exact .breakOff hturn
      | aborted => simp [Turns.move, hturn] at hmove
      | resting =>
          simp only [Turns.move, hturn, Option.some.injEq] at hmove
          subst next
          exact .abort (by simp [hturn])
      | waiting parcel =>
          simp only [Turns.move, hturn, Option.some.injEq] at hmove
          subst next
          exact .abort (by simp [hturn])

theorem run_append (transmission : Transmission) (turns : Turns)
    (front behind : List (Sender × SendMove)) :
    turns.run transmission (front ++ behind) =
      (turns.run transmission front).bind fun next => next.run transmission behind := by
  induction front generalizing turns with
  | nil => rfl
  | cons first front ih =>
      rcases first with ⟨sender, move⟩
      cases hmove : turns.move transmission sender move with
      | none => simp [run, hmove]
      | some next => simp [run, hmove, ih]

theorem run_append_singleton {transmission : Transmission} {turns last : Turns}
    {moves : List (Sender × SendMove)} {sender : Sender} {move : SendMove}
    (hrun : turns.run transmission (moves ++ [(sender, move)]) = some last) :
    ∃ next, turns.run transmission moves = some next ∧
      Step transmission next sender move last := by
  rw [run_append, Option.bind_eq_some_iff] at hrun
  rcases hrun with ⟨next, hnext, hlast⟩
  rw [run, Option.bind_eq_some_iff] at hlast
  rcases hlast with ⟨other, hmove, hother⟩
  cases hother
  exact ⟨next, hnext, step_of_move hmove⟩

/-! ## The response that is being sent -/

theorem current_of_free {turns : Turns} (hfree : turns.lock = none) : turns.current = none := by
  simp [current, hfree]

theorem current_of_holder {turns : Turns} {sender : Sender} {parcel : Parcel} {sent : ℕ}
    (hlock : turns.lock = some sender) (hsending : turns.turn sender = .sending parcel sent) :
    turns.current = some (parcel, sent) := by
  simp [current, hlock, hsending]

/-- Only the holder of the lock has anything to do with the response that is being sent. -/
theorem current_setTurn {turns : Turns} {sender : Sender} (turn : Turn)
    (hnot : turns.lock ≠ some sender) : (turns.setTurn sender turn).current = turns.current := by
  cases hlock : turns.lock with
  | none => simp [current, hlock]
  | some holder =>
      have hne : holder ≠ sender := by
        intro heq
        rw [hlock, heq] at hnot
        exact hnot rfl
      simp [current, hlock, hne]

/-- A response that is over stands where it stood while it was being sent. -/
theorem begun_release {turns : Turns} {parcel : Parcel} {sent : ℕ}
    (hcurrent : turns.current = some (parcel, sent)) (sender : Sender) (after : Turn)
    (ending : ParcelEnd) :
    (turns.release sender after ⟨parcel, sent, ending⟩).begun = turns.begun := by
  have hover : (turns.release sender after ⟨parcel, sent, ending⟩).current = none :=
    current_of_free rfl
  rw [begun, begun, hover, hcurrent]
  simp [release]

/-! ## Every state is a row of blocks -/

def IsResponse (transmission : Transmission) (parcel : Parcel) : Prop :=
  ∃ report, transmission.stream report = .ok parcel.stream

/-- The lock is held while a response is sent, and the log is what has been sent of the responses,
one behind the other. -/
structure Orderly (transmission : Transmission) (turns : Turns) : Prop where
  lock_iff : ∀ sender, turns.lock = some sender ↔
    ∃ parcel sent, turns.turn sender = .sending parcel sent
  log_eq : turns.log = turns.begun.flatMap fun begun => begun.1.entries begun.2
  waiting : ∀ sender parcel, turns.turn sender = .waiting parcel → IsResponse transmission parcel
  begun : ∀ begun ∈ turns.begun, IsResponse transmission begun.1 ∧
    begun.2 ≤ begun.1.stream.datagrams.length
  complete : ∀ block ∈ turns.blocks, block.ending = .complete →
    block.sent = block.parcel.stream.datagrams.length

namespace Orderly

variable {transmission : Transmission} {turns next : Turns} {sender : Sender}

theorem fresh (transmission : Transmission) : Orderly transmission {} := by
  constructor <;> simp [Turns.begun, current, turn]
  · intro sender
    cases sender <;> simp
  · intro sender parcel
    cases sender <;> simp

/-- A sender that is not sending does something that does not touch the wire. -/
theorem of_setTurn (horderly : Orderly transmission turns) {turn : Turn}
    (hnot : ∀ parcel sent, turns.turn sender ≠ .sending parcel sent)
    (hturn : ∀ parcel sent, turn ≠ .sending parcel sent)
    (hwaiting : ∀ parcel, turn = .waiting parcel → IsResponse transmission parcel) :
    Orderly transmission (turns.setTurn sender turn) := by
  have hlock : turns.lock ≠ some sender := by
    intro hheld
    obtain ⟨parcel, sent, hsending⟩ := (horderly.lock_iff sender).mp hheld
    exact hnot parcel sent hsending
  have hbegun : (turns.setTurn sender turn).begun = turns.begun := by
    rw [Turns.begun, Turns.begun, blocks_setTurn, current_setTurn turn hlock]
  constructor
  · intro other
    rw [lock_setTurn]
    by_cases heq : other = sender
    · subst heq
      simp [hlock, hturn]
    · simp [heq, horderly.lock_iff other]
  · rw [log_setTurn, hbegun, horderly.log_eq]
  · intro other parcel hother
    by_cases heq : other = sender
    · subst heq
      rw [turn_setTurn_self] at hother
      exact hwaiting parcel hother
    · rw [turn_setTurn_of_ne _ _ heq] at hother
      exact horderly.waiting other parcel hother
  · rw [hbegun]
    exact horderly.begun
  · rw [blocks_setTurn]
    exact horderly.complete

/-- Whoever is sending holds the lock, so nobody else is. -/
theorem eq_of_sending (horderly : Orderly transmission turns) {other : Sender}
    {parcel otherParcel : Parcel} {sent otherSent : ℕ}
    (hsending : turns.turn sender = .sending parcel sent)
    (hother : turns.turn other = .sending otherParcel otherSent) : other = sender := by
  have hlock := (horderly.lock_iff sender).mpr ⟨parcel, sent, hsending⟩
  have hheld := (horderly.lock_iff other).mpr ⟨otherParcel, otherSent, hother⟩
  rw [hlock, Option.some.injEq] at hheld
  exact hheld.symm

/-- The holder of the lock is done with its response, for whatever reason. -/
theorem release (horderly : Orderly transmission turns) {parcel : Parcel} {sent : ℕ}
    {after : Turn} {ending : ParcelEnd} (hsending : turns.turn sender = .sending parcel sent)
    (hafter : after = .resting ∨ after = .aborted)
    (hcomplete : ending = .complete → sent = parcel.stream.datagrams.length) :
    Orderly transmission (turns.release sender after ⟨parcel, sent, ending⟩) := by
  have hlock := (horderly.lock_iff sender).mpr ⟨parcel, sent, hsending⟩
  have hbegun := begun_release (current_of_holder hlock hsending) sender after ending
  constructor
  · intro other
    refine ⟨fun hheld => absurd hheld (by simp [Turns.release]), fun hexists => ?_⟩
    rcases hexists with ⟨otherParcel, otherSent, hother⟩
    rw [turn_release] at hother
    by_cases heq : other = sender
    · subst heq
      rw [turn_setTurn_self] at hother
      rcases hafter with rfl | rfl <;> cases hother
    · rw [turn_setTurn_of_ne _ _ heq] at hother
      exact absurd (horderly.eq_of_sending hsending hother) heq
  · rw [hbegun, ← horderly.log_eq]
    simp [Turns.release]
  · intro other otherParcel hother
    rw [turn_release] at hother
    by_cases heq : other = sender
    · subst heq
      rw [turn_setTurn_self] at hother
      rcases hafter with rfl | rfl <;> cases hother
    · rw [turn_setTurn_of_ne _ _ heq] at hother
      exact horderly.waiting other otherParcel hother
  · rw [hbegun]
    exact horderly.begun
  · intro block hmem hending
    rcases List.mem_append.mp hmem with hearlier | hlast
    · exact horderly.complete block hearlier hending
    · rw [List.mem_singleton.mp hlast] at hending ⊢
      exact hcomplete hending

/-- Somebody holds the lock, and what has been sent of its response ends the log. -/
theorem of_sending (horderly : Orderly transmission turns) {parcel : Parcel} {sent : ℕ}
    (hblocks : next.blocks = turns.blocks) (hlock : next.lock = some sender)
    (hself : next.turn sender = .sending parcel sent)
    (hothers : ∀ other, other ≠ sender → next.turn other = turns.turn other)
    (hnot : ∀ other, other ≠ sender → ∀ parcel sent, turns.turn other ≠ .sending parcel sent)
    (hlog : next.log = (turns.blocks.map fun block => (block.parcel, block.sent)).flatMap
      (fun begun => begun.1.entries begun.2) ++ parcel.entries sent)
    (hresponse : IsResponse transmission parcel)
    (hsent : sent ≤ parcel.stream.datagrams.length) : Orderly transmission next := by
  have hbegun : next.begun =
      turns.blocks.map (fun block => (block.parcel, block.sent)) ++ [(parcel, sent)] := by
    rw [Turns.begun, hblocks, current_of_holder hlock hself, Option.toList_some]
  constructor
  · intro other
    rw [hlock, Option.some.injEq]
    by_cases heq : other = sender
    · subst heq
      exact ⟨fun _ => ⟨parcel, sent, hself⟩, fun _ => rfl⟩
    · rw [hothers other heq]
      constructor
      · intro hsame
        exact absurd hsame.symm heq
      · intro hexists
        rcases hexists with ⟨otherParcel, otherSent, hother⟩
        exact absurd hother (hnot other heq otherParcel otherSent)
  · rw [hbegun, List.flatMap_append, hlog]
    simp
  · intro other otherParcel hother
    by_cases heq : other = sender
    · subst heq
      rw [hself] at hother
      cases hother
    · rw [hothers other heq] at hother
      exact horderly.waiting other otherParcel hother
  · intro begun hmem
    rw [hbegun] at hmem
    rcases List.mem_append.mp hmem with hover | hlast
    · exact horderly.begun begun (List.mem_append_left _ hover)
    · rw [List.mem_singleton.mp hlast]
      exact ⟨hresponse, hsent⟩
  · rw [hblocks]
    exact horderly.complete

theorem acquire (horderly : Orderly transmission turns) {parcel : Parcel}
    (hwaiting : turns.turn sender = .waiting parcel) (hfree : turns.lock = none) :
    Orderly transmission { turns.setTurn sender (.sending parcel 0) with lock := some sender } := by
  refine horderly.of_sending (blocks_setTurn _ _ _) rfl ?_ ?_ ?_ ?_
    (horderly.waiting sender parcel hwaiting) (Nat.zero_le _)
  · rw [turn_setLock, turn_setTurn_self]
  · intro other hne
    rw [turn_setLock, turn_setTurn_of_ne _ _ hne]
  · intro other _ otherParcel otherSent hother
    have hheld := (horderly.lock_iff other).mpr ⟨otherParcel, otherSent, hother⟩
    rw [hfree] at hheld
    cases hheld
  · simp only [log_setTurn]
    rw [horderly.log_eq, Turns.begun, current_of_free hfree]
    simp [Parcel.entries]

theorem take (horderly : Orderly transmission turns) {parcel : Parcel} {sent : ℕ}
    {datagram : Bytes} (hsending : turns.turn sender = .sending parcel sent)
    (hdatagram : parcel.stream.datagrams[sent]? = some datagram) :
    Orderly transmission { turns.setTurn sender (.sending parcel (sent + 1)) with
      log := turns.log ++ [(parcel.target, datagram)] } := by
  have hlock := (horderly.lock_iff sender).mpr ⟨parcel, sent, hsending⟩
  have hcurrent := current_of_holder hlock hsending
  have hentries : parcel.entries (sent + 1) =
      parcel.entries sent ++ [(parcel.target, datagram)] := by
    simp [Parcel.entries, List.take_add_one, hdatagram]
  have hmem : (parcel, sent) ∈ turns.begun := by
    simp [Turns.begun, hcurrent]
  have hheld : (turns.setTurn sender (.sending parcel (sent + 1))).lock = some sender := by
    rw [lock_setTurn, hlock]
  obtain ⟨hsent, _⟩ := List.getElem?_eq_some_iff.mp hdatagram
  refine horderly.of_sending (blocks_setTurn _ _ _) hheld ?_ ?_ ?_ ?_
    (horderly.begun _ hmem).1 hsent
  · rw [turn_setLog, turn_setTurn_self]
  · intro other hne
    rw [turn_setLog, turn_setTurn_of_ne _ _ hne]
  · intro other hne otherParcel otherSent hother
    exact hne (horderly.eq_of_sending hsending hother)
  · simp only
    rw [horderly.log_eq, Turns.begun, hcurrent, hentries]
    simp

theorem step (horderly : Orderly transmission turns) {move : SendMove}
    (hstep : Step transmission turns sender move next) : Orderly transmission next := by
  cases hstep with
  | begin hresting hstream =>
      apply horderly.of_setTurn
      · simp [hresting]
      · simp
      · intro parcel heq
        cases heq
        exact ⟨_, hstream⟩
  | giveUp hresting hstream => exact horderly
  | acquire hwaiting hfree => exact horderly.acquire hwaiting hfree
  | take hsending hdatagram => exact horderly.take hsending hdatagram
  | refuse hsending => exact horderly.release hsending (.inl rfl) (by simp)
  | finish hsending hall => exact horderly.release hsending (.inl rfl) fun _ => hall
  | breakOff hsending => exact horderly.release hsending (.inr rfl) (by simp)
  | abort hidle => exact horderly.of_setTurn hidle (by simp) (by simp)

theorem of_run {moves : List (Sender × SendMove)} {turns : Turns}
    (hrun : ({} : Turns).run transmission moves = some turns) : Orderly transmission turns := by
  induction moves using List.reverseRecOn generalizing turns with
  | nil =>
      cases hrun
      exact fresh transmission
  | append_singleton moves last ih =>
      obtain ⟨next, hnext, hstep⟩ := run_append_singleton hrun
      exact (ih hnext).step hstep

end Orderly

/-- A response ends early only where a datagram is refused or its sender is broken off. -/
theorem ends_of_run {transmission : Transmission} {moves : List (Sender × SendMove)}
    {turns : Turns} (hrun : ({} : Turns).run transmission moves = some turns) :
    turns.blocks.countP (·.ending = .failed) = moves.countP (·.2 = .send false) ∧
      turns.blocks.countP (·.ending = .aborted) ≤ moves.countP (·.2 = .abort) := by
  induction moves using List.reverseRecOn generalizing turns with
  | nil =>
      cases hrun
      exact ⟨rfl, le_rfl⟩
  | append_singleton moves last ih =>
      rcases last with ⟨sender, move⟩
      obtain ⟨next, hnext, hstep⟩ := run_append_singleton hrun
      obtain ⟨hfailures, haborts⟩ := ih hnext
      cases hstep <;> simp [release, hfailures] <;> omega

/-- A sender that waits for the lock gets it, or its holder has something left to do. -/
theorem exists_move_of_waiting {transmission : Transmission} {moves : List (Sender × SendMove)}
    {turns : Turns} (hrun : ({} : Turns).run transmission moves = some turns) {sender : Sender}
    {parcel : Parcel} (hwaiting : turns.turn sender = .waiting parcel) :
    ∃ other move, move ≠ .abort ∧ (turns.move transmission other move).isSome := by
  have horderly := Orderly.of_run hrun
  cases hlock : turns.lock with
  | none =>
      refine ⟨sender, .acquire, by simp, ?_⟩
      simp [Turns.move, hwaiting, hlock]
  | some holder =>
      obtain ⟨held, sent, hsending⟩ := (horderly.lock_iff holder).mp hlock
      have hbegun : (held, sent) ∈ turns.begun := by
        simp [Turns.begun, current_of_holder hlock hsending]
      have hsent : sent ≤ held.stream.datagrams.length := (horderly.begun _ hbegun).2
      by_cases hall : sent = held.stream.datagrams.length
      · refine ⟨holder, .finish, by simp, ?_⟩
        simp [Turns.move, hsending, hall]
      · have hdatagram : sent < held.stream.datagrams.length := lt_of_le_of_ne hsent hall
        refine ⟨holder, .send true, by simp, ?_⟩
        simp [Turns.move, hsending, List.getElem?_eq_getElem hdatagram]

/-! ## What is on the wire -/

theorem IsResponse.exists_cutting {transmission : Transmission} {parcel : Parcel}
    (hresponse : IsResponse transmission parcel) :
    ∃ cutting : Cutting, cutting.stream = parcel.stream := by
  rcases hresponse with ⟨report, hstream⟩
  obtain ⟨cutting, _, _, _, hcutting⟩ := Stream.exists_cutting hstream
  exact ⟨cutting, hcutting⟩

/-- However the two senders take their turns, the log is a row of blocks, the last of which may be
the unfinished one of the lock's holder.  Each block is the beginning of one response to one peer,
its chunks are numbered from zero on, and a response that is sent alone gets as far over some
socket.  A block that did not end because a datagram was refused or its sender was broken off is a
whole stream with its one sentinel at the end. -/
theorem log_is_row_of_blocks {transmission : Transmission} {moves : List (Sender × SendMove)}
    {turns : Turns} (hrun : ({} : Turns).run transmission moves = some turns) :
    turns.log = turns.begun.flatMap (fun begun => begun.1.entries begun.2) ∧
      (∀ sender, turns.lock = some sender ↔
        ∃ parcel sent, turns.turn sender = .sending parcel sent) ∧
      ((turns.lock = none ∧
          turns.begun = turns.blocks.map fun block => (block.parcel, block.sent)) ∨
        ∃ sender parcel sent, turns.lock = some sender ∧
          turns.turn sender = .sending parcel sent ∧
          turns.begun = turns.blocks.map (fun block => (block.parcel, block.sent)) ++
            [(parcel, sent)]) ∧
      (∀ begun ∈ turns.begun, ∃ report, transmission.stream report = .ok begun.1.stream ∧
        begun.2 ≤ begun.1.stream.datagrams.length ∧
        (∀ place < begun.2, place < begun.1.stream.chunks.length →
          ∃ datagram chunk, (begun.1.entries begun.2)[place]? = some (begun.1.target, datagram) ∧
            Chunk.decode datagram = .ok chunk ∧ chunk.sequence.toNat = place) ∧
        ∃ socket, ∀ target, begun.1.entries begun.2 =
          (transmission.respond socket target report).sent.map fun datagram =>
            (begun.1.target, datagram)) ∧
      (∀ block ∈ turns.blocks, block.ending ≠ .failed → block.ending ≠ .aborted →
        block.parcel.entries block.sent = block.parcel.stream.datagrams.map (fun datagram =>
          (block.parcel.target, datagram)) ∧
        block.parcel.stream.datagrams.count Wire.sentinel = 1 ∧
        block.parcel.stream.datagrams.getLast? = some Wire.sentinel) ∧
      turns.blocks.countP (·.ending = .failed) = moves.countP (·.2 = .send false) ∧
      turns.blocks.countP (·.ending = .aborted) ≤ moves.countP (·.2 = .abort) := by
  have horderly := Orderly.of_run hrun
  refine ⟨horderly.log_eq, horderly.lock_iff, ?_, ?_, ?_, ends_of_run hrun⟩
  · cases hlock : turns.lock with
    | none =>
        left
        rw [Turns.begun, current_of_free hlock]
        exact ⟨rfl, List.append_nil _⟩
    | some sender =>
        right
        obtain ⟨parcel, sent, hsending⟩ := (horderly.lock_iff sender).mp hlock
        refine ⟨sender, parcel, sent, rfl, hsending, ?_⟩
        rw [Turns.begun, current_of_holder hlock hsending, Option.toList_some]
  · intro begun hbegun
    obtain ⟨hresponse, hsent⟩ := horderly.begun begun hbegun
    obtain ⟨cutting, hcutting⟩ := hresponse.exists_cutting
    rcases hresponse with ⟨report, hstream⟩
    refine ⟨report, hstream, hsent, ?_, ?_⟩
    · intro place hplace hchunk
      rw [← hcutting, cutting.length_chunks] at hchunk
      obtain ⟨datagram, chunk, hdatagram, hdecode, hsequence⟩ := cutting.decode_datagrams hchunk
      rw [hcutting] at hdatagram
      refine ⟨datagram, chunk, ?_, hdecode, hsequence⟩
      simp [Parcel.entries, hplace, hdatagram]
    · let socket : Socket := fun place =>
        if place < begun.2 then .ok () else .error .networkUnreachable
      refine ⟨socket, fun target => ?_⟩
      rw [Transmission.sent_respond hstream (fun index hindex => if_pos hindex)
        (if_neg (lt_irrefl _))]
      rfl
  · intro block hblock hnotFailed hnotAborted
    have hending : block.ending = .complete := by
      cases hending : block.ending with
      | complete => rfl
      | failed => exact absurd hending hnotFailed
      | aborted => exact absurd hending hnotAborted
    have hbegun : (block.parcel, block.sent) ∈ turns.begun :=
      List.mem_append_left _ (List.mem_map.mpr ⟨block, hblock, rfl⟩)
    obtain ⟨hresponse, _⟩ := horderly.begun _ hbegun
    obtain ⟨cutting, hcutting⟩ := hresponse.exists_cutting
    have hcount := cutting.count_sentinel_take le_rfl
    rw [List.take_length, if_pos rfl, hcutting] at hcount
    refine ⟨?_, hcount, ?_⟩
    · rw [Parcel.entries, horderly.complete block hblock hending, List.take_length]
    · rw [Stream.datagrams, List.getLast?_append, List.getLast?_singleton]
      rfl

/-- The worker's response fails at its second datagram, the refusal behind it goes out whole, and
the worker is broken off in its next response. -/
theorem log_of_three_blocks :
    let transmission : Transmission := ⟨16, true⟩
    let moves : List (Sender × SendMove) :=
      [(.worker, .begin 1 Report.failed), (.refuser, .begin 2 Report.busy), (.worker, .acquire),
        (.worker, .send true), (.worker, .send false), (.refuser, .acquire),
        (.worker, .begin 3 Report.failed), (.refuser, .send true), (.refuser, .send true),
        (.refuser, .send true), (.refuser, .finish), (.worker, .acquire), (.worker, .send true),
        (.worker, .abort), (.refuser, .begin 4 Report.busy), (.refuser, .acquire)]
    ∃ turns, ({} : Turns).run transmission moves = some turns ∧
      turns.log.map Prod.fst = [1, 2, 2, 2, 3] ∧
      turns.log = turns.begun.flatMap (fun begun => begun.1.entries begun.2) ∧
      turns.begun.map Prod.snd = [1, 3, 1, 0] ∧
      turns.blocks.countP (·.ending = .failed) = 1 := by
  intro transmission moves
  have hrun : (({} : Turns).run transmission moves).isSome = true := by decide +kernel
  obtain ⟨turns, hturns⟩ := Option.isSome_iff_exists.mp hrun
  have hshape : (({} : Turns).run transmission moves).map (fun turns =>
      (turns.log.map Prod.fst, turns.begun.map Prod.snd)) =
        some ([1, 2, 2, 2, 3], [1, 3, 1, 0]) := by
    decide +kernel
  rw [hturns, Option.map_some, Option.some.injEq, Prod.mk.injEq] at hshape
  obtain ⟨hlog, _, _, _, _, hfailed, _⟩ := log_is_row_of_blocks hturns
  exact ⟨turns, hturns, hshape.1, hlog, hshape.2, hfailed⟩

end Turns

end DatagramShell
