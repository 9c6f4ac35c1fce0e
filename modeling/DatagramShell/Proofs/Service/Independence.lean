import DatagramShell.Proofs.Service.Steps
import Mathlib.Tactic

/-!
# The schedule does not depend on the answers

Services with queues of the same depth go through the same sessions, whatever their commands lead to
and however their answers are sent.  What their peers see differs in the datagrams of the answers
and in whether a refusal is sent at all.  A command that is refused leaves nothing behind, so a run
without it is the same run.
-/

namespace DatagramShell

/-- A list without what stands at some of its places. -/
def withoutPlaces {α : Type} (dropped : ℕ → Bool) : List α → List α
  | [] => []
  | item :: items =>
    let rest := withoutPlaces (fun place => dropped (place + 1)) items
    if dropped 0 then rest else item :: rest

namespace Event

/-- What can be seen of a command that is too many. -/
inductive IsRefusal : Event → Prop
  | silent : IsRefusal .silent
  | rejected (reply : List Bytes) : IsRefusal (.rejected reply)

/-- Two events that tell the same of the schedule.  Only of a command that is too many may one tell
that it is refused while the other tells nothing. -/
inductive Alike (overflows : Prop) : Event → Event → Prop
  | same (event : Event) : Alike overflows event event
  | answer (peer : Peer) (reply replyOfOther : List Bytes) (next : Option Bytes) :
      Alike overflows (.finished peer reply next) (.finished peer replyOfOther next)
  | refusal {event eventOfOther : Event} (hoverflows : overflows) (hevent : event.IsRefusal)
      (hother : eventOfOther.IsRefusal) : Alike overflows event eventOfOther

end Event

/-- A command comes while another one runs and as many wait as the queue holds. -/
def Session.Overflows (depth : ℕ) (session : Session) (action : Action) : Prop :=
  action.job?.isSome ∧
    ∃ tasks, session = .up tasks ∧ tasks.running.isSome ∧ tasks.waiting.length = depth

theorem Session.overflows_up_iff {depth : ℕ} {row : List Job} {action : Action} :
    Overflows depth (.up (.ofRow row)) action ↔
      action.job?.isSome ∧ row.length = depth + 1 := by
  unfold Overflows
  refine and_congr_right fun _ => ?_
  constructor
  · rintro ⟨_, htasks, hrunning, hwaiting⟩
    cases htasks
    cases row with
    | nil => cases hrunning
    | cons first rest => exact congrArg (· + 1) hwaiting
  · intro hfull
    obtain ⟨first, rest, rfl⟩ := List.exists_cons_of_length_eq_add_one hfull
    exact ⟨_, rfl, rfl, Nat.succ.inj hfull⟩

namespace Service

/-- The command of an action goes to the end of the row. -/
def Accepts (service : Service) (session : Session) (action : Action) : Prop :=
  ∃ job, action.job? = some job ∧
    (service.step session action).2.row = session.row ++ [job]

variable {service other : Service} {row : List Job} {action : Action} {event : Event}
  {session next : Session}

/-! ## One action of two services -/

theorem exists_refusal (service : Service) {datagram line : Bytes}
    (hline : Request.receive datagram = .execute line)
    (hfull : row.length = service.queueDepth + 1) (peer : Peer) :
    ∃ event : Event, event.IsRefusal ∧
      Step service row (.send datagram peer) event (.up (.ofRow row)) := by
  by_cases hrefusal : service.refusal = []
  · exact ⟨_, .silent, .ignore hline hfull hrefusal⟩
  · exact ⟨_, .rejected _, .refuse hline hfull hrefusal⟩

/-- Whatever one service does to a row, the other one does to it, too. -/
theorem Step.exists_alike (hstep : Step service row action event next)
    (hsame : other.queueDepth = service.queueDepth) :
    ∃ eventOfOther, Step other row action eventOfOther next ∧
      Event.Alike (Session.Overflows service.queueDepth (.up (.ofRow row)) action)
        event eventOfOther := by
  cases hstep with
  | stop hcontrol => exact ⟨_, .stop hcontrol, .same _⟩
  | start hline hempty => exact ⟨_, .start hline hempty, .same _⟩
  | wait hline hrunning hroom => exact ⟨_, .wait hline hrunning (hsame.symm ▸ hroom), .same _⟩
  | @refuse datagram line peer hline hfull | @ignore datagram line peer hline hfull =>
      obtain ⟨eventOfOther, hrefusal, hother⟩ :=
        exists_refusal other hline (hsame.symm ▸ hfull) peer
      have hoverflows : Session.Overflows service.queueDepth (.up (.ofRow row))
          (.send datagram peer) := by
        rw [Session.overflows_up_iff, Action.job?_send hline]
        exact ⟨rfl, hfull⟩
      exact ⟨_, hother, .refusal hoverflows (by constructor) hrefusal⟩
  | idle hempty => exact ⟨_, .idle hempty, .same _⟩
  | finish hrow => exact ⟨_, .finish hrow, .answer _ _ _ _⟩

theorem step_alike (hdepth : 1 ≤ service.queueDepth)
    (hsame : other.queueDepth = service.queueDepth)
    (hsession : session.IsRow service.queueDepth) (action : Action) :
    (other.step session action).2 = (service.step session action).2 ∧
      Event.Alike (session.Overflows service.queueDepth action)
        (service.step session action).1 (other.step session action).1 := by
  cases hsession with
  | down => exact ⟨rfl, .same _⟩
  | up hlength =>
      obtain ⟨_, hother, halike⟩ := (step_row hdepth hlength action).exists_alike hsame
      rw [hother.eq (hsame.symm ▸ hdepth)]
      exact ⟨rfl, halike⟩

/-- The row has no place left for a command that is too many. -/
theorem Step.eq_of_overflows (hstep : Step service row action event next)
    (hoverflows : Session.Overflows service.queueDepth (.up (.ofRow row)) action) :
    next = .up (.ofRow row) := by
  obtain ⟨hjob, hfull⟩ := Session.overflows_up_iff.mp hoverflows
  cases hstep with
  | stop hcontrol => simp [Action.job?, hcontrol] at hjob
  | start _ hempty => simp [hempty] at hfull
  | wait _ _ hroom => exact absurd hfull (Nat.lt_succ_of_le hroom).ne
  | refuse | ignore => rfl
  | idle => cases hjob
  | finish => cases hjob

theorem step_of_overflows (hdepth : 1 ≤ service.queueDepth)
    (hsession : session.IsRow service.queueDepth)
    (hoverflows : session.Overflows service.queueDepth action) :
    (service.step session action).2 = session := by
  cases hsession with
  | down => rfl
  | up hlength => exact (step_row hdepth hlength action).eq_of_overflows hoverflows

/-! ## Runs of two services, and runs with and without refused commands -/

theorem after_eq_of_queueDepth_eq (hdepth : 1 ≤ service.queueDepth)
    (hsame : other.queueDepth = service.queueDepth)
    (hsession : session.IsRow service.queueDepth) (actions : List Action) :
    other.after session actions = service.after session actions := by
  induction actions generalizing session with
  | nil => rfl
  | cons action actions ih =>
      rw [after, after, (step_alike hdepth hsame hsession action).1,
        ih (isRow_step hdepth hsession action)]

theorem run_withoutPlaces (hdepth : 1 ≤ service.queueDepth)
    (hsession : session.IsRow service.queueDepth) {actions : List Action} {dropped : ℕ → Bool}
    (hdropped : ∀ index action, actions[index]? = some action → dropped index = true →
      (service.after session (actions.take index)).Overflows service.queueDepth action) :
    service.events session (withoutPlaces dropped actions) =
        withoutPlaces dropped (service.events session actions) ∧
      service.after session (withoutPlaces dropped actions) =
        service.after session actions := by
  induction actions generalizing session dropped with
  | nil => exact ⟨rfl, rfl⟩
  | cons action actions ih =>
      obtain ⟨hevents, hafter⟩ := ih (isRow_step hdepth hsession action)
        (fun index later hlater hplace => hdropped (index + 1) later hlater hplace)
      cases hfirst : dropped 0 with
      | true =>
          -- The action changes nothing, so the others start from the same session without it.
          have hkept := step_of_overflows hdepth hsession (hdropped 0 action rfl hfirst)
          rw [hkept] at hevents hafter
          rw [withoutPlaces, events, withoutPlaces, after, if_pos hfirst, if_pos hfirst, hkept]
          exact ⟨hevents, hafter⟩
      | false =>
          have hstays : ¬ dropped 0 = true := ne_true_of_eq_false hfirst
          rw [withoutPlaces, events, withoutPlaces, after, if_neg hstays, if_neg hstays, events,
            after]
          exact ⟨congrArg _ hevents, hafter⟩

/-- Two services whose queues are equally deep have the same session before each action, accept the
same commands, and start, finish and stop alike, whatever their shells do and however they send.
Commands that come while another one runs and the queue is full can be left out, any of them, and
nothing else changes. -/
theorem schedule_independent_of_answers (service other : Service)
    (hdepth : 1 ≤ service.queueDepth) (hsame : other.queueDepth = service.queueDepth)
    (actions : List Action) :
    (∀ index action, actions[index]? = some action →
      let session := service.after .fresh (actions.take index)
      other.after .fresh (actions.take index) = session ∧
        (service.Accepts session action ↔ other.Accepts session action) ∧
        ∃ event eventOfOther, (service.events .fresh actions)[index]? = some event ∧
          (other.events .fresh actions)[index]? = some eventOfOther ∧
          Event.Alike (session.Overflows service.queueDepth action) event eventOfOther) ∧
      ∀ dropped : ℕ → Bool,
        (∀ index action, actions[index]? = some action → dropped index = true →
          (service.after .fresh (actions.take index)).Overflows service.queueDepth action) →
        service.events .fresh (withoutPlaces dropped actions) =
            withoutPlaces dropped (service.events .fresh actions) ∧
          service.after .fresh (withoutPlaces dropped actions) =
            service.after .fresh actions := by
  refine ⟨?_, fun dropped => run_withoutPlaces hdepth (isRow_fresh _)⟩
  intro index action haction session
  have hbefore : other.after .fresh (actions.take index) = session :=
    after_eq_of_queueDepth_eq hdepth hsame (isRow_fresh _) _
  obtain ⟨hnext, halike⟩ :=
    step_alike hdepth hsame (isRow_after hdepth (isRow_fresh _) (actions.take index)) action
  refine ⟨hbefore, ?_, _, _, ?_, ?_, halike⟩
  · unfold Accepts
    rw [hnext]
  · rw [getElem?_events, haction]
    rfl
  · rw [getElem?_events, haction, hbefore]
    rfl

/-- The other service finds no shell and cannot even refuse the third command. -/
theorem schedule_independent_of_missing_shell :
    let service : Service :=
      { queueDepth := 1
        transmission := ⟨16, true⟩
        runner := fun line => .ok (.completed 0 line []) }
    let other : Service :=
      { queueDepth := 1
        transmission := ⟨0, false⟩
        runner := fun _ => .error (.launch "bash" .notFound) }
    let third : Action := .send (Bytes.ofString "id") 3
    let actions : List Action :=
      [.send (Bytes.ofString "ls") 1, .send (Bytes.ofString "ps") 2, third, .release, .release]
    (∃ event eventOfOther, (service.events .fresh actions)[2]? = some event ∧
        (other.events .fresh actions)[2]? = some eventOfOther ∧
        Event.Alike ((service.after .fresh (actions.take 2)).Overflows 1 third)
          event eventOfOther) ∧
      (service.events .fresh actions)[2]? = some (.rejected service.refusal) ∧
      (other.events .fresh actions)[2]? = some .silent ∧
      service.events .fresh (actions.eraseIdx 2) = (service.events .fresh actions).eraseIdx 2 := by
  intro service other third actions
  obtain ⟨halike, hdropping⟩ :=
    service.schedule_independent_of_answers other (by decide) rfl actions
  obtain ⟨_, _, hthird⟩ := halike 2 third rfl
  have hdropped : ∀ index action, actions[index]? = some action → (index == 2) = true →
      (service.after .fresh (actions.take index)).Overflows 1 action := by
    intro index action haction hplace
    cases eq_of_beq hplace
    cases haction
    have hrow : service.after .fresh (actions.take 2) =
        .up (.ofRow [⟨Bytes.ofString "ls", 1⟩, ⟨Bytes.ofString "ps", 2⟩]) := by decide +kernel
    rw [hrow, Session.overflows_up_iff]
    exact ⟨by decide +kernel, rfl⟩
  exact ⟨hthird, by decide +kernel, by decide +kernel, (hdropping (· == 2) hdropped).1⟩

end Service

end DatagramShell
