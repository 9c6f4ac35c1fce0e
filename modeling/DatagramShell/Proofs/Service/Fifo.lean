import DatagramShell.Proofs.Service.Row
import DatagramShell.Proofs.Service.Reply
import Mathlib.Tactic

/-!
# First in, first out

What the peers see of a session is told from the row of commands that it holds.  The commands that
were accepted are, in the order in which they came, those that have been answered and then the row;
an action changes this in one of four ways only.  A refused command leaves the row as it is, an
accepted one goes to its end, and the end of the running command moves the first one of the row to
those that have been answered.
-/

namespace DatagramShell

/-- The command that an action brings, if it brings one. -/
def Action.job? : Action → Option Job
  | .release => none
  | .send datagram peer =>
    match Request.receive datagram with
    | .shutdown => none
    | .execute line => some ⟨line, peer⟩

theorem Action.job?_send {datagram line : Bytes}
    (hline : Request.receive datagram = .execute line) (peer : Peer) :
    (Action.send datagram peer).job? = some ⟨line, peer⟩ := by
  simp only [job?, hline]

theorem Request.exists_execute {datagram : Bytes}
    (hcontrol : receive datagram ≠ .shutdown) : ∃ line, receive datagram = .execute line := by
  cases hrequest : receive datagram with
  | shutdown => exact absurd hrequest hcontrol
  | execute line => exact ⟨line, rfl⟩

namespace Event

/-- What is seen of a command that is accepted. -/
def isAdmission : Event → Bool
  | .started _ | .silent => true
  | _ => false

def answer? : Event → Option (Peer × List Bytes)
  | .finished peer reply _ => some (peer, reply)
  | _ => none

end Event

namespace Service

/-- The commands that are accepted in a run, in the order in which they come. -/
def accepted (service : Service) (actions : List Action) : List Job :=
  (actions.zip (service.events .fresh actions)).filterMap fun (action, event) =>
    if event.isAdmission then action.job? else none

def answered (service : Service) (actions : List Action) : List (Peer × List Bytes) :=
  (service.events .fresh actions).filterMap Event.answer?

variable {service : Service} {actions : List Action}

theorem step_send {datagram line : Bytes} (hline : Request.receive datagram = .execute line)
    (tasks : Tasks Job) (peer : Peer) :
    service.step (.up tasks) (.send datagram peer) = service.receive tasks ⟨line, peer⟩ := by
  simp only [step, hline]

theorem after_append_singleton (actions : List Action) (action : Action) :
    service.after .fresh (actions ++ [action]) =
      (service.step (service.after .fresh actions) action).2 := by
  rw [after_append]
  rfl

theorem accepted_append_singleton (actions : List Action) (action : Action) :
    service.accepted (actions ++ [action]) =
      service.accepted actions ++
        (if (service.step (service.after .fresh actions) action).1.isAdmission then action.job?
          else none).toList := by
  unfold accepted
  rw [events_append, List.zip_append (length_events _ _).symm, List.filterMap_append]
  rfl

theorem answered_append_singleton (actions : List Action) (action : Action) :
    service.answered (actions ++ [action]) =
      service.answered actions ++
        (service.step (service.after .fresh actions) action).1.answer?.toList := by
  unfold answered
  rw [events_append, List.filterMap_append]
  rfl

/-! ## Runs told from their rows -/

/-- A run has answered some commands and now holds a row of others. -/
structure Settled (service : Service) (actions : List Action) (closed row : List Job) : Prop where
  after_eq : service.after .fresh actions = .up (.ofRow row)
  accepted_eq : service.accepted actions = closed ++ row
  answered_eq : service.answered actions =
    closed.map fun job => (job.peer, service.answer job.line)
  length_le : row.length ≤ service.queueDepth + 1

namespace Settled

variable {closed row : List Job}

theorem fresh (service : Service) : Settled service [] [] [] where
  after_eq := rfl
  accepted_eq := rfl
  answered_eq := rfl
  length_le := Nat.zero_le _

theorem length_sub (hsettled : Settled service actions closed row) :
    (service.accepted actions).length = (service.answered actions).length + row.length := by
  rw [hsettled.accepted_eq, hsettled.answered_eq, List.length_append, List.length_map]

/-- One more action: what its event tells of the row goes to the history. -/
theorem append_singleton (hsettled : Settled service actions closed row) {action : Action}
    {event : Event} {closedNext rowNext : List Job}
    (hstep : service.step (service.after .fresh actions) action = (event, .up (.ofRow rowNext)))
    (haccepted : closed ++ row ++ (if event.isAdmission then action.job? else none).toList =
      closedNext ++ rowNext)
    (hanswered : closed.map (fun job => (job.peer, service.answer job.line)) ++
        event.answer?.toList =
      closedNext.map fun job => (job.peer, service.answer job.line))
    (hlength : rowNext.length ≤ service.queueDepth + 1) :
    Settled service (actions ++ [action]) closedNext rowNext := by
  constructor
  · rw [after_append_singleton, hstep]
  · rw [accepted_append_singleton, hstep, hsettled.accepted_eq]
    exact haccepted
  · rw [answered_append_singleton, hstep, hsettled.answered_eq]
    exact hanswered
  · exact hlength

theorem send_of_room (hsettled : Settled service actions closed row)
    (hdepth : 1 ≤ service.queueDepth) (hroom : row.length ≤ service.queueDepth)
    {datagram line : Bytes} (hline : Request.receive datagram = .execute line) (peer : Peer) :
    (service.step (service.after .fresh actions) (.send datagram peer)).1.isAdmission = true ∧
      Settled service (actions ++ [.send datagram peer]) closed (row ++ [⟨line, peer⟩]) := by
  have hevent : ∃ event : Event, event.isAdmission = true ∧ event.answer? = none ∧
      service.step (service.after .fresh actions) (.send datagram peer) =
        (event, .up (.ofRow (row ++ [⟨line, peer⟩]))) := by
    rw [hsettled.after_eq, step_send hline]
    cases row with
    | nil => exact ⟨.started line, rfl, rfl, receive_of_empty hdepth _⟩
    | cons first row => exact ⟨.silent, rfl, rfl, receive_of_room hroom _⟩
  obtain ⟨event, hadmission, hanswer, hstep⟩ := hevent
  refine ⟨by rw [hstep, hadmission], hsettled.append_singleton hstep ?_ ?_ ?_⟩
  · rw [hadmission, if_pos rfl, Action.job?_send hline, List.append_assoc, Option.toList_some]
  · rw [hanswer, Option.toList_none, List.append_nil]
  · rw [List.length_append, List.length_singleton]
    exact Nat.succ_le_succ hroom

theorem send_of_full (hsettled : Settled service actions closed row)
    (hrefusal : service.refusal ≠ []) (hfull : row.length = service.queueDepth + 1)
    {datagram line : Bytes} (hline : Request.receive datagram = .execute line) (peer : Peer) :
    (service.step (service.after .fresh actions) (.send datagram peer)).1 =
        .rejected service.refusal ∧
      Settled service (actions ++ [.send datagram peer]) closed row := by
  have hstep : service.step (service.after .fresh actions) (.send datagram peer) =
      (.rejected service.refusal, .up (.ofRow row)) := by
    rw [hsettled.after_eq, step_send hline]
    cases row with
    | nil => cases hfull
    | cons first row =>
        have hwaiting : service.queueDepth ≤ row.length := (Nat.succ.inj hfull).ge
        rw [receive_of_full hwaiting, if_neg hrefusal]
  refine ⟨by rw [hstep], hsettled.append_singleton hstep ?_ ?_ hsettled.length_le⟩
  · exact List.append_nil _
  · exact List.append_nil _

theorem release_of_idle (hsettled : Settled service actions closed []) :
    (service.step (service.after .fresh actions) .release).1 = .idle ∧
      Settled service (actions ++ [.release]) closed [] := by
  have hstep : service.step (service.after .fresh actions) .release =
      (.idle, .up (.ofRow [])) := by
    rw [hsettled.after_eq, step, release_of_empty]
  refine ⟨by rw [hstep], hsettled.append_singleton hstep ?_ ?_ hsettled.length_le⟩
  · exact List.append_nil _
  · exact List.append_nil _

theorem release_of_running {first : Job}
    (hsettled : Settled service actions closed (first :: row)) :
    (service.step (service.after .fresh actions) .release).1 =
        .finished first.peer (service.answer first.line) (row.head?.map (·.line)) ∧
      Settled service (actions ++ [.release]) (closed ++ [first]) row := by
  have hstep : service.step (service.after .fresh actions) .release =
      (.finished first.peer (service.answer first.line) (row.head?.map (·.line)),
        .up (.ofRow row)) := by
    rw [hsettled.after_eq, step, release_of_cons]
  refine ⟨by rw [hstep], hsettled.append_singleton hstep ?_ ?_ ?_⟩
  · rw [List.append_assoc, List.append_assoc]
    exact congrArg (closed ++ ·) (List.append_nil _)
  · rw [List.map_append]
    rfl
  · exact (Nat.le_succ _).trans hsettled.length_le

theorem rejected_iff (hsettled : Settled service actions closed row)
    (hdepth : 1 ≤ service.queueDepth) (hrefusal : service.refusal ≠ []) {datagram line : Bytes}
    (hline : Request.receive datagram = .execute line) (peer : Peer) :
    (∃ reply, (service.step (service.after .fresh actions) (.send datagram peer)).1 =
        .rejected reply) ↔
      (service.accepted actions).length =
        (service.answered actions).length + (service.queueDepth + 1) := by
  rw [hsettled.length_sub, Nat.add_left_cancel_iff]
  constructor
  · intro hrejected
    rcases hrejected with ⟨reply, hreply⟩
    rcases hsettled.length_le.lt_or_eq with hroom | hfull
    · have hadmission :=
        (hsettled.send_of_room hdepth (Nat.lt_succ_iff.mp hroom) hline peer).1
      rw [hreply] at hadmission
      cases hadmission
    · exact hfull
  · intro hfull
    exact ⟨_, (hsettled.send_of_full hrefusal hfull hline peer).1⟩

/-- Only the oldest command that has not been answered yet can be answered. -/
theorem of_finished (hsettled : Settled service actions closed row)
    (hdepth : 1 ≤ service.queueDepth) (hrefusal : service.refusal ≠ []) {action : Action}
    (hcontrol : ∀ datagram peer, action = .send datagram peer →
      Request.receive datagram ≠ .shutdown) {peer : Peer} {reply : List Bytes}
    {next : Option Bytes}
    (hevent : (service.step (service.after .fresh actions) action).1 =
      .finished peer reply next) :
    ∃ job, (service.accepted actions)[(service.answered actions).length]? = some job ∧
      peer = job.peer ∧ reply = service.answer job.line ∧
      next = (service.accepted actions)[(service.answered actions).length + 1]?.map (·.line) := by
  cases action with
  | send datagram sender =>
      obtain ⟨line, hline⟩ := Request.exists_execute (hcontrol datagram sender rfl)
      rcases hsettled.length_le.lt_or_eq with hroom | hfull
      · have hadmission :=
          (hsettled.send_of_room hdepth (Nat.lt_succ_iff.mp hroom) hline sender).1
        rw [hevent] at hadmission
        cases hadmission
      · have hrejected := (hsettled.send_of_full hrefusal hfull hline sender).1
        rw [hevent] at hrejected
        cases hrejected
  | release =>
      cases row with
      | nil =>
          have hidle := hsettled.release_of_idle.1
          rw [hevent] at hidle
          cases hidle
      | cons first row =>
          have hfinished := hsettled.release_of_running.1
          rw [hevent, Event.finished.injEq] at hfinished
          rcases hfinished with ⟨hpeer, hreply, hnext⟩
          have hplace : (service.answered actions).length = closed.length := by
            rw [hsettled.answered_eq, List.length_map]
          refine ⟨first, ?_, hpeer, hreply, ?_⟩
          · rw [hsettled.accepted_eq, hplace, List.getElem?_append_right le_rfl, Nat.sub_self]
            rfl
          · rw [hnext, hsettled.accepted_eq, hplace,
              List.getElem?_append_right (Nat.le_add_right _ 1), Nat.add_sub_cancel_left,
              List.getElem?_cons_succ, List.head?_eq_getElem?]

end Settled

theorem exists_settled (hdepth : 1 ≤ service.queueDepth) (hrefusal : service.refusal ≠ [])
    {actions : List Action}
    (hcontrol : ∀ datagram peer, Action.send datagram peer ∈ actions →
      Request.receive datagram ≠ .shutdown) :
    ∃ closed row, Settled service actions closed row := by
  induction actions using List.reverseRecOn with
  | nil => exact ⟨[], [], .fresh service⟩
  | append_singleton actions action ih =>
      obtain ⟨closed, row, hsettled⟩ :=
        ih fun datagram peer hmem => hcontrol datagram peer (List.mem_append_left _ hmem)
      cases action with
      | send datagram peer =>
          obtain ⟨line, hline⟩ := Request.exists_execute
            (hcontrol datagram peer (List.mem_append_right _ (List.mem_singleton_self _)))
          rcases hsettled.length_le.lt_or_eq with hroom | hfull
          · exact ⟨closed, row ++ [⟨line, peer⟩],
              (hsettled.send_of_room hdepth (Nat.lt_succ_iff.mp hroom) hline peer).2⟩
          · exact ⟨closed, row, (hsettled.send_of_full hrefusal hfull hline peer).2⟩
      | release =>
          cases row with
          | nil => exact ⟨closed, [], hsettled.release_of_idle.2⟩
          | cons first row => exact ⟨closed ++ [first], row, hsettled.release_of_running.2⟩

/-! ## Service in order -/

section Answers

variable (hpos : 0 < service.transmission.chunkSize)
  (hsize : service.transmission.chunkSize ≤ Wire.maxPayloadLength)
include hpos hsize

theorem completes_answer_of_ok {line : Bytes} {report : Report}
    (hreport : service.runner line = .ok report)
    (hfits : report.render.length ≤ Wire.maxResponseLength) :
    Assembly.Completes (service.answer line) report.render := by
  have hanswer : service.answer line = service.transmission.reply report := by
    rw [answer, Runner.answer, hreport]
    rfl
  rw [hanswer]
  exact Transmission.completes_reply hpos hsize hfits

theorem completes_answer_of_error {line : Bytes} {error : CommandError}
    (herror : service.runner line = .error error) :
    Assembly.Completes (service.answer line) (Report.render ⟨.error, -1, [], []⟩) := by
  have hanswer : service.answer line = service.transmission.reply ⟨.error, -1, [], []⟩ := by
    rw [answer, Runner.answer, herror]
    rfl
  rw [hanswer]
  exact Transmission.completes_reply hpos hsize (by decide)

end Answers

/-- In a run without a control token the commands that were accepted are, in the order in which they
came, those that have been answered, the one that runs and those that wait.  A command is refused
exactly if the queue's depth and one more are accepted and not answered yet.  Each answer goes to
the peer of the oldest command that has none yet, and completes with the report that the runner has
made on that command or, if it has made none, with a report of an error. -/
theorem serves_in_order (service : Service) (hdepth : 1 ≤ service.queueDepth)
    (hpos : 0 < service.transmission.chunkSize)
    (hsize : service.transmission.chunkSize ≤ Wire.maxPayloadLength)
    (hfits : ∀ line report, service.runner line = .ok report →
      report.render.length ≤ Wire.maxResponseLength) (actions : List Action)
    (hcontrol : ∀ datagram peer, Action.send datagram peer ∈ actions →
      Request.receive datagram ≠ .shutdown) :
    ∃ closed tasks, service.after .fresh actions = .up tasks ∧
      service.accepted actions = closed ++ tasks.running.toList ++ tasks.waiting ∧
      service.answered actions = closed.map (fun job => (job.peer, service.answer job.line)) ∧
      tasks.waiting.length ≤ service.queueDepth ∧
      (tasks.running = none → tasks.waiting = []) ∧
      (∀ index datagram peer, actions[index]? = some (.send datagram peer) →
        ((∃ reply, (service.events .fresh actions)[index]? = some (.rejected reply)) ↔
          (service.accepted (actions.take index)).length =
            (service.answered (actions.take index)).length + (service.queueDepth + 1))) ∧
      ∀ index peer reply next,
        (service.events .fresh actions)[index]? = some (.finished peer reply next) →
        let place := (service.answered (actions.take index)).length
        ∃ job, (service.accepted (actions.take index))[place]? = some job ∧
          peer = job.peer ∧
          (∀ report, service.runner job.line = .ok report →
            Assembly.Completes reply report.render) ∧
          (∀ error, service.runner job.line = .error error →
            Assembly.Completes reply (Report.render ⟨.error, -1, [], []⟩)) ∧
          next = (service.accepted (actions.take index))[place + 1]?.map (·.line) := by
  have hbusy : Report.busy.render.length ≤ Wire.maxResponseLength := by decide
  have hrefusal : service.refusal ≠ [] :=
    (Transmission.completes_reply hpos hsize hbusy).ne_nil
  -- What an event says is told from the row just before it, so every prefix of the run is settled.
  have hbefore : ∀ index, ∃ closed row, Settled service (actions.take index) closed row := by
    intro index
    exact exists_settled hdepth hrefusal fun datagram peer hmem =>
      hcontrol datagram peer (List.mem_of_mem_take hmem)
  obtain ⟨closed, row, hsettled⟩ := exists_settled hdepth hrefusal hcontrol
  refine ⟨closed, .ofRow row, hsettled.after_eq, ?_, hsettled.answered_eq, ?_,
    Tasks.waiting_of_idle, ?_, ?_⟩
  · rw [List.append_assoc, Tasks.running_append_waiting, hsettled.accepted_eq]
  · rw [Tasks.ofRow, List.length_tail]
    exact Nat.sub_le_of_le_add hsettled.length_le
  · intro index datagram peer haction
    obtain ⟨_, _, hthen⟩ := hbefore index
    obtain ⟨line, hline⟩ :=
      Request.exists_execute (hcontrol datagram peer (List.mem_of_getElem? haction))
    rw [getElem?_events, haction, Option.map_some, ← hthen.rejected_iff hdepth hrefusal hline peer]
    simp only [Option.some.injEq]
  · intro index peer reply next hevent
    obtain ⟨_, _, hthen⟩ := hbefore index
    rw [getElem?_events] at hevent
    rcases Option.map_eq_some_iff.mp hevent with ⟨action, haction, hstep⟩
    have hallowed : ∀ datagram sender, action = .send datagram sender →
        Request.receive datagram ≠ .shutdown := by
      intro datagram sender hsend
      rw [hsend] at haction
      exact hcontrol datagram sender (List.mem_of_getElem? haction)
    obtain ⟨job, hjob, hpeer, hreply, hnext⟩ := hthen.of_finished hdepth hrefusal hallowed hstep
    rw [hreply]
    refine ⟨job, hjob, hpeer, ?_, ?_, hnext⟩
    · intro report hreport
      exact completes_answer_of_ok hpos hsize hreport (hfits job.line report hreport)
    · intro error herror
      exact completes_answer_of_error hpos hsize herror

/-- One command may wait, and the shell knows one line only. -/
theorem serves_two_peers_in_order :
    let service : Service :=
      { queueDepth := 1
        transmission := ⟨16, true⟩
        runner := fun line =>
          if line = [108, 115] then .ok ⟨.ackOk, 0, [97, 10], []⟩
          else .error (.launch "bash" .notFound) }
    let actions : List Action :=
      [.send [108, 115] 1, .send [112, 115, 0] 2, .send [108, 115] 1, .release,
        .send [108, 115] 2, .release]
    (∃ reply, (service.events .fresh actions)[2]? = some (.rejected reply)) ∧
      (∃ reply, (service.events .fresh actions)[3]? =
          some (.finished 1 reply (some [112, 115])) ∧
        Assembly.Completes reply (Report.render ⟨.ackOk, 0, [97, 10], []⟩)) ∧
      (∃ reply, (service.events .fresh actions)[5]? =
          some (.finished 2 reply (some [108, 115])) ∧
        Assembly.Completes reply (Report.render ⟨.error, -1, [], []⟩)) ∧
      ∃ closed tasks, service.after .fresh actions = .up tasks ∧
        closed ++ tasks.running.toList ++ tasks.waiting =
          [⟨[108, 115], 1⟩, ⟨[112, 115], 2⟩, ⟨[108, 115], 2⟩] ∧
        closed.map (fun job => job.peer) = [1, 2] := by
  intro service actions
  have hfits : ∀ line report, service.runner line = .ok report →
      report.render.length ≤ Wire.maxResponseLength := by
    intro line report hreport
    by_cases hline : line = [108, 115]
    · simp only [service, if_pos hline, Except.ok.injEq] at hreport
      subst hreport
      decide
    · simp only [service, if_neg hline, reduceCtorEq] at hreport
  have hcontrol : ∀ datagram peer, Action.send datagram peer ∈ actions →
      Request.receive datagram ≠ .shutdown := by
    intro datagram peer hmem
    simp only [actions, List.mem_cons, Action.send.injEq, reduceCtorEq, false_or,
      List.not_mem_nil, or_false] at hmem
    rcases hmem with ⟨rfl, rfl⟩ | ⟨rfl, rfl⟩ | ⟨rfl, rfl⟩ | ⟨rfl, rfl⟩ <;> decide
  obtain ⟨closed, tasks, hafter, haccepted, hanswered, _, _, hrejected, hfinished⟩ :=
    service.serves_in_order (by decide) (by decide) (by decide) hfits actions hcontrol
  have hfull := (hrejected 2 [108, 115] 1 rfl).mpr (by decide +kernel)
  have hknown : (service.events .fresh actions)[3]? =
      some (.finished 1 (service.answer [108, 115]) (some [112, 115])) := by decide +kernel
  have hunknown : (service.events .fresh actions)[5]? =
      some (.finished 2 (service.answer [112, 115]) (some [108, 115])) := by decide +kernel
  have hpeers : (service.answered actions).map Prod.fst = [1, 2] := by decide +kernel
  have hfirst : (service.accepted (actions.take 3))[
      (service.answered (actions.take 3)).length]? = some ⟨[108, 115], 1⟩ := by
    decide +kernel
  have hsecond : (service.accepted (actions.take 5))[
      (service.answered (actions.take 5)).length]? = some ⟨[112, 115], 2⟩ := by
    decide +kernel
  refine ⟨hfull, ⟨_, hknown, ?_⟩, ⟨_, hunknown, ?_⟩, closed, tasks, hafter, ?_, ?_⟩
  · obtain ⟨job, hjob, _, hsucceeded, _⟩ := hfinished 3 _ _ _ hknown
    cases hjob.symm.trans hfirst
    exact hsucceeded _ rfl
  · obtain ⟨job, hjob, _, _, hfailed, _⟩ := hfinished 5 _ _ _ hunknown
    cases hjob.symm.trans hsecond
    exact hfailed _ rfl
  · rw [← haccepted]
    decide +kernel
  · rw [← hpeers, hanswered, List.map_map]
    rfl

end Service

end DatagramShell
