import DatagramShell.Proofs.Service.Accounting
import DatagramShell.Proofs.Service.Fifo
import Mathlib.Tactic

/-!
# A session is one of the schedules

In a session every task does what it can before the next datagram arrives.  So an action is a few
moves in a row: the datagram is received, and whoever has something to take up takes it up.  Behind
these moves no task can do anything but wait for the command that runs, and the tasks hold the same
commands for the same peers as those of the session.
-/

namespace DatagramShell

namespace Tasks

variable {Item Other : Type}

def map (f : Item → Other) (tasks : Tasks Item) : Tasks Other where
  waiting := tasks.waiting.map f
  running := tasks.running.map f
  backlog := tasks.backlog.map f
  refusing := tasks.refusing.map f

theorem admission_map (f : Item → Other) (depth : ℕ) (tasks : Tasks Item) :
    (tasks.map f).admission depth = tasks.admission depth := by
  simp [admission, map]

theorem accept_map (f : Item → Other) (depth : ℕ) (tasks : Tasks Item) (item : Item) :
    (tasks.map f).accept depth (f item) = (tasks.accept depth item).map f := by
  unfold accept
  rw [admission_map]
  cases tasks.admission depth <;> simp [map]

theorem startNext_map (f : Item → Other) (tasks : Tasks Item) :
    (tasks.map f).startNext = tasks.startNext.map f := by
  rcases tasks with ⟨waiting, running, _, _⟩
  cases running <;> cases waiting <;> rfl

theorem startRefusal_map (f : Item → Other) (tasks : Tasks Item) :
    (tasks.map f).startRefusal = tasks.startRefusal.map f := by
  rcases tasks with ⟨_, _, backlog, refusing⟩
  cases refusing <;> cases backlog <;> rfl

@[simp] theorem backlog_startNext (tasks : Tasks Item) :
    tasks.startNext.backlog = tasks.backlog := by
  unfold startNext
  split <;> rfl

@[simp] theorem refusing_startNext (tasks : Tasks Item) :
    tasks.startNext.refusing = tasks.refusing := by
  unfold startNext
  split <;> rfl

theorem startNext_of_busy {tasks : Tasks Item} (hbusy : tasks.running.isSome) :
    tasks.startNext = tasks := by
  obtain ⟨item, hrunning⟩ := Option.isSome_iff_exists.mp hbusy
  simp [startNext, hrunning]

end Tasks

theorem Move.map_job_arrivals (moves : List Move) :
    (arrivals moves).map Arrival.job = moves.filterMap job? := by
  simp [arrivals, Function.comp_def]

namespace Schedule

/-- No task can do anything until a datagram comes or a running command ends. -/
structure Quiet (schedule : Schedule) : Prop where
  report : schedule.report = none
  backlog : schedule.tasks.backlog = []
  refusing : schedule.tasks.refusing = none

theorem exists_run_start (depth : ℕ) (schedule : Schedule) :
    ∃ moves next, schedule.run depth moves = some next ∧ moves.filterMap Move.job? = [] ∧
      next.tasks = schedule.tasks.startNext ∧ next.report = schedule.report ∧
      next.answered = schedule.answered := by
  cases hstart : schedule.start with
  | none =>
      refine ⟨[], schedule, rfl, rfl, ?_, rfl, rfl⟩
      unfold start at hstart
      unfold Tasks.startNext
      cases hrunning : schedule.tasks.running with
      | some arrival => simp
      | none =>
          cases hwaiting : schedule.tasks.waiting with
          | nil => simp
          | cons arrival waiting => simp [hrunning, hwaiting] at hstart
  | some next =>
      refine ⟨[.start], next, ?_, rfl, ?_⟩
      · simp [run, Schedule.move, hstart]
      · unfold start at hstart
        split at hstart
        · cases hstart
          exact ⟨rfl, rfl, rfl⟩
        · cases hstart

theorem exists_run_refuse (depth : ℕ) {schedule : Schedule} {arrival : Arrival}
    {backlog : List Arrival} (hidle : schedule.tasks.refusing = none)
    (hbacklog : schedule.tasks.backlog = arrival :: backlog) :
    ∃ next, schedule.run depth [.startRefusal, .refuse true] = some next ∧
      next.tasks = schedule.tasks.startRefusal.finishRefusal ∧
      next.report = schedule.report ∧ next.answered = schedule.answered := by
  have hstart : schedule.startRefusal =
      some { schedule with tasks := schedule.tasks.startRefusal } := by
    simp [startRefusal, hidle, hbacklog]
  have hrefusing : schedule.tasks.startRefusal.refusing = some arrival := by
    simp [Tasks.startRefusal, hidle, hbacklog]
  refine ⟨{ schedule with
    tasks := schedule.tasks.startRefusal.finishRefusal
    refused := schedule.refused ++ [⟨arrival, Report.busy, true⟩] }, ?_, rfl, rfl, rfl⟩
  simp [run, Schedule.move, hstart, refuse, hrefusing]

theorem exists_run_finish (depth : ℕ) {schedule : Schedule} {arrival : Arrival}
    (hrunning : schedule.tasks.running = some arrival) (hreport : schedule.report = none)
    (result : Except CommandError Report) :
    ∃ next, schedule.run depth [.finish result, .respond true] = some next ∧
      next.tasks = schedule.tasks.finishRunning ∧ next.report = none ∧
      next.answered = schedule.answered ++
        [⟨arrival, .ofResult result, true⟩] := by
  refine ⟨{ schedule with
    tasks := schedule.tasks.finishRunning
    report := none
    answered := schedule.answered ++
      [⟨arrival, .ofResult result, true⟩] }, ?_, rfl, rfl, rfl⟩
  simp [run, Schedule.move, finish, respond, hrunning, hreport]

end Schedule

namespace Service

def seen (service : Service) (closing : Closing) : Peer × List Bytes :=
  (closing.arrival.job.peer, service.transmission.reply closing.report)

/-- Some moves lead from one schedule to another, as an action leads from one session to another. -/
structure Follows (service : Service) (schedule : Schedule) (action : Action) (moves : List Move)
    (next : Schedule) : Prop where
  run_eq : schedule.run service.queueDepth moves = some next
  quiet : next.Quiet
  jobs_eq : moves.filterMap Move.job? = action.job?.toList
  session_eq : (service.step (.up (schedule.tasks.map Arrival.job)) action).2 =
    .up (next.tasks.map Arrival.job)
  answered_eq : next.answered.map service.seen = schedule.answered.map service.seen ++
    (service.step (.up (schedule.tasks.map Arrival.job)) action).1.answer?.toList

variable {service : Service} {schedule : Schedule}

theorem receive_of_queued {tasks : Tasks Job} (job : Job)
    (hadmission : tasks.admission service.queueDepth = .queued) :
    (service.receive tasks job).2 = .up (tasks.accept service.queueDepth job).startNext ∧
      (service.receive tasks job).1.answer? = none := by
  simp only [receive, hadmission]
  split
  · exact ⟨rfl, rfl⟩
  · next hbusy =>
      have hrunning : (tasks.accept service.queueDepth job).running.isSome := by
        simpa [Tasks.accept, hadmission, Option.isSome_iff_ne_none] using hbusy
      rw [Tasks.startNext_of_busy hrunning]
      exact ⟨rfl, rfl⟩

theorem receive_of_refused {tasks : Tasks Job} (job : Job)
    (hadmission : tasks.admission service.queueDepth = .refused) :
    (service.receive tasks job).2 =
        .up (tasks.accept service.queueDepth job).startRefusal.finishRefusal ∧
      (service.receive tasks job).1.answer? = none := by
  simp only [receive, hadmission, true_and]
  split <;> rfl

theorem tasks_receive (depth : ℕ) (schedule : Schedule) (job : Job) :
    (schedule.receive depth job).tasks.map Arrival.job =
      (schedule.tasks.map Arrival.job).accept depth job :=
  (Tasks.accept_map Arrival.job _ _ _).symm

section Send

variable {datagram line : Bytes} {peer : Peer}

theorem move_receive (hline : Request.receive datagram = .execute line) :
    schedule.move service.queueDepth (.receive datagram peer) =
      some (schedule.receive service.queueDepth ⟨line, peer⟩) := by
  simp [Schedule.move, hline]

theorem job?_receive (hline : Request.receive datagram = .execute line) :
    (Move.receive datagram peer).job? = (Action.send datagram peer).job? := by
  simp [Move.job?, Action.job?, hline]

theorem exists_follows_queued (hquiet : schedule.Quiet)
    (hline : Request.receive datagram = .execute line)
    (hadmission : schedule.tasks.admission service.queueDepth = .queued) :
    ∃ moves next, Follows service schedule (.send datagram peer) moves next := by
  have hmap : (schedule.tasks.map Arrival.job).admission service.queueDepth = .queued := by
    rw [Tasks.admission_map, hadmission]
  obtain ⟨hsession, hsilent⟩ := receive_of_queued ⟨line, peer⟩ hmap
  obtain ⟨moves, next, hrun, hjobs, htasks, hreport, hanswered⟩ :=
    (schedule.receive service.queueDepth ⟨line, peer⟩).exists_run_start service.queueDepth
  refine ⟨.receive datagram peer :: moves, next, ?_, ⟨?_, ?_, ?_⟩, ?_, ?_, ?_⟩
  · rw [Schedule.run, move_receive hline]
    exact hrun
  · rw [hreport]
    exact hquiet.report
  · rw [htasks, Tasks.backlog_startNext]
    simpa [Schedule.receive, Tasks.accept, hadmission] using hquiet.backlog
  · rw [htasks, Tasks.refusing_startNext]
    simpa [Schedule.receive, Tasks.accept, hadmission] using hquiet.refusing
  · simp [job?_receive hline, hjobs, Action.job?_send hline]
  · rw [step_send hline, hsession, htasks, ← Tasks.startNext_map, tasks_receive]
  · rw [step_send hline, hsilent, hanswered]
    simp [Schedule.receive]

theorem exists_follows_refused (hquiet : schedule.Quiet)
    (hline : Request.receive datagram = .execute line)
    (hadmission : schedule.tasks.admission service.queueDepth = .refused) :
    ∃ moves next, Follows service schedule (.send datagram peer) moves next := by
  have hmap : (schedule.tasks.map Arrival.job).admission service.queueDepth = .refused := by
    rw [Tasks.admission_map, hadmission]
  obtain ⟨hsession, hsilent⟩ := receive_of_refused ⟨line, peer⟩ hmap
  have hidle : (schedule.receive service.queueDepth ⟨line, peer⟩).tasks.refusing = none := by
    simpa [Schedule.receive, Tasks.accept, hadmission] using hquiet.refusing
  have hbacklog : (schedule.receive service.queueDepth ⟨line, peer⟩).tasks.backlog =
      [⟨schedule.receipts.length, ⟨line, peer⟩⟩] := by
    simp [Schedule.receive, Tasks.accept, hadmission, hquiet.backlog]
  obtain ⟨next, hrun, htasks, hreport, hanswered⟩ :=
    Schedule.exists_run_refuse service.queueDepth hidle hbacklog
  refine ⟨[.receive datagram peer, .startRefusal, .refuse true], next, ?_, ⟨?_, ?_, ?_⟩, ?_, ?_, ?_⟩
  · rw [Schedule.run, move_receive hline]
    exact hrun
  · rw [hreport]
    exact hquiet.report
  · simp [htasks, Tasks.finishRefusal, Tasks.startRefusal, hidle, hbacklog]
  · simp [htasks, Tasks.finishRefusal]
  · rw [List.filterMap_cons, job?_receive hline, Action.job?_send hline]
    rfl
  · rw [step_send hline, hsession, htasks, ← tasks_receive, Tasks.startRefusal_map]
    rfl
  · rw [step_send hline, hsilent, hanswered]
    simp [Schedule.receive]

theorem exists_follows_send (hquiet : schedule.Quiet)
    (hline : Request.receive datagram = .execute line) :
    ∃ moves next, Follows service schedule (.send datagram peer) moves next := by
  cases hadmission : schedule.tasks.admission service.queueDepth with
  | queued => exact exists_follows_queued hquiet hline hadmission
  | refused => exact exists_follows_refused hquiet hline hadmission
  | dropped =>
      have hfull := (Tasks.admission_eq_dropped_iff.mp hadmission).2
      rw [hquiet.backlog] at hfull
      cases hfull

end Send

theorem exists_follows_release (hquiet : schedule.Quiet) :
    ∃ moves next, Follows service schedule .release moves next := by
  cases hrunning : schedule.tasks.running with
  | none =>
      have hstep : service.step (.up (schedule.tasks.map Arrival.job)) .release =
          (.idle, .up (schedule.tasks.map Arrival.job)) := by
        simp [step, release, Tasks.map, hrunning]
      refine ⟨[], schedule, rfl, hquiet, rfl, ?_, ?_⟩
      · rw [hstep]
      · rw [hstep]
        simp [Event.answer?]
  | some arrival =>
      obtain ⟨freed, hfinish, hfreed, hfreedReport, hfreedAnswered⟩ :=
        Schedule.exists_run_finish service.queueDepth hrunning hquiet.report
          (service.runner arrival.job.line)
      obtain ⟨moves, next, hrun, hjobs, htasks, hreport, hanswered⟩ :=
        freed.exists_run_start service.queueDepth
      have hsession : (service.step (.up (schedule.tasks.map Arrival.job)) .release).2 =
          .up (schedule.tasks.map Arrival.job).finishRunning.startNext := by
        simp [step, release, Tasks.map, hrunning]
      have hevent : (service.step (.up (schedule.tasks.map Arrival.job)) .release).1.answer? =
          some (arrival.job.peer, service.answer arrival.job.line) := by
        simp [step, release, Tasks.map, hrunning, Event.answer?]
      refine ⟨[.finish (service.runner arrival.job.line), .respond true] ++ moves, next, ?_,
        ⟨?_, ?_, ?_⟩, ?_, ?_, ?_⟩
      · rw [Schedule.run_append, hfinish]
        exact hrun
      · rw [hreport, hfreedReport]
      · rw [htasks, Tasks.backlog_startNext, hfreed]
        exact hquiet.backlog
      · rw [htasks, Tasks.refusing_startNext, hfreed]
        exact hquiet.refusing
      · rw [List.filterMap_append, hjobs]
        rfl
      · rw [hsession, htasks, ← Tasks.startNext_map, hfreed]
        rfl
      · rw [hevent, hanswered, hfreedAnswered, List.map_append]
        rfl

/-! ## Whole sessions -/

/-- Every session that is still up is one of the schedules: some row of moves brings the same
commands, leaves the tasks with the same ones, and has answered the same peers with the same
datagrams. -/
theorem exists_schedule (service : Service) {actions : List Action} {tasks : Tasks Job}
    (hup : service.after .fresh actions = .up tasks) :
    ∃ moves schedule, ({} : Schedule).run service.queueDepth moves = some schedule ∧
      schedule.Quiet ∧ schedule.tasks.map Arrival.job = tasks ∧
      (Move.arrivals moves).map Arrival.job = actions.filterMap Action.job? ∧
      service.answered actions = schedule.answered.map service.seen := by
  induction actions using List.reverseRecOn generalizing tasks with
  | nil =>
      cases hup
      exact ⟨[], {}, rfl, ⟨rfl, rfl, rfl⟩, rfl, rfl, rfl⟩
  | append_singleton actions action ih =>
      rw [after_append_singleton] at hup
      cases hbefore : service.after .fresh actions with
      | down =>
          rw [hbefore] at hup
          cases hup
      | up held =>
          obtain ⟨moves, schedule, hrun, hquiet, rfl, hjobs, hanswered⟩ := ih hbefore
          rw [hbefore] at hup
          have hfollows : ∃ more next, Follows service schedule action more next := by
            cases action with
            | release => exact exists_follows_release hquiet
            | send datagram peer =>
                cases hrequest : Request.receive datagram with
                | execute line => exact exists_follows_send hquiet hrequest
                | shutdown =>
                    simp [step, hrequest] at hup
          obtain ⟨more, next, hfollows⟩ := hfollows
          refine ⟨moves ++ more, next, ?_, hfollows.quiet, ?_, ?_, ?_⟩
          · rw [Schedule.run_append, hrun]
            exact hfollows.run_eq
          · rw [hfollows.session_eq, Session.up.injEq] at hup
            exact hup
          · rw [Move.map_job_arrivals] at hjobs ⊢
            rw [List.filterMap_append, List.filterMap_append, hjobs, hfollows.jobs_eq]
            cases hjob : action.job? <;> simp [hjob]
          · rw [answered_append_singleton, hbefore, hanswered, hfollows.answered_eq]

end Service

end DatagramShell
