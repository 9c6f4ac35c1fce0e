import DatagramShell.Proofs.Service.Accounting
import Mathlib.Tactic

/-!
# The tasks work off what they hold

When no more datagrams come, every move of the worker or of the sender of refusals brings one
request nearer to its end: a command that waits has to be taken up, run and answered, a refusal that
waits has to be taken up and sent.  The number of these moves goes down by one with each of them,
whatever their order, and as long as it is not zero one of the tasks can move.  So every order ends,
and with the same commands answered and the same ones refused.
-/

namespace DatagramShell

/-- A move of the worker or of the sender of refusals that goes as it should: the command comes to
what the runner makes of it, and the whole response goes out. -/
def Move.Works (service : Service) (schedule : Schedule) : Move → Prop
  | .receive _ _ => False
  | .start | .startRefusal => True
  | .finish result =>
    ∀ arrival ∈ schedule.tasks.running, result = service.runner arrival.job.line
  | .respond isWhole | .refuse isWhole => isWhole = true

namespace Schedule

variable {service : Service} {depth : ℕ} {schedule next last : Schedule}

inductive WorksTo (service : Service) : Schedule → Schedule → Prop
  | refl (schedule : Schedule) : WorksTo service schedule schedule
  | step {schedule next last : Schedule} {move : Move} (hworks : move.Works service schedule)
      (hmove : schedule.move service.queueDepth move = some next)
      (hlater : WorksTo service next last) : WorksTo service schedule last

structure Idle (schedule : Schedule) : Prop where
  waiting : schedule.tasks.waiting = []
  running : schedule.tasks.running = none
  backlog : schedule.tasks.backlog = []
  refusing : schedule.tasks.refusing = none

/-- Nothing has gone wrong so far. -/
structure Undisturbed (service : Service) (schedule : Schedule) : Prop where
  report : ∀ report ∈ schedule.report, ∃ arrival ∈ schedule.tasks.running,
    report = service.runner.answer arrival.job.line
  answered : ∀ closing ∈ schedule.answered,
    closing = ⟨closing.arrival, service.runner.answer closing.arrival.job.line, true⟩
  refused : ∀ closing ∈ schedule.refused, closing = ⟨closing.arrival, Report.busy, true⟩

theorem WorksTo.exists_run (hworks : WorksTo service schedule last) :
    ∃ moves, schedule.run service.queueDepth moves = some last := by
  induction hworks with
  | refl schedule => exact ⟨[], rfl⟩
  | @step schedule next last move _ hmove _ ih =>
      obtain ⟨moves, hrun⟩ := ih
      refine ⟨move :: moves, ?_⟩
      rw [run, hmove]
      exact hrun

theorem WorksTo.receipts_eq (hworks : WorksTo service schedule last) :
    last.receipts = schedule.receipts := by
  induction hworks with
  | refl schedule => rfl
  | step hworks hmove _ ih =>
      rw [ih]
      cases step_of_move hmove with
      | receive => exact absurd hworks id
      | _ => rfl

/-! ## Nothing goes wrong -/

namespace Undisturbed

theorem fresh (service : Service) : Undisturbed service {} := by
  constructor <;> simp

theorem answer_of_finish (hundisturbed : Undisturbed service schedule) {arrival : Arrival}
    {report : Report} (hrunning : schedule.tasks.running = some arrival)
    (hreport : schedule.report = some report) :
    report = service.runner.answer arrival.job.line := by
  obtain ⟨other, hother, heq⟩ := hundisturbed.report report hreport
  rw [hrunning] at hother
  cases hother
  exact heq

theorem report_of_idle (hundisturbed : Undisturbed service schedule)
    (hidle : schedule.tasks.running = none) : schedule.report = none := by
  cases hreport : schedule.report with
  | none => rfl
  | some report =>
      obtain ⟨arrival, hrunning, _⟩ := hundisturbed.report report hreport
      rw [hidle] at hrunning
      cases hrunning

theorem receive (hundisturbed : Undisturbed service schedule) (depth : ℕ) (job : Job) :
    Undisturbed service (schedule.receive depth job) := by
  refine ⟨?_, hundisturbed.answered, hundisturbed.refused⟩
  intro report hreport
  obtain ⟨arrival, hrunning, heq⟩ := hundisturbed.report report hreport
  refine ⟨arrival, ?_, heq⟩
  cases hadmission : schedule.tasks.admission depth <;>
    simpa [Schedule.receive, Tasks.accept, hadmission] using hrunning

theorem step (hundisturbed : Undisturbed service schedule) {move : Move}
    (hworks : move.Works service schedule) (hstep : Step depth schedule move next) :
    Undisturbed service next := by
  cases hstep with
  | receive => exact absurd hworks id
  | start hidle hwaiting =>
      refine ⟨?_, hundisturbed.answered, hundisturbed.refused⟩
      intro report hreport
      rw [hundisturbed.report_of_idle hidle] at hreport
      cases hreport
  | @finish arrival result hrunning hreport =>
      refine ⟨?_, hundisturbed.answered, hundisturbed.refused⟩
      intro report hmem
      cases hmem
      refine ⟨arrival, hrunning, ?_⟩
      rw [hworks arrival hrunning]
      rfl
  | @respond arrival report isWhole hrunning hreport =>
      refine ⟨?_, ?_, hundisturbed.refused⟩
      · intro other hother
        cases hother
      · intro closing hclosing
        rcases List.mem_append.mp hclosing with hearlier | hlast
        · exact hundisturbed.answered closing hearlier
        · cases List.mem_singleton.mp hlast
          rw [← hundisturbed.answer_of_finish hrunning hreport, hworks]
  | startRefusal => exact ⟨hundisturbed.report, hundisturbed.answered, hundisturbed.refused⟩
  | @refuse arrival isWhole hrefusing =>
      refine ⟨hundisturbed.report, hundisturbed.answered, ?_⟩
      intro closing hclosing
      rcases List.mem_append.mp hclosing with hearlier | hlast
      · exact hundisturbed.refused closing hearlier
      · cases List.mem_singleton.mp hlast
        rw [hworks]

theorem worksTo (hundisturbed : Undisturbed service schedule)
    (hworks : WorksTo service schedule last) : Undisturbed service last := by
  induction hworks with
  | refl schedule => exact hundisturbed
  | step hworks hmove _ ih => exact ih (hundisturbed.step hworks (step_of_move hmove))

theorem closings_eq (hundisturbed : Undisturbed service schedule) :
    schedule.answered = (schedule.holding .answered).map (fun arrival =>
        ⟨arrival, service.runner.answer arrival.job.line, true⟩) ∧
      schedule.refused = (schedule.holding .refused).map (fun arrival =>
        ⟨arrival, Report.busy, true⟩) := by
  constructor
  · rw [holding, List.map_map]
    conv_lhs => rw [← List.map_id schedule.answered]
    exact List.map_congr_left hundisturbed.answered
  · rw [holding, List.map_map]
    conv_lhs => rw [← List.map_id schedule.refused]
    exact List.map_congr_left hundisturbed.refused

end Undisturbed

/-! ## The work that is left -/

/-- How many moves the worker has before it with the command that it holds. -/
def workRunning (schedule : Schedule) : ℕ :=
  match schedule.tasks.running, schedule.report with
  | none, _ => 0
  | some _, none => 2
  | some _, some _ => 1

/-- How many moves the worker and the sender of refusals have before them. -/
def work (schedule : Schedule) : ℕ :=
  3 * schedule.tasks.waiting.length + schedule.workRunning +
    (2 * schedule.tasks.backlog.length + schedule.tasks.refusing.toList.length)

theorem idle_of_work_eq_zero (hwork : schedule.work = 0) : schedule.Idle := by
  unfold work at hwork
  have hwaiting : schedule.tasks.waiting.length = 0 := by omega
  have hrunning : schedule.workRunning = 0 := by omega
  have hbacklog : schedule.tasks.backlog.length = 0 := by omega
  have hrefusing : schedule.tasks.refusing.toList.length = 0 := by omega
  refine ⟨List.eq_nil_of_length_eq_zero hwaiting, ?_, List.eq_nil_of_length_eq_zero hbacklog, ?_⟩
  · unfold workRunning at hrunning
    split at hrunning
    · assumption
    · cases hrunning
    · cases hrunning
  · cases hsome : schedule.tasks.refusing with
    | none => rfl
    | some arrival => simp [hsome] at hrefusing

theorem work_step (hundisturbed : Undisturbed service schedule) {move : Move}
    (hworks : move.Works service schedule) (hstep : Step depth schedule move next) :
    next.work + 1 = schedule.work := by
  cases hstep with
  | receive => exact absurd hworks id
  | start hidle hwaiting =>
      simp only [work, workRunning, hidle, hwaiting, hundisturbed.report_of_idle hidle,
        List.length_cons]
      omega
  | finish result hrunning hreport =>
      simp only [work, workRunning, hrunning, hreport]
      omega
  | respond isWhole hrunning hreport =>
      simp only [work, workRunning, hrunning, hreport]
      omega
  | startRefusal hidle hbacklog =>
      simp only [work, workRunning, hidle, hbacklog, List.length_cons, Option.toList_some,
        Option.toList_none, List.length_nil]
      omega
  | refuse isWhole hrefusing =>
      simp only [work, workRunning, hrefusing, Option.toList_some, Option.toList_none,
        List.length_cons, List.length_nil]
      omega

/-- As long as work is left, one of the tasks can move. -/
theorem exists_works (service : Service) (depth : ℕ) (hwork : schedule.work ≠ 0) :
    ∃ move next, move.Works service schedule ∧ schedule.move depth move = some next := by
  cases hrunning : schedule.tasks.running with
  | some arrival =>
      cases hreport : schedule.report with
      | none =>
          refine ⟨.finish (service.runner arrival.job.line), ?_⟩
          simp [Move.Works, Schedule.move, finish, hrunning, hreport]
      | some report =>
          refine ⟨.respond true, ?_⟩
          simp [Move.Works, Schedule.move, respond, hrunning, hreport]
  | none =>
      cases hwaiting : schedule.tasks.waiting with
      | cons arrival waiting =>
          refine ⟨.start, ?_⟩
          simp [Move.Works, Schedule.move, start, hrunning, hwaiting]
      | nil =>
          cases hrefusing : schedule.tasks.refusing with
          | some arrival =>
              refine ⟨.refuse true, ?_⟩
              simp [Move.Works, Schedule.move, refuse, hrefusing]
          | none =>
              cases hbacklog : schedule.tasks.backlog with
              | cons arrival backlog =>
                  refine ⟨.startRefusal, ?_⟩
                  simp [Move.Works, Schedule.move, startRefusal, hrefusing, hbacklog]
              | nil => simp [work, workRunning, hrunning, hwaiting, hrefusing, hbacklog] at hwork

theorem exists_worksTo_idle (hundisturbed : Undisturbed service schedule) :
    ∃ last, WorksTo service schedule last ∧ last.Idle := by
  -- The work that is left is the measure; that nothing goes wrong is kept along the way.
  induction hwork : schedule.work generalizing schedule with
  | zero => exact ⟨schedule, .refl schedule, idle_of_work_eq_zero hwork⟩
  | succ work ih =>
      have hleft : schedule.work ≠ 0 := by omega
      obtain ⟨move, next, hworks, hmove⟩ := exists_works service service.queueDepth hleft
      have hstep : Step service.queueDepth schedule move next := step_of_move hmove
      have hless := work_step hundisturbed hworks hstep
      obtain ⟨last, hlater, hidle⟩ := ih (hundisturbed.step hworks hstep) (by omega)
      exact ⟨last, .step hworks hmove hlater, hidle⟩

/-! ## Everything has come to its end -/

/-- When nothing is left to do, every command that was queued has been answered and every one that
was refused has got its refusal, each in the order in which they came. -/
theorem WorksTo.closed {moves : List Move} (hrun : ({} : Schedule).run service.queueDepth moves =
    some schedule) (hworks : WorksTo service schedule last) (hidle : last.Idle) :
    last.holding .answered = schedule.admitted .queued ∧
      last.started = schedule.admitted .queued ∧
      last.holding .refused = schedule.admitted .refused := by
  obtain ⟨later, hlater⟩ := hworks.exists_run
  have hwhole : ({} : Schedule).run service.queueDepth (moves ++ later) = some last := by
    rw [run_append, hrun]
    exact hlater
  have haccounts := Accounts.of_run hwhole
  have hadmitted : ∀ admission, last.admitted admission = schedule.admitted admission := by
    intro admission
    rw [admitted, admitted, hworks.receipts_eq]
  have hcommands : last.holding .answered = last.admitted .queued := by
    rw [← haccounts.commands_eq]
    simp [commands, holding, hidle.running, hidle.waiting]
  have hrefusals : last.holding .refused = last.admitted .refused := by
    rw [← haccounts.refusals_eq]
    simp [refusals, holding, hidle.refusing, hidle.backlog]
  refine ⟨hcommands.trans (hadmitted _), ?_, hrefusals.trans (hadmitted _)⟩
  rw [haccounts.started_eq, hcommands, hadmitted]
  simp [holding, hidle.running]

end Schedule

end DatagramShell
