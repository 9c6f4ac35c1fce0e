import DatagramShell.Service.Schedule
import Mathlib.Tactic

/-!
# Every request is accounted for

The tasks of the service move in any order, and commands and responses fail as they like.  What the
receiving task finds when a command comes decides for good whether the command goes to the row of
commands, to the row of refusals or nowhere.  Either row keeps the order of arrival: moves of the
worker and of the sender of refusals only shift the border between what is closed, what is held and
what waits.  So each request is in exactly one place, and what becomes of one request, failure
included, changes the place of no other.
-/

namespace DatagramShell

/-- The command that a move brings, if it brings one. -/
def Move.job? : Move → Option Job
  | .receive datagram peer =>
    match Request.receive datagram with
    | .shutdown => none
    | .execute line => some ⟨line, peer⟩
  | _ => none

/-- The commands that a row of moves brings, numbered in the order in which they come. -/
def Move.arrivals (moves : List Move) : List Arrival :=
  (moves.filterMap Move.job?).zipIdx.map fun (job, number) => ⟨number, job⟩

namespace Move

/-- The same move, had nothing failed. -/
def withoutFailure : Move → Move
  | .finish _ => .finish (.ok (Report.completed 0 [] []))
  | .respond _ => .respond true
  | .refuse _ => .refuse true
  | move => move

theorem numbers_arrivals (moves : List Move) :
    (arrivals moves).map (·.number) = List.range (arrivals moves).length := by
  simp [arrivals, List.range_eq_range', Function.comp_def, ← List.zipIdx_map_snd]

theorem nodup_arrivals (moves : List Move) : (arrivals moves).Nodup := by
  apply List.Nodup.of_map (·.number)
  rw [numbers_arrivals]
  exact List.nodup_range

theorem arrivals_append_singleton (moves : List Move) (move : Move) :
    arrivals (moves ++ [move]) =
      arrivals moves ++ (move.job?.map (Arrival.mk (arrivals moves).length)).toList := by
  cases hjob : move.job? with
  | none => simp [arrivals, hjob]
  | some job => simp [arrivals, hjob, List.zipIdx_append]

end Move

namespace Tasks

variable {Item : Type} {depth : ℕ} {tasks : Tasks Item}

theorem admission_eq_queued_iff :
    tasks.admission depth = .queued ↔ tasks.waiting.length < depth := by
  unfold admission
  split
  · next hroom => simp [hroom]
  · next hfull => split <;> simp [hfull]

theorem admission_eq_refused_iff :
    tasks.admission depth = .refused ↔
      depth ≤ tasks.waiting.length ∧ tasks.backlog.length < backlogCapacity := by
  unfold admission
  split
  · next hroom => simp [hroom]
  · next hfull =>
      rw [and_iff_right (Nat.not_lt.mp hfull)]
      split <;> simp [*]

theorem admission_eq_dropped_iff :
    tasks.admission depth = .dropped ↔
      depth ≤ tasks.waiting.length ∧ backlogCapacity ≤ tasks.backlog.length := by
  unfold admission
  split
  · next hroom => simp [hroom]
  · next hfull =>
      rw [and_iff_right (Nat.not_lt.mp hfull)]
      split
      · next hroom => simp [hroom]
      · next hlate => simp [Nat.not_lt.mp hlate]

end Tasks

namespace Schedule

/-! ## One move -/

/-- What each kind of move finds and leaves behind. -/
inductive Step (depth : ℕ) (schedule : Schedule) : Move → Schedule → Prop
  | receive {datagram line : Bytes} {peer : Peer}
      (hline : Request.receive datagram = .execute line) :
      Step depth schedule (.receive datagram peer) (schedule.receive depth ⟨line, peer⟩)
  | start {arrival : Arrival} {waiting : List Arrival} (hidle : schedule.tasks.running = none)
      (hwaiting : schedule.tasks.waiting = arrival :: waiting) :
      Step depth schedule .start
        { schedule with
          tasks := { schedule.tasks with running := some arrival, waiting }
          started := schedule.started ++ [arrival] }
  | finish {arrival : Arrival} (result : Except CommandError Report)
      (hrunning : schedule.tasks.running = some arrival) (hreport : schedule.report = none) :
      Step depth schedule (.finish result)
        { schedule with report := some (.ofResult result) }
  | respond {arrival : Arrival} {report : Report} (isWhole : Bool)
      (hrunning : schedule.tasks.running = some arrival)
      (hreport : schedule.report = some report) :
      Step depth schedule (.respond isWhole)
        { schedule with
          tasks := { schedule.tasks with running := none }
          report := none
          answered := schedule.answered ++ [⟨arrival, report, isWhole⟩] }
  | startRefusal {arrival : Arrival} {backlog : List Arrival}
      (hidle : schedule.tasks.refusing = none)
      (hbacklog : schedule.tasks.backlog = arrival :: backlog) :
      Step depth schedule .startRefusal
        { schedule with tasks := { schedule.tasks with refusing := some arrival, backlog } }
  | refuse {arrival : Arrival} (isWhole : Bool)
      (hrefusing : schedule.tasks.refusing = some arrival) :
      Step depth schedule (.refuse isWhole)
        { schedule with
          tasks := { schedule.tasks with refusing := none }
          refused := schedule.refused ++ [⟨arrival, Report.busy, isWhole⟩] }

theorem step_of_move {depth : ℕ} {schedule next : Schedule} {move : Move}
    (hmove : schedule.move depth move = some next) : Step depth schedule move next := by
  cases move with
  | receive datagram peer =>
      cases hrequest : Request.receive datagram with
      | shutdown => simp [Schedule.move, hrequest] at hmove
      | execute line =>
          simp only [Schedule.move, hrequest, Option.some.injEq] at hmove
          subst next
          exact .receive hrequest
  | start =>
      cases hrunning : schedule.tasks.running with
      | some arrival => simp [Schedule.move, start, hrunning] at hmove
      | none =>
          cases hwaiting : schedule.tasks.waiting with
          | nil => simp [Schedule.move, start, hrunning, hwaiting] at hmove
          | cons arrival waiting =>
              simp only [Schedule.move, start, hrunning, hwaiting, Tasks.startNext,
                Option.some.injEq] at hmove
              subst next
              exact .start hrunning hwaiting
  | finish result =>
      cases hrunning : schedule.tasks.running with
      | none => simp [Schedule.move, finish, hrunning] at hmove
      | some arrival =>
          cases hreport : schedule.report with
          | some report => simp [Schedule.move, finish, hrunning, hreport] at hmove
          | none =>
              simp only [Schedule.move, finish, hrunning, hreport, Option.some.injEq] at hmove
              subst next
              exact .finish result hrunning hreport
  | respond isWhole =>
      cases hrunning : schedule.tasks.running with
      | none => simp [Schedule.move, respond, hrunning] at hmove
      | some arrival =>
          cases hreport : schedule.report with
          | none => simp [Schedule.move, respond, hrunning, hreport] at hmove
          | some report =>
              simp only [Schedule.move, respond, hrunning, hreport, Tasks.finishRunning,
                Option.some.injEq] at hmove
              subst next
              exact .respond isWhole hrunning hreport
  | startRefusal =>
      cases hrefusing : schedule.tasks.refusing with
      | some arrival => simp [Schedule.move, startRefusal, hrefusing] at hmove
      | none =>
          cases hbacklog : schedule.tasks.backlog with
          | nil => simp [Schedule.move, startRefusal, hrefusing, hbacklog] at hmove
          | cons arrival backlog =>
              simp only [Schedule.move, startRefusal, hrefusing, hbacklog, Tasks.startRefusal,
                Option.some.injEq] at hmove
              subst next
              exact .startRefusal hrefusing hbacklog
  | refuse isWhole =>
      cases hrefusing : schedule.tasks.refusing with
      | none => simp [Schedule.move, refuse, hrefusing] at hmove
      | some arrival =>
          simp only [Schedule.move, refuse, hrefusing, Tasks.finishRefusal,
            Option.some.injEq] at hmove
          subst next
          exact .refuse isWhole hrefusing

theorem run_append (depth : ℕ) (schedule : Schedule) (front behind : List Move) :
    schedule.run depth (front ++ behind) =
      (schedule.run depth front).bind fun next => next.run depth behind := by
  induction front generalizing schedule with
  | nil => rfl
  | cons move front ih =>
      cases hmove : schedule.move depth move with
      | none => simp [run, hmove]
      | some next => simp [run, hmove, ih]

/-- The last move of a run is one made in the schedule that the moves before it lead to. -/
theorem run_append_singleton {depth : ℕ} {schedule last : Schedule} {moves : List Move}
    {move : Move} (hrun : schedule.run depth (moves ++ [move]) = some last) :
    ∃ next, schedule.run depth moves = some next ∧ Step depth next move last := by
  rw [run_append, Option.bind_eq_some_iff] at hrun
  rcases hrun with ⟨next, hnext, hlast⟩
  rw [run, Option.bind_eq_some_iff] at hlast
  rcases hlast with ⟨other, hmove, hother⟩
  cases hother
  exact ⟨next, hnext, step_of_move hmove⟩

/-! ## Two rows -/

section Receive

variable (depth : ℕ) (schedule : Schedule) (job : Job)

theorem admitted_receive (admission : Admission) :
    (schedule.receive depth job).admitted admission =
      schedule.admitted admission ++
        if schedule.tasks.admission depth = admission then [⟨schedule.receipts.length, job⟩]
        else [] := by
  by_cases hadmission : schedule.tasks.admission depth = admission <;>
    simp [receive, admitted, hadmission]

theorem commands_receive :
    (schedule.receive depth job).commands =
      schedule.commands ++
        if schedule.tasks.admission depth = .queued then [⟨schedule.receipts.length, job⟩]
        else [] := by
  cases hadmission : schedule.tasks.admission depth <;>
    simp [receive, Tasks.accept, hadmission, commands, holding]

theorem refusals_receive :
    (schedule.receive depth job).refusals =
      schedule.refusals ++
        if schedule.tasks.admission depth = .refused then [⟨schedule.receipts.length, job⟩]
        else [] := by
  cases hadmission : schedule.tasks.admission depth <;>
    simp [receive, Tasks.accept, hadmission, refusals, holding]

end Receive

/-- The two rows hold what was queued and what was refused, each in the order of arrival. -/
structure Accounts (depth : ℕ) (moves : List Move) (schedule : Schedule) : Prop where
  received : schedule.receipts.map (·.arrival) = Move.arrivals moves
  commands_eq : schedule.commands = schedule.admitted .queued
  refusals_eq : schedule.refusals = schedule.admitted .refused
  started_eq : schedule.started = schedule.holding .answered ++ schedule.holding .running
  waiting_le : schedule.tasks.waiting.length ≤ depth
  backlog_le : schedule.tasks.backlog.length ≤ Tasks.backlogCapacity
  busy : ∀ closing ∈ schedule.refused, closing.report = Report.busy

namespace Accounts

variable {depth : ℕ} {moves : List Move} {schedule next : Schedule}

theorem fresh (depth : ℕ) : Accounts depth [] {} := by
  constructor <;> simp [Move.arrivals, commands, refusals, admitted, holding]

theorem length_receipts (haccounts : Accounts depth moves schedule) :
    schedule.receipts.length = (Move.arrivals moves).length := by
  rw [← haccounts.received, List.length_map]

/-- A command goes to the end of the row that its admission names. -/
theorem receive (haccounts : Accounts depth moves schedule) {datagram line : Bytes}
    (hline : Request.receive datagram = .execute line) (peer : Peer) :
    Accounts depth (moves ++ [.receive datagram peer]) (schedule.receive depth ⟨line, peer⟩) := by
  have hjob : (Move.receive datagram peer).job? = some ⟨line, peer⟩ := by
    simp [Move.job?, hline]
  constructor
  · rw [Move.arrivals_append_singleton, hjob, ← haccounts.received]
    simp [Schedule.receive]
  · rw [commands_receive, admitted_receive, haccounts.commands_eq]
  · rw [refusals_receive, admitted_receive, haccounts.refusals_eq]
  · have hstarted := haccounts.started_eq
    cases hadmission : schedule.tasks.admission depth <;>
      simpa [Schedule.receive, Tasks.accept, hadmission, holding] using hstarted
  · have hwaiting := haccounts.waiting_le
    cases hadmission : schedule.tasks.admission depth with
    | queued =>
        have hroom := Tasks.admission_eq_queued_iff.mp hadmission
        simpa [Schedule.receive, Tasks.accept, hadmission] using hroom
    | refused => simpa [Schedule.receive, Tasks.accept, hadmission] using hwaiting
    | dropped => simpa [Schedule.receive, Tasks.accept, hadmission] using hwaiting
  · have hbacklog := haccounts.backlog_le
    cases hadmission : schedule.tasks.admission depth with
    | queued => simpa [Schedule.receive, Tasks.accept, hadmission] using hbacklog
    | refused =>
        have hroom := (Tasks.admission_eq_refused_iff.mp hadmission).2
        simpa [Schedule.receive, Tasks.accept, hadmission] using hroom
    | dropped => simpa [Schedule.receive, Tasks.accept, hadmission] using hbacklog
  · exact haccounts.busy

/-- A move of the worker or of the sender of refusals shifts the border inside one row only. -/
theorem of_rows (haccounts : Accounts depth moves schedule) {move : Move}
    (hjob : move.job? = none) (hreceipts : next.receipts = schedule.receipts)
    (hcommands : next.commands = schedule.commands)
    (hrefusals : next.refusals = schedule.refusals)
    (hstarted : next.started = next.holding .answered ++ next.holding .running)
    (hwaiting : next.tasks.waiting.length ≤ schedule.tasks.waiting.length)
    (hbacklog : next.tasks.backlog.length ≤ schedule.tasks.backlog.length)
    (hbusy : ∀ closing ∈ next.refused, closing.report = Report.busy) :
    Accounts depth (moves ++ [move]) next := by
  have hadmitted : next.admitted = schedule.admitted := by
    funext admission
    rw [admitted, admitted, hreceipts]
  constructor
  · rw [Move.arrivals_append_singleton, hjob, hreceipts, haccounts.received]
    simp
  · rw [hcommands, hadmitted, haccounts.commands_eq]
  · rw [hrefusals, hadmitted, haccounts.refusals_eq]
  · exact hstarted
  · exact hwaiting.trans haccounts.waiting_le
  · exact hbacklog.trans haccounts.backlog_le
  · exact hbusy

theorem step (haccounts : Accounts depth moves schedule) {move : Move}
    (hstep : Step depth schedule move next) : Accounts depth (moves ++ [move]) next := by
  have hstarted := haccounts.started_eq
  cases hstep with
  | receive hline => exact haccounts.receive hline _
  | start hidle hwaiting =>
      refine haccounts.of_rows rfl rfl ?_ rfl ?_ ?_ le_rfl haccounts.busy
      · simp [commands, holding, hidle, hwaiting]
      · simp [holding, hidle, hstarted]
      · simp [hwaiting]
  | finish result hrunning hreport =>
      exact haccounts.of_rows rfl rfl rfl rfl hstarted le_rfl le_rfl haccounts.busy
  | respond isWhole hrunning hreport =>
      refine haccounts.of_rows rfl rfl ?_ rfl ?_ le_rfl le_rfl haccounts.busy
      · simp [commands, holding, hrunning]
      · simp [holding, hrunning, hstarted]
  | startRefusal hidle hbacklog =>
      refine haccounts.of_rows rfl rfl rfl ?_ hstarted le_rfl ?_ haccounts.busy
      · simp [refusals, holding, hidle, hbacklog]
      · simp [hbacklog]
  | refuse isWhole hrefusing =>
      refine haccounts.of_rows rfl rfl rfl ?_ hstarted le_rfl le_rfl ?_
      · simp [refusals, holding, hrefusing]
      · intro closing hclosing
        rcases List.mem_append.mp hclosing with hearlier | hlast
        · exact haccounts.busy closing hearlier
        · rw [List.mem_singleton.mp hlast]

theorem of_run {moves : List Move} {schedule : Schedule}
    (hrun : ({} : Schedule).run depth moves = some schedule) :
    Accounts depth moves schedule := by
  induction moves using List.reverseRecOn generalizing schedule with
  | nil =>
      cases hrun
      exact fresh depth
  | append_singleton moves move ih =>
      obtain ⟨next, hnext, hstep⟩ := run_append_singleton hrun
      exact (ih hnext).step hstep

end Accounts

/-! ## Exactly one place -/

theorem perm_admissions (receipts : List Receipt) :
    (receipts.filter (·.admission = .queued) ++ (receipts.filter (·.admission = .refused) ++
      receipts.filter (·.admission = .dropped))).Perm receipts := by
  induction receipts with
  | nil => exact .nil
  | cons receipt receipts ih =>
      cases hadmission : receipt.admission with
      | queued => simpa [hadmission] using ih
      | refused =>
          simp only [hadmission, List.filter_cons, reduceCtorEq, decide_false, decide_true,
            if_false, if_true, Bool.false_eq_true, List.cons_append]
          exact List.perm_middle.trans (ih.cons receipt)
      | dropped =>
          simp only [hadmission, List.filter_cons, reduceCtorEq, decide_false, decide_true,
            if_false, if_true, Bool.false_eq_true]
          rw [← List.append_assoc] at ih ⊢
          exact List.perm_middle.trans (ih.cons receipt)

namespace Accounts

variable {depth : ℕ} {moves : List Move} {schedule : Schedule}

theorem perm_places (haccounts : Accounts depth moves schedule) :
    (Place.all.flatMap schedule.holding).Perm (Move.arrivals moves) := by
  have hplaces : Place.all.flatMap schedule.holding =
      schedule.commands ++ (schedule.refusals ++ schedule.admitted .dropped) := by
    simp [Place.all, commands, refusals, holding]
  rw [hplaces, haccounts.commands_eq, haccounts.refusals_eq, ← haccounts.received]
  simp only [admitted, ← List.map_append]
  exact (perm_admissions schedule.receipts).map _

theorem nodup_places (haccounts : Accounts depth moves schedule) :
    (Place.all.flatMap schedule.holding).Nodup :=
  haccounts.perm_places.nodup_iff.mpr (Move.nodup_arrivals moves)

theorem nodup_holding (haccounts : Accounts depth moves schedule) (place : Place) :
    (schedule.holding place).Nodup := by
  have hall : place ∈ Place.all := by cases place <;> decide
  exact (List.nodup_flatMap.mp haccounts.nodup_places).1 place hall

theorem mem_arrivals_iff (haccounts : Accounts depth moves schedule) (arrival : Arrival) :
    arrival ∈ Move.arrivals moves ↔ ∃ place, arrival ∈ schedule.holding place := by
  rw [← haccounts.perm_places.mem_iff, List.mem_flatMap]
  constructor
  · intro hexists
    rcases hexists with ⟨place, _, hmem⟩
    exact ⟨place, hmem⟩
  · intro hexists
    rcases hexists with ⟨place, hmem⟩
    exact ⟨place, by cases place <;> decide, hmem⟩

theorem place_unique (haccounts : Accounts depth moves schedule) {arrival : Arrival}
    {place other : Place} (hplace : arrival ∈ schedule.holding place)
    (hother : arrival ∈ schedule.holding other) : place = other := by
  by_contra hne
  have hsymm : Std.Symm (Function.onFun List.Disjoint schedule.holding) :=
    ⟨fun _ _ hdisjoint => hdisjoint.symm⟩
  have hdisjoint : ∀ place ∈ Place.all, ∀ other ∈ Place.all, place ≠ other →
      (schedule.holding place).Disjoint (schedule.holding other) := by
    intro place hplace other hother hne
    exact (List.nodup_flatMap.mp haccounts.nodup_places).2.forall hplace hother hne
  have hall : ∀ place : Place, place ∈ Place.all := by
    intro place
    cases place <;> decide
  exact hdisjoint place (hall place) other (hall other) hne hplace hother

theorem sublist_admitted (haccounts : Accounts depth moves schedule) (admission : Admission) :
    (schedule.admitted admission).Sublist (Move.arrivals moves) := by
  rw [← haccounts.received]
  exact List.filter_sublist.map _

/-- What was done with a command when it came is the only thing recorded of it. -/
theorem mem_admitted_iff (haccounts : Accounts depth moves schedule) {receipt : Receipt}
    (hreceipt : receipt ∈ schedule.receipts) (admission : Admission) :
    receipt.arrival ∈ schedule.admitted admission ↔ receipt.admission = admission := by
  have hnodup : (schedule.receipts.map (·.arrival)).Nodup := by
    rw [haccounts.received]
    exact Move.nodup_arrivals moves
  constructor
  · intro hmem
    rcases List.mem_map.mp hmem with ⟨other, hother, harrival⟩
    rw [List.mem_filter, decide_eq_true_eq] at hother
    have hsame : other = receipt := List.inj_on_of_nodup_map hnodup hother.1 hreceipt harrival
    rw [← hsame]
    exact hother.2
  · intro hadmission
    exact List.mem_map.mpr ⟨receipt, List.mem_filter.mpr ⟨hreceipt, by simpa⟩, rfl⟩

end Accounts

/-! ## What is found when a command comes -/

theorem receipts_prefix_of_run {depth : ℕ} {schedule last : Schedule} {moves : List Move}
    (hrun : schedule.run depth moves = some last) : schedule.receipts <+: last.receipts := by
  induction moves generalizing schedule with
  | nil =>
      cases hrun
      exact List.prefix_refl _
  | cons move moves ih =>
      rw [run, Option.bind_eq_some_iff] at hrun
      rcases hrun with ⟨next, hmove, hrest⟩
      have hstep : schedule.receipts <+: next.receipts := by
        cases step_of_move hmove with
        | receive hline => exact List.prefix_append _ _
        | _ => exact List.prefix_refl _
      exact hstep.trans (ih hrest)

/-- A command that came is recorded for good with what the receiving task found. -/
theorem mem_receipts_of_run {depth : ℕ} {schedule : Schedule} {front behind : List Move}
    {datagram : Bytes} {peer : Peer}
    (hrun : ({} : Schedule).run depth (front ++ .receive datagram peer :: behind) =
      some schedule) :
    ∃ before line, ({} : Schedule).run depth front = some before ∧
      Request.receive datagram = .execute line ∧
      ⟨⟨(Move.arrivals front).length, ⟨line, peer⟩⟩, before.tasks.admission depth⟩ ∈
        schedule.receipts := by
  rw [run_append, Option.bind_eq_some_iff] at hrun
  rcases hrun with ⟨before, hbefore, hrest⟩
  rw [run, Option.bind_eq_some_iff] at hrest
  rcases hrest with ⟨next, hmove, hlast⟩
  cases step_of_move hmove with
  | receive hline =>
      refine ⟨before, _, hbefore, hline, (receipts_prefix_of_run hlast).subset ?_⟩
      rw [← (Accounts.of_run hbefore).length_receipts]
      exact List.mem_append_right _ (List.mem_singleton_self _)

/-! ## Had nothing failed -/

/-- The same schedule, had no command and no response failed; what the reports say is left out. -/
def withoutFailures (schedule : Schedule) : Schedule :=
  { schedule with
    report := schedule.report.map fun _ => Report.completed 0 [] []
    answered := schedule.answered.map fun closing =>
      ⟨closing.arrival, Report.completed 0 [] [], true⟩
    refused := schedule.refused.map fun closing => ⟨closing.arrival, closing.report, true⟩ }

theorem holding_withoutFailures (schedule : Schedule) (place : Place) :
    schedule.withoutFailures.holding place = schedule.holding place := by
  cases place <;> simp [withoutFailures, holding, admitted, Function.comp_def]

/-- Which moves can be made, and where they put the requests, does not depend on failures. -/
theorem move_withoutFailures (depth : ℕ) (schedule : Schedule) (move : Move) :
    schedule.withoutFailures.move depth move.withoutFailure =
      (schedule.move depth move).map withoutFailures := by
  cases move with
  | receive datagram peer =>
      cases hrequest : Request.receive datagram <;>
        simp [Schedule.move, Move.withoutFailure, hrequest, receive, withoutFailures]
  | start =>
      cases hrunning : schedule.tasks.running <;> cases hwaiting : schedule.tasks.waiting <;>
        simp [Schedule.move, Move.withoutFailure, start, hrunning, hwaiting, withoutFailures]
  | finish result =>
      cases hrunning : schedule.tasks.running <;> cases hreport : schedule.report <;>
        simp [Schedule.move, Move.withoutFailure, finish, hrunning, hreport, withoutFailures,
          Report.ofResult]
  | respond isWhole =>
      cases hrunning : schedule.tasks.running <;> cases hreport : schedule.report <;>
        simp [Schedule.move, Move.withoutFailure, respond, hrunning, hreport, withoutFailures]
  | startRefusal =>
      cases hrefusing : schedule.tasks.refusing <;> cases hbacklog : schedule.tasks.backlog <;>
        simp [Schedule.move, Move.withoutFailure, startRefusal, hrefusing, hbacklog,
          withoutFailures]
  | refuse isWhole =>
      cases hrefusing : schedule.tasks.refusing <;>
        simp [Schedule.move, Move.withoutFailure, refuse, hrefusing, withoutFailures]

theorem run_withoutFailures (depth : ℕ) (schedule : Schedule) (moves : List Move) :
    schedule.withoutFailures.run depth (moves.map Move.withoutFailure) =
      (schedule.run depth moves).map withoutFailures := by
  induction moves generalizing schedule with
  | nil => rfl
  | cons move moves ih =>
      rw [List.map_cons, run, run, move_withoutFailures]
      cases hmove : schedule.move depth move with
      | none => rfl
      | some next => exact ih next

/-- Two rows of moves that differ only in what fails put every request in the same place. -/
theorem exists_run_of_withoutFailure {depth : ℕ} {schedule : Schedule} {moves others : List Move}
    (hrun : ({} : Schedule).run depth moves = some schedule)
    (hsame : others.map Move.withoutFailure = moves.map Move.withoutFailure) :
    ∃ other, ({} : Schedule).run depth others = some other ∧
      ∀ place, other.holding place = schedule.holding place := by
  have hmoves := run_withoutFailures depth {} moves
  have hothers := run_withoutFailures depth {} others
  rw [hsame, hmoves, hrun, Option.map_some] at hothers
  rcases Option.map_eq_some_iff.mp hothers.symm with ⟨other, hother, heq⟩
  refine ⟨other, hother, fun place => ?_⟩
  rw [← holding_withoutFailures other, heq, holding_withoutFailures]

/-! ## No request is stuck -/

/-- As long as a request is neither answered, refused nor dropped, some task can move on without
another datagram. -/
theorem exists_move_of_open (depth : ℕ) {schedule : Schedule} {place : Place}
    (hopen : schedule.holding place ≠ [])
    (hplace : place ∈ [Place.running, .waiting, .refusing, .backlog]) :
    ∃ move, move.job? = none ∧ (schedule.move depth move).isSome := by
  cases hrunning : schedule.tasks.running with
  | some arrival =>
      cases hreport : schedule.report with
      | none =>
          refine ⟨.finish (.ok Report.failed), rfl, ?_⟩
          simp [Schedule.move, finish, hrunning, hreport]
      | some report =>
          refine ⟨.respond true, rfl, ?_⟩
          simp [Schedule.move, respond, hrunning, hreport]
  | none =>
      cases hwaiting : schedule.tasks.waiting with
      | cons arrival waiting =>
          refine ⟨.start, rfl, ?_⟩
          simp [Schedule.move, start, hrunning, hwaiting]
      | nil =>
          cases hrefusing : schedule.tasks.refusing with
          | some arrival =>
              refine ⟨.refuse true, rfl, ?_⟩
              simp [Schedule.move, refuse, hrefusing]
          | none =>
              cases hbacklog : schedule.tasks.backlog with
              | cons arrival backlog =>
                  refine ⟨.startRefusal, rfl, ?_⟩
                  simp [Schedule.move, startRefusal, hrefusing, hbacklog]
              | nil =>
                  simp only [List.mem_cons, List.not_mem_nil, or_false] at hplace
                  rcases hplace with rfl | rfl | rfl | rfl <;>
                    simp [holding, hrunning, hwaiting, hrefusing, hbacklog] at hopen

/-! ## The account -/

/-- Whatever the tasks do in whatever order, each command that came is in exactly one place, and
there once.  It is in the row of refusals only if as many commands as the queue takes were waiting
when it came, and dropped only if the backlog was full as well.  Commands are taken up one at a time
and in the order in which they came, and refusals are sent in that order.  Where each request is
does not depend on what fails. -/
theorem accounts_for_every_request {depth : ℕ} {moves : List Move} {schedule : Schedule}
    (hrun : ({} : Schedule).run depth moves = some schedule) :
    (∀ arrival, arrival ∈ Move.arrivals moves ↔ ∃ place, arrival ∈ schedule.holding place) ∧
      (∀ arrival ∈ Move.arrivals moves, ∃! place, arrival ∈ schedule.holding place) ∧
      (∀ place, (schedule.holding place).Nodup) ∧
      (∀ front datagram peer behind, moves = front ++ .receive datagram peer :: behind →
        ∃ before line, ({} : Schedule).run depth front = some before ∧
          Request.receive datagram = .execute line ∧
          let arrival : Arrival := ⟨(Move.arrivals front).length, ⟨line, peer⟩⟩
          (arrival ∈ schedule.commands ↔ before.tasks.waiting.length < depth) ∧
          (arrival ∈ schedule.refusals ↔ before.tasks.waiting.length = depth ∧
            before.tasks.backlog.length < Tasks.backlogCapacity) ∧
          (arrival ∈ schedule.holding .dropped ↔ before.tasks.waiting.length = depth ∧
            before.tasks.backlog.length = Tasks.backlogCapacity)) ∧
      (schedule.started = schedule.holding .answered ++ schedule.holding .running ∧
        (schedule.holding .running).length ≤ 1) ∧
      (schedule.started ++ schedule.holding .waiting).Sublist (Move.arrivals moves) ∧
      schedule.refusals.Sublist (Move.arrivals moves) ∧
      (∀ closing ∈ schedule.refused, closing.report = Report.busy) ∧
      ∀ others, others.map Move.withoutFailure = moves.map Move.withoutFailure →
        ∃ other, ({} : Schedule).run depth others = some other ∧
          ∀ place, other.holding place = schedule.holding place := by
  have haccounts := Accounts.of_run hrun
  refine ⟨haccounts.mem_arrivals_iff, ?_, haccounts.nodup_holding, ?_, ⟨haccounts.started_eq, ?_⟩,
    ?_, ?_, haccounts.busy, fun others hsame => exists_run_of_withoutFailure hrun hsame⟩
  · intro arrival harrival
    obtain ⟨place, hplace⟩ := (haccounts.mem_arrivals_iff arrival).mp harrival
    exact ⟨place, hplace, fun other hother => haccounts.place_unique hother hplace⟩
  · intro front datagram peer behind hmoves
    subst hmoves
    obtain ⟨before, line, hbefore, hline, hreceipt⟩ := mem_receipts_of_run hrun
    have hwaiting := (Accounts.of_run hbefore).waiting_le
    have hbacklog := (Accounts.of_run hbefore).backlog_le
    refine ⟨before, line, hbefore, hline, ?_, ?_, ?_⟩
    · rw [haccounts.commands_eq, ← Tasks.admission_eq_queued_iff]
      exact haccounts.mem_admitted_iff hreceipt .queued
    · rw [haccounts.refusals_eq, ← hwaiting.ge_iff_eq, ← Tasks.admission_eq_refused_iff]
      exact haccounts.mem_admitted_iff hreceipt .refused
    · rw [← hwaiting.ge_iff_eq, ← hbacklog.ge_iff_eq, ← Tasks.admission_eq_dropped_iff]
      exact haccounts.mem_admitted_iff hreceipt .dropped
  · cases hrunning : schedule.tasks.running <;> simp [holding, hrunning]
  · have hcommands : schedule.started ++ schedule.holding .waiting = schedule.admitted .queued := by
      rw [haccounts.started_eq, List.append_assoc]
      exact haccounts.commands_eq
    rw [hcommands]
    exact haccounts.sublist_admitted .queued
  · rw [haccounts.refusals_eq]
    exact haccounts.sublist_admitted .refused

/-- One command may wait.  Thirty-four come before the worker gets to run, and whatever is tried
then fails. -/
theorem accounts_for_a_burst :
    let datagram : Bytes := [108, 115, 0, 0]
    let moves : List Move := List.replicate 34 (.receive datagram 7) ++
      [.start, .finish (.error (.launch "bash" .notFound)), .startRefusal, .refuse false,
        .respond false, .receive datagram 8]
    ∃ schedule, ({} : Schedule).run 1 moves = some schedule ∧
      (∃! place, ⟨33, ⟨[108, 115], 7⟩⟩ ∈ schedule.holding place) ∧
      ⟨33, ⟨[108, 115], 7⟩⟩ ∈ schedule.holding .dropped ∧
      ⟨34, ⟨[108, 115], 8⟩⟩ ∈ schedule.commands := by
  intro datagram moves
  have hrun : (({} : Schedule).run 1 moves).isSome = true := by decide +kernel
  obtain ⟨schedule, hschedule⟩ := Option.isSome_iff_exists.mp hrun
  obtain ⟨_, hunique, _, hfound, _⟩ := accounts_for_every_request hschedule
  have hline : Request.receive datagram = .execute [108, 115] := by decide
  refine ⟨schedule, hschedule, hunique _ (by decide +kernel), ?_, ?_⟩
  · obtain ⟨before, line, hbefore, hexecute, _, _, hdropped⟩ :=
      hfound (List.replicate 33 (.receive datagram 7)) datagram 7 (moves.drop 34) rfl
    have hlengths : (({} : Schedule).run 1 (List.replicate 33 (.receive datagram 7))).map
        (fun schedule => (schedule.tasks.waiting.length, schedule.tasks.backlog.length)) =
          some (1, 32) := by
      decide +kernel
    rw [hbefore, Option.map_some, Option.some.injEq, Prod.mk.injEq] at hlengths
    rw [hline, Request.execute.injEq] at hexecute
    subst hexecute
    exact hdropped.mpr hlengths
  · obtain ⟨before, line, hbefore, hexecute, hcommand, _⟩ :=
      hfound (moves.take 39) datagram 8 [] rfl
    have hlength : (({} : Schedule).run 1 (moves.take 39)).map
        (fun schedule => schedule.tasks.waiting.length) = some 0 := by
      decide +kernel
    rw [hbefore, Option.map_some, Option.some.injEq] at hlength
    rw [hline, Request.execute.injEq] at hexecute
    subst hexecute
    exact hcommand.mpr (by rw [hlength]; decide)

end Schedule

end DatagramShell
