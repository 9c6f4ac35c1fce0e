import DatagramShell.Proofs.Process.Output
import DatagramShell.Proofs.Request
import DatagramShell.Proofs.Service.Fifo
import DatagramShell.Proofs.Service.Work
import DatagramShell.Proofs.Stream.Partition
import Mathlib.Tactic

/-!
# The place in a burst decides

When requests come faster than any task gets to run, the queue fills up first, then the backlog,
and what comes after that finds both full.  So the number of requests in front of it decides what
becomes of a request: it is run and answered, or refused, or dropped.  The tasks then work off
what they hold in whatever order, and every peer gets the one response that its place in the burst
gives it.
-/

namespace DatagramShell

/-- What becomes of the request at a place of a burst. -/
def Admission.ofPlace (depth place : ℕ) : Admission :=
  if place < depth then .queued
  else if place < depth + Tasks.backlogCapacity then .refused
  else .dropped

namespace Tasks

variable {Item : Type} {depth count : ℕ} {tasks : Tasks Item}

structure Filled (depth count : ℕ) (tasks : Tasks Item) : Prop where
  length_waiting : tasks.waiting.length = min count depth
  length_backlog : tasks.backlog.length = min (count - depth) backlogCapacity

theorem Filled.admission_eq (hfilled : Filled depth count tasks) :
    tasks.admission depth = .ofPlace depth count := by
  have hqueue : tasks.waiting.length < depth ↔ count < depth := by
    rw [hfilled.length_waiting]
    omega
  unfold admission Admission.ofPlace
  simp only [hqueue]
  split
  · rfl
  · next hfull =>
      have hbacklog : tasks.backlog.length < backlogCapacity ↔
          count < depth + backlogCapacity := by
        rw [hfilled.length_backlog]
        omega
      simp only [hbacklog]

theorem Filled.accept (hfilled : Filled depth count tasks) (item : Item) :
    Filled depth (count + 1) (tasks.accept depth item) ∧
      (tasks.accept depth item).waiting = tasks.waiting ++ [item].take (depth - count) := by
  have hwaiting := hfilled.length_waiting
  have hbacklog := hfilled.length_backlog
  unfold Tasks.accept
  rw [hfilled.admission_eq]
  unfold Admission.ofPlace
  by_cases hqueue : count < depth
  · rw [if_pos hqueue]
    refine ⟨⟨?_, ?_⟩, ?_⟩
    · simp only [List.length_append, List.length_singleton]
      omega
    · simp only
      omega
    · rw [List.take_of_length_le (by simp only [List.length_singleton]; omega)]
  · have hnone : depth - count = 0 := by omega
    rw [if_neg hqueue, hnone, List.take_zero, List.append_nil]
    split_ifs with hroom
    · refine ⟨⟨?_, ?_⟩, rfl⟩
      · simp only
        omega
      · simp only [List.length_append, List.length_singleton]
        omega
    · refine ⟨⟨?_, ?_⟩, rfl⟩ <;> simp only <;> omega

end Tasks

/-! ## The burst is received -/

/-- The line of a request that does not stop the service. -/
def Request.lineOf (datagram : Bytes) : Bytes :=
  Bytes.untilZero (datagram.take Wire.maxCommandLength)

namespace Service

theorem lines?_eq {requests : List Bytes}
    (hcontrol : ∀ request ∈ requests, ¬ Wire.controlToken <+: request) :
    lines? requests = some (requests.map Request.lineOf) := by
  induction requests with
  | nil => rfl
  | cons request requests ih =>
      have hfirst := Request.receive_of_not_control (hcontrol request List.mem_cons_self)
      have hlater := ih fun later hmem => hcontrol later (List.mem_cons_of_mem _ hmem)
      rw [lines?, hfirst, hlater]
      rfl

theorem acceptAll_eq (service : Service) {tasks : Tasks Job} {count : ℕ}
    (hfilled : tasks.Filled service.queueDepth count) (jobs : List Job) :
    (service.acceptAll tasks jobs).1 =
        (List.range' count jobs.length).map (Admission.ofPlace service.queueDepth) ∧
      (service.acceptAll tasks jobs).2.waiting =
        tasks.waiting ++ jobs.take (service.queueDepth - count) := by
  -- What is left of the queue gets smaller with every job until it is zero, and then stays so.
  induction jobs generalizing tasks count with
  | nil => simp [acceptAll]
  | cons job jobs ih =>
      obtain ⟨hnext, hwaiting⟩ := hfilled.accept job
      obtain ⟨hadmissions, hlast⟩ := ih hnext
      constructor
      · rw [acceptAll, List.length_cons, List.range'_succ, List.map_cons, ← hfilled.admission_eq,
          ← hadmissions]
      · rw [acceptAll, hlast, hwaiting, List.append_assoc]
        congr 1
        by_cases hqueue : count < service.queueDepth
        · obtain ⟨room, hroom⟩ := Nat.exists_eq_add_of_lt hqueue
          have hthis : service.queueDepth - count = room + 1 := by omega
          have hlater : service.queueDepth - (count + 1) = room := by omega
          rw [hthis, hlater]
          simp
        · have hthis : service.queueDepth - count = 0 := by omega
          have hlater : service.queueDepth - (count + 1) = 0 := by omega
          rw [hthis, hlater]
          rfl

theorem burst_eq (service : Service) {requests : List Bytes}
    (hcontrol : ∀ request ∈ requests, ¬ Wire.controlToken <+: request) :
    let lines := requests.map Request.lineOf
    let placeOf := Admission.ofPlace service.queueDepth
    (service.burst requests).executed = lines.take service.queueDepth ∧
      (service.burst requests).answered = lines.mapIdx (fun place line =>
        if placeOf place = .queued then service.answer line else []) ∧
      (service.burst requests).rejected = lines.mapIdx (fun place _ =>
        if placeOf place = .refused then service.refusal else []) := by
  intro lines placeOf
  have hfilled : ({} : Tasks Job).Filled service.queueDepth 0 := ⟨by simp, by simp⟩
  obtain ⟨hadmissions, hwaiting⟩ := service.acceptAll_eq hfilled (jobs lines)
  have hlength : (jobs lines).length = lines.length := by simp [jobs]
  rw [hlength] at hadmissions
  have hlines : (jobs lines).map (·.line) = lines := by
    simp [jobs, Function.comp_def]
  rw [burst, lines?_eq hcontrol]
  change ((service.acceptAll {} (jobs lines)).2.waiting).map (·.line) = _ ∧
    ((service.acceptAll {} (jobs lines)).1.zip lines).map (fun entry =>
      if entry.1 = .queued then service.answer entry.2 else []) = _ ∧
    (service.acceptAll {} (jobs lines)).1.map (fun admission =>
      if admission = .refused then service.refusal else []) = _
  refine ⟨?_, ?_, ?_⟩
  · rw [hwaiting, Nat.sub_zero, List.nil_append, List.map_take, hlines]
  · rw [hadmissions]
    apply List.ext_getElem?
    intro place
    rcases Nat.lt_or_ge place lines.length with hin | hout
    · simp [hin, placeOf]
    · simp [hout]
  · rw [hadmissions]
    apply List.ext_getElem?
    intro place
    rcases Nat.lt_or_ge place lines.length with hin | hout
    · simp [hin, placeOf]
    · simp [hout]

theorem getElem?_burst (service : Service) {requests : List Bytes}
    (hcontrol : ∀ request ∈ requests, ¬ Wire.controlToken <+: request) {place : ℕ} {request : Bytes}
    (hrequest : requests[place]? = some request) :
    let admission := Admission.ofPlace service.queueDepth place
    (service.burst requests).answered[place]? =
        some (if admission = .queued then service.answer (Request.lineOf request) else []) ∧
      (service.burst requests).rejected[place]? =
        some (if admission = .refused then service.refusal else []) := by
  obtain ⟨_, hanswered, hrejected⟩ := service.burst_eq hcontrol
  constructor
  · rw [hanswered, List.getElem?_mapIdx, List.getElem?_map, hrequest]
    rfl
  · rw [hrejected, List.getElem?_mapIdx, List.getElem?_map, hrequest]
    rfl

end Service

/-! ## The burst in a schedule -/

def Job.ofRequest (request : Bytes × Peer) : Job :=
  ⟨Request.lineOf request.1, request.2⟩

/-- The responses for one peer, each of them as the datagrams that it consists of. -/
def Closing.streams (transmission : Transmission) (peer : Peer) (closings : List Closing) :
    List (List Bytes) :=
  (closings.filter (·.arrival.job.peer = peer)).map fun closing =>
    transmission.reply closing.report

theorem filter_peer_zipIdx {jobs : List Job} (hpeers : (jobs.map (·.peer)).Nodup) {place : ℕ}
    {job : Job} (hjob : jobs[place]? = some job) (start : ℕ) :
    (jobs.zipIdx start).filter (·.1.peer = job.peer) = [(job, start + place)] := by
  induction jobs generalizing place start with
  | nil => cases hjob
  | cons first jobs ih =>
      rw [List.map_cons, List.nodup_cons] at hpeers
      rw [List.zipIdx_cons]
      cases place with
      | zero =>
          cases hjob
          have hothers : (jobs.zipIdx (start + 1)).filter (·.1.peer = job.peer) = [] := by
            rw [List.filter_eq_nil_iff]
            intro entry hentry hsame
            have hmem : entry.1 ∈ jobs := List.fst_mem_of_mem_zipIdx hentry
            exact hpeers.1 (List.mem_map.mpr ⟨entry.1, hmem, of_decide_eq_true hsame⟩)
          rw [List.filter_cons_of_pos (by simp), hothers, Nat.add_zero]
      | succ place =>
          rw [List.getElem?_cons_succ] at hjob
          have hother : first.peer ≠ job.peer := by
            intro hsame
            have hmem : job ∈ jobs := List.mem_of_getElem? hjob
            exact hpeers.1 (List.mem_map.mpr ⟨job, hmem, hsame.symm⟩)
          rw [List.filter_cons_of_neg (by simpa using hother), ih hpeers.2 hjob (start + 1),
            Nat.add_right_comm, Nat.add_assoc]

namespace Schedule

variable {service : Service}

def receiptsOf (depth : ℕ) (entries : List (Job × ℕ)) : List Receipt :=
  entries.map fun (job, number) => ⟨⟨number, job⟩, .ofPlace depth number⟩

theorem exists_run_receive {schedule : Schedule}
    (hfilled : schedule.tasks.Filled service.queueDepth schedule.receipts.length)
    (hundisturbed : Undisturbed service schedule) {requests : List (Bytes × Peer)}
    (hcontrol : ∀ request ∈ requests, ¬ Wire.controlToken <+: request.1) :
    ∃ burst, schedule.run service.queueDepth
          (requests.map fun request => .receive request.1 request.2) = some burst ∧
      Undisturbed service burst ∧
      burst.receipts = schedule.receipts ++ receiptsOf service.queueDepth
        ((requests.map Job.ofRequest).zipIdx schedule.receipts.length) := by
  -- The requests are numbered on from those already received, so the schedule is not fixed.
  induction requests generalizing schedule with
  | nil => exact ⟨schedule, rfl, hundisturbed, (List.append_nil _).symm⟩
  | cons request requests ih =>
      let next := schedule.receive service.queueDepth (Job.ofRequest request)
      have hmove : schedule.move service.queueDepth (.receive request.1 request.2) = some next := by
        have hline := Request.receive_of_not_control (hcontrol request List.mem_cons_self)
        simp only [Schedule.move, hline]
        rfl
      have hreceipts : next.receipts = schedule.receipts ++
          receiptsOf service.queueDepth [(Job.ofRequest request, schedule.receipts.length)] := by
        simp only [next, receive, hfilled.admission_eq]
        rfl
      have hlength : next.receipts.length = schedule.receipts.length + 1 := by
        rw [hreceipts, List.length_append]
        rfl
      have hnext : next.tasks.Filled service.queueDepth next.receipts.length := by
        rw [hlength]
        exact (hfilled.accept _).1
      obtain ⟨burst, hrun, hlast, heq⟩ := ih hnext (hundisturbed.receive _ _)
        fun later hmem => hcontrol later (List.mem_cons_of_mem _ hmem)
      refine ⟨burst, ?_, hlast, ?_⟩
      · rw [List.map_cons, run, hmove]
        exact hrun
      · rw [heq, hlength, hreceipts, List.append_assoc]
        rfl

theorem exists_burst (service : Service) {requests : List (Bytes × Peer)}
    (hcontrol : ∀ request ∈ requests, ¬ Wire.controlToken <+: request.1) :
    ∃ burst, ({} : Schedule).run service.queueDepth
          (requests.map fun request => .receive request.1 request.2) = some burst ∧
      Undisturbed service burst ∧
      burst.receipts =
        receiptsOf service.queueDepth (requests.map Job.ofRequest).zipIdx := by
  have hfilled : ({} : Schedule).tasks.Filled service.queueDepth 0 := ⟨by simp, by simp⟩
  exact exists_run_receive hfilled (.fresh service) hcontrol

theorem admitted_of_receipts {schedule : Schedule} {depth : ℕ} {jobs : List Job}
    (hreceipts : schedule.receipts = receiptsOf depth jobs.zipIdx) (admission : Admission) :
    schedule.admitted admission =
      (jobs.zipIdx.filter (Admission.ofPlace depth ·.2 = admission)).map fun (job, number) =>
        ⟨number, job⟩ := by
  simp [admitted, hreceipts, receiptsOf, List.filter_map, Function.comp_def]

theorem map_fst_filter_zipIdx (depth : ℕ) (jobs : List Job) (start : ℕ) :
    ((jobs.zipIdx start).filter (·.2 < depth)).map Prod.fst = jobs.take (depth - start) := by
  induction jobs generalizing start with
  | nil => simp
  | cons job jobs ih =>
      rw [List.zipIdx_cons]
      by_cases hplace : start < depth
      · have hroom : depth - start = depth - (start + 1) + 1 := by omega
        rw [List.filter_cons_of_pos (by simpa using hplace), List.map_cons, ih, hroom,
          List.take_succ_cons]
      · have hnone : depth - start = 0 := by omega
        have hlater : depth - (start + 1) = 0 := by omega
        rw [List.filter_cons_of_neg (by simpa using hplace), ih, hnone, hlater, List.take_zero,
          List.take_zero]

theorem map_job_admitted_queued {schedule : Schedule} {depth : ℕ} {jobs : List Job}
    (hreceipts : schedule.receipts = receiptsOf depth jobs.zipIdx) :
    (schedule.admitted .queued).map (·.job) = jobs.take depth := by
  have hqueued : ∀ place, Admission.ofPlace depth place = .queued ↔ place < depth := by
    intro place
    unfold Admission.ofPlace
    split_ifs with hqueue <;> simp [hqueue]
  have htake := map_fst_filter_zipIdx depth jobs 0
  rw [Nat.sub_zero] at htake
  rw [admitted_of_receipts hreceipts, List.map_map, ← htake]
  simp only [hqueued]
  rfl

theorem streams_eq {schedule : Schedule} {depth : ℕ} {jobs : List Job}
    (hreceipts : schedule.receipts = receiptsOf depth jobs.zipIdx)
    (hpeers : (jobs.map (·.peer)).Nodup) {place : ℕ} {job : Job} (hjob : jobs[place]? = some job)
    (transmission : Transmission) (admission : Admission) (report : Arrival → Report) :
    Closing.streams transmission job.peer
        ((schedule.admitted admission).map fun arrival => ⟨arrival, report arrival, true⟩) =
      if Admission.ofPlace depth place = admission then
        [transmission.reply (report ⟨place, job⟩)]
      else [] := by
  have hfilter := filter_peer_zipIdx hpeers hjob 0
  rw [Nat.zero_add] at hfilter
  rw [admitted_of_receipts hreceipts]
  simp only [Closing.streams, List.filter_map, List.map_map, List.filter_filter,
    Function.comp_def, Bool.and_comm (decide (_ = job.peer))]
  rw [← List.filter_filter, hfilter]
  by_cases hplace : Admission.ofPlace depth place = admission <;> simp [hplace]

/-- Whatever the order in which the tasks have worked, a peer has got the streams of its place. -/
theorem streams_of_idle {moves : List Move} {burst last : Schedule}
    (hrun : ({} : Schedule).run service.queueDepth moves = some burst)
    (hundisturbed : Undisturbed service burst) (hworks : WorksTo service burst last)
    (hidle : last.Idle) {jobs : List Job}
    (hreceipts : burst.receipts = receiptsOf service.queueDepth jobs.zipIdx)
    (hpeers : (jobs.map (·.peer)).Nodup) {place : ℕ} {job : Job} (hjob : jobs[place]? = some job) :
    let admission := Admission.ofPlace service.queueDepth place
    Closing.streams service.transmission job.peer last.answered =
        (if admission = .queued then [service.answer job.line] else []) ∧
      Closing.streams service.transmission job.peer last.refused =
        (if admission = .refused then [service.refusal] else []) := by
  intro admission
  obtain ⟨hheldAnswered, _, hheldRefused⟩ := hworks.closed hrun hidle
  obtain ⟨hclosings, hrefusals⟩ := (hundisturbed.worksTo hworks).closings_eq
  rw [hheldAnswered] at hclosings
  rw [hheldRefused] at hrefusals
  have hanswers := streams_eq hreceipts hpeers hjob service.transmission .queued
    fun arrival => service.runner.answer arrival.job.line
  have hrefused := streams_eq hreceipts hpeers hjob service.transmission .refused
    fun _ => Report.busy
  rw [← hclosings] at hanswers
  rw [← hrefusals] at hrefused
  exact ⟨hanswers, hrefused⟩

end Schedule

/-! ## Who gets what -/

namespace Service

/-- The streams that answer the request at a place of a burst, and those that refuse it. -/
inductive Share (service : Service) (place : ℕ) (line : Bytes) :
    List (List Bytes) → List (List Bytes) → Prop
  | answered (hqueue : place < service.queueDepth) :
      Share service place line [service.answer line] []
  | refused (hqueue : service.queueDepth ≤ place) (hbacklog : place < service.queueDepth + 32) :
      Share service place line [] [service.refusal]
  | dropped (hfull : service.queueDepth + 32 ≤ place) : Share service place line [] []

section

variable {service : Service} {place : ℕ} {line : Bytes} {answers refusals : List (List Bytes)}

theorem Share.eq_of_lt (hshare : Share service place line answers refusals)
    (hqueue : place < service.queueDepth) : answers = [service.answer line] ∧ refusals = [] := by
  cases hshare with
  | answered => exact ⟨rfl, rfl⟩
  | refused hfull => omega
  | dropped hfull => omega

theorem Share.eq_of_le_of_lt (hshare : Share service place line answers refusals)
    (hqueue : service.queueDepth ≤ place) (hbacklog : place < service.queueDepth + 32) :
    answers = [] ∧ refusals = [service.refusal] := by
  cases hshare with
  | answered hroom => omega
  | refused => exact ⟨rfl, rfl⟩
  | dropped hfull => omega

theorem Share.eq_nil_of_le (hshare : Share service place line answers refusals)
    (hfull : service.queueDepth + 32 ≤ place) : answers = [] ∧ refusals = [] := by
  cases hshare with
  | answered hroom => omega
  | refused _ hroom => omega
  | dropped => exact ⟨rfl, rfl⟩

end

theorem share_of_place (service : Service) (place : ℕ) (line : Bytes) :
    let admission := Admission.ofPlace service.queueDepth place
    Share service place line (if admission = .queued then [service.answer line] else [])
      (if admission = .refused then [service.refusal] else []) := by
  intro admission
  by_cases hqueue : place < service.queueDepth
  · have hplace : admission = .queued := if_pos hqueue
    rw [hplace]
    exact .answered hqueue
  by_cases hbacklog : place < service.queueDepth + Tasks.backlogCapacity
  · have hplace : admission = .refused := (if_neg hqueue).trans (if_pos hbacklog)
    rw [hplace]
    exact .refused (Nat.le_of_not_lt hqueue) hbacklog
  · have hplace : admission = .dropped := (if_neg hqueue).trans (if_neg hbacklog)
    rw [hplace]
    exact .dropped (Nat.le_of_not_lt hbacklog)

theorem flatten_ite_singleton (condition : Prop) [Decidable condition] (stream : List Bytes) :
    (if condition then [stream] else []).flatten = if condition then stream else [] := by
  split_ifs
  · exact List.flatten_singleton
  · rfl

theorem length_lineOf_le (datagram : Bytes) : (Request.lineOf datagram).length ≤ 1024 :=
  (List.takeWhile_prefix _).length_le.trans (List.length_take_le _ _)

theorem reply_of_size_invalid {transmission : Transmission}
    (hsize : ¬ (0 < transmission.chunkSize ∧ transmission.chunkSize ≤ Wire.maxPayloadLength))
    (report : Report) : transmission.reply report = [] := by
  rw [Transmission.reply, Transmission.stream, Stream.split_of_size_invalid hsize]

theorem completes_answer_lineOf (service : Service)
    (hrunner : ∀ line, service.runner line = .ok (.completed 0 line []))
    (hpos : 0 < service.transmission.chunkSize)
    (hsize : service.transmission.chunkSize ≤ Wire.maxPayloadLength) (datagram : Bytes) :
    Assembly.Completes (service.answer (Request.lineOf datagram))
      (Report.completed 0 (Request.lineOf datagram) []).render := by
  have hlength := length_lineOf_le datagram
  have hframe := (Report.completed 0 (Request.lineOf datagram) []).length_render_le
  apply completes_answer_of_ok hpos hsize (hrunner _)
  apply hframe.trans
  simp only [Report.completed, List.length_nil, Wire.maxResponseLength]
  omega

/-- Requests of distinct peers come before any task gets to run.  Then every order in which the
tasks work them off comes to an end, and each of these orders runs the lines of the first requests,
as many as the queue takes, in the order in which they came.  The place of a request decides whether
its peer gets one answer, one refusal or nothing; where a stream can be formed, it completes with
the report on the line or with the refusal, which has no code and no output, and where none can be
formed, nothing is sent. -/
theorem burst_decided_by_places (service : Service)
    (hrunner : ∀ line, service.runner line = .ok (.completed 0 line []))
    (requests : List (Bytes × Peer)) (hpeers : (requests.map Prod.snd).Nodup)
    (hcontrol : ∀ request ∈ requests, ¬ Wire.controlToken <+: request.1) :
    let lines := requests.map fun request => Request.lineOf request.1
    let result := service.burst (requests.map Prod.fst)
    let sizeValid := 0 < service.transmission.chunkSize ∧
      service.transmission.chunkSize ≤ Wire.maxPayloadLength
    (result.executed = lines.take service.queueDepth ∧
        result.answered.length = requests.length ∧ result.rejected.length = requests.length) ∧
      (∃ burst, ({} : Schedule).run service.queueDepth
            (requests.map fun request => .receive request.1 request.2) = some burst ∧
        (∃ last, Schedule.WorksTo service burst last ∧ last.Idle) ∧
        ∀ last, Schedule.WorksTo service burst last → last.Idle →
          last.started.map (·.job.line) = result.executed ∧
          ∀ place datagram peer, requests[place]? = some (datagram, peer) →
            let answers := Closing.streams service.transmission peer last.answered
            let refusals := Closing.streams service.transmission peer last.refused
            Share service place (Request.lineOf datagram) answers refusals ∧
              result.answered[place]? = some answers.flatten ∧
              result.rejected[place]? = some refusals.flatten) ∧
      (sizeValid → Assembly.Completes service.refusal Report.busy.render ∧
        Report.busy = ⟨.busy, -1, [], []⟩ ∧
        ∀ line ∈ lines,
          Assembly.Completes (service.answer line) (Report.completed 0 line []).render) ∧
      (¬ sizeValid → service.refusal = [] ∧ ∀ line ∈ lines, service.answer line = []) := by
  intro lines result sizeValid
  have hcommands : ∀ datagram ∈ requests.map Prod.fst, ¬ Wire.controlToken <+: datagram := by
    intro datagram hmem
    obtain ⟨request, hrequest, rfl⟩ := List.mem_map.mp hmem
    exact hcontrol request hrequest
  obtain ⟨hexecuted, hanswered, hrejected⟩ := service.burst_eq hcommands
  rw [List.map_map] at hexecuted hanswered hrejected
  -- All requests are received before anything else moves, so their places alone admit them.
  obtain ⟨burst, hrun, hundisturbed, hreceipts⟩ := Schedule.exists_burst service hcontrol
  refine ⟨⟨hexecuted, ?_, ?_⟩, ⟨burst, hrun, Schedule.exists_worksTo_idle hundisturbed, ?_⟩, ?_, ?_⟩
  · rw [hanswered, List.length_mapIdx, List.length_map]
  · rw [hrejected, List.length_mapIdx, List.length_map]
  · intro last hworks hidle
    constructor
    · have hstarted := (hworks.closed hrun hidle).2.1
      have hjobs := congrArg (List.map Job.line) (Schedule.map_job_admitted_queued hreceipts)
      rw [List.map_map, List.map_take, List.map_map] at hjobs
      rw [hstarted, hexecuted]
      exact hjobs
    · intro place datagram peer hrequest answers refusals
      have hjob : (requests.map Job.ofRequest)[place]? = some ⟨Request.lineOf datagram, peer⟩ := by
        rw [List.getElem?_map, hrequest]
        rfl
      have hnodup : ((requests.map Job.ofRequest).map (·.peer)).Nodup := by
        rw [List.map_map]
        exact hpeers
      have hdatagram : (requests.map Prod.fst)[place]? = some datagram := by
        rw [List.getElem?_map, hrequest]
        rfl
      have hstreams := Schedule.streams_of_idle hrun hundisturbed hworks hidle hreceipts hnodup hjob
      obtain ⟨hthisAnswered, hthisRejected⟩ := service.getElem?_burst hcommands hdatagram
      rw [show answers = _ from hstreams.1, show refusals = _ from hstreams.2]
      rw [flatten_ite_singleton, flatten_ite_singleton]
      exact ⟨service.share_of_place place _, hthisAnswered, hthisRejected⟩
  · intro hvalid
    refine ⟨Transmission.completes_reply hvalid.1 hvalid.2 (by decide), rfl, ?_⟩
    intro line hline
    obtain ⟨request, _, rfl⟩ := List.mem_map.mp hline
    exact service.completes_answer_lineOf hrunner hvalid.1 hvalid.2 request.1
  · intro hinvalid
    exact ⟨reply_of_size_invalid hinvalid _, fun _ _ => reply_of_size_invalid hinvalid _⟩

/-- One command may wait, so the last of these requests finds the backlog full as well. -/
theorem burst_of_thirty_four_requests :
    let service : Service :=
      { queueDepth := 1
        transmission := ⟨16, true⟩
        runner := fun line => .ok (.completed 0 line []) }
    let requests : List (Bytes × Peer) :=
      (List.range 34).map fun peer => ([108, 115, 0, 112], peer)
    (service.burst (requests.map Prod.fst)).executed = [[108, 115]] ∧
      Assembly.Completes (service.answer [108, 115])
        (Report.completed 0 [108, 115] []).render ∧
      Assembly.Completes service.refusal (Report.render ⟨.busy, -1, [], []⟩) ∧
      ∃ last : Schedule, last.Idle ∧ last.started.map (·.job.line) = [[108, 115]] ∧
        Closing.streams service.transmission 0 last.answered = [service.answer [108, 115]] ∧
        Closing.streams service.transmission 1 last.refused = [service.refusal] ∧
        Closing.streams service.transmission 33 last.answered = [] ∧
        Closing.streams service.transmission 33 last.refused = [] := by
  intro service requests
  have hpeers : (requests.map Prod.snd).Nodup := by decide
  have hcontrol : ∀ request ∈ requests, ¬ Wire.controlToken <+: request.1 := by decide
  obtain ⟨⟨hexecuted, _, _⟩, ⟨burst, _, ⟨last, hworks, hidle⟩, hthen⟩, hvalid, _⟩ :=
    service.burst_decided_by_places (fun _ => rfl) requests hpeers hcontrol
  obtain ⟨hstarted, hshares⟩ := hthen last hworks hidle
  have hfirst := (hshares 0 [108, 115, 0, 112] 0 (by decide)).1
  have hsecond := (hshares 1 [108, 115, 0, 112] 1 (by decide)).1
  have hlast := (hshares 33 [108, 115, 0, 112] 33 (by decide)).1
  obtain ⟨hrefusal, hbusy, hcompletes⟩ := hvalid ⟨by decide, by decide⟩
  rw [hbusy] at hrefusal
  have hline : (service.burst (requests.map Prod.fst)).executed = [[108, 115]] := by
    rw [hexecuted]
    decide
  refine ⟨hline, hcompletes _ (by decide), hrefusal, last, hidle, hstarted.trans hline, ?_, ?_, ?_⟩
  · exact (hfirst.eq_of_lt (by decide)).1
  · exact (hsecond.eq_of_le_of_lt (by decide) (by decide)).2
  · exact hlast.eq_nil_of_le (by decide)

end Service

end DatagramShell
