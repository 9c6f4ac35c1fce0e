import DatagramShell.Client.Program
import DatagramShell.Proofs.Client.Delivery
import DatagramShell.Proofs.Service.Reply
import Mathlib.Tactic

/-!
# When a client ends with success

A client that is to run a command ends with the status 0 only at the end of a chain: its arguments
are understood, its line is sent, what it sees of the replies completes a response, the response is
a report that acknowledges the command, and the output of the command can be written.  A socket that
fails hides the datagrams behind its failure.  The code of such a report is clamped into the range
of a process's status.  A code above the range stays different from 0, but every code below it
becomes 0, so a negative code is the one failure of a command that its caller does not see.
-/

namespace DatagramShell

namespace Assembly

/-- The last of these datagrams, and none before it, completes what has been begun. -/
def CompletesFrom (assembly : Assembly) (datagrams : List Bytes) (response : Bytes) : Prop :=
  assembly.answers datagrams =
    List.replicate (datagrams.length - 1) (.ok .pending) ++ [.ok (.complete response)]

theorem not_completesFrom_nil (assembly : Assembly) (response : Bytes) :
    ¬ assembly.CompletesFrom [] response := by
  simp [CompletesFrom, answers]

theorem completesFrom_cons_iff {assembly : Assembly} {datagram : Bytes} {datagrams : List Bytes}
    {response : Bytes} :
    assembly.CompletesFrom (datagram :: datagrams) response ↔
      ((assembly.push datagram).1 = .ok (.complete response) ∧ datagrams = []) ∨
        ((assembly.push datagram).1 = .ok .pending ∧
          (assembly.push datagram).2.CompletesFrom datagrams response) := by
  cases datagrams with
  | nil => simp [CompletesFrom, answers]
  | cons next datagrams =>
      have hlength : (datagram :: next :: datagrams).length - 1 = datagrams.length + 1 := rfl
      simp only [CompletesFrom, hlength]
      simp [answers, List.replicate_succ]

end Assembly

namespace Client

/-- What the client sees of the datagrams that come from the service. -/
def seen (replies : List Reply) : List Bytes :=
  (genuine replies).map (Wire.received bufferLength)

theorem seen_cons (reply : Reply) (replies : List Reply) :
    seen (reply :: replies) =
      if reply.fromTarget then Wire.received bufferLength reply.datagram :: seen replies
      else seen replies := by
  rw [seen, genuine_cons]
  split <;> rfl

/-- A response is completed by some first datagrams exactly if the first of them does it, or leaves
it to those behind. -/
theorem exists_completesFrom_cons_iff {assembly : Assembly} {datagram : Bytes}
    {datagrams : List Bytes} {property : Bytes → Prop} :
    (∃ front response, front <+: datagram :: datagrams ∧ assembly.CompletesFrom front response ∧
        property response) ↔
      (∃ response, (assembly.push datagram).1 = .ok (.complete response) ∧ property response) ∨
        ((assembly.push datagram).1 = .ok .pending ∧
          ∃ front response, front <+: datagrams ∧
            (assembly.push datagram).2.CompletesFrom front response ∧ property response) := by
  constructor
  · intro hexists
    rcases hexists with ⟨front, response, hfront, hcompletes, hproperty⟩
    cases front with
    | nil => exact absurd hcompletes (assembly.not_completesFrom_nil response)
    | cons first front =>
        rcases List.cons_prefix_cons.mp hfront with ⟨rfl, hrest⟩
        rcases Assembly.completesFrom_cons_iff.mp hcompletes with ⟨hpush, _⟩ | ⟨hpush, hlater⟩
        · exact .inl ⟨response, hpush, hproperty⟩
        · exact .inr ⟨hpush, front, response, hrest, hlater, hproperty⟩
  · intro hcases
    rcases hcases with
      ⟨response, hpush, hproperty⟩ | ⟨hpush, front, response, hrest, hlater, hproperty⟩
    · refine ⟨[datagram], response, by simp, ?_, hproperty⟩
      exact Assembly.completesFrom_cons_iff.mpr (.inl ⟨hpush, rfl⟩)
    · refine ⟨datagram :: front, response, ?_, ?_, hproperty⟩
      · exact List.cons_prefix_cons.mpr ⟨rfl, hrest⟩
      · exact Assembly.completesFrom_cons_iff.mpr (.inr ⟨hpush, hlater⟩)

/-- The client returns the report in the response that some first datagrams complete. -/
theorem collect_eq_ok_iff {target : Endpoint} {assembly : Assembly} {replies : List Reply}
    {report : Report} :
    collect target assembly replies = .ok report ↔
      ∃ front response, front <+: seen replies ∧ assembly.CompletesFrom front response ∧
        Report.parse response = .ok report := by
  induction replies generalizing assembly with
  | nil =>
      have hnone : ∀ front response, front <+: seen [] →
          ¬ assembly.CompletesFrom front response := by
        intro front response hfront
        rw [List.prefix_nil.mp hfront]
        exact assembly.not_completesFrom_nil response
      constructor
      · intro hcollect
        simp [collect_nil] at hcollect
      · intro hexists
        rcases hexists with ⟨front, response, hfront, hcompletes, _⟩
        exact absurd hcompletes (hnone front response hfront)
  | cons reply replies ih =>
      by_cases hgenuine : reply.fromTarget = true
      · rw [collect_cons, if_pos hgenuine, seen_cons, if_pos hgenuine,
          exists_completesFrom_cons_iff]
        cases hpush : assembly.push (Wire.received bufferLength reply.datagram) with
        | mk answer next =>
            cases answer with
            | error fault => simp
            | ok progress =>
                cases progress with
                | pending => simp [ih]
                | complete response => cases hparse : Report.parse response <;> simp [hparse]
      · rw [collect_cons, if_neg hgenuine, seen_cons, if_neg hgenuine]
        exact ih

/-- Some first datagrams of the service complete a response, and it is this report. -/
def Brings (replies : List Reply) (report : Report) : Prop :=
  ∃ front response, front <+: seen replies ∧ Assembly.Completes front response ∧
    Report.parse response = .ok report

theorem collect_fresh_eq_ok_iff (target : Endpoint) {replies : List Reply} {report : Report} :
    collect target .fresh replies = .ok report ↔ Brings replies report :=
  collect_eq_ok_iff

theorem Brings.unique {replies : List Reply} {report other : Report}
    (hreport : Brings replies report) (hother : Brings replies other) : report = other := by
  have hcollect := (collect_fresh_eq_ok_iff Invocation.defaultTarget).mpr hreport
  rw [(collect_fresh_eq_ok_iff Invocation.defaultTarget).mpr hother] at hcollect
  exact (Except.ok.inj hcollect).symm

/-- A report whose output holds no marker is brought by the reply of a service, in its order. -/
theorem brings_reply {transmission : Transmission} (hpos : 0 < transmission.chunkSize)
    (hsize : transmission.chunkSize ≤ Wire.maxPayloadLength) {report : Report}
    (hlength : report.render.length ≤ Wire.maxResponseLength)
    (hborder : ¬ Report.stderrMarker <:+: report.stdout ++ [Bytes.lineFeed]) :
    Brings ((transmission.reply report).map (Reply.mk true)) report := by
  let cutting : Cutting :=
    ⟨report.render, ⟨transmission.chunkSize, hpos, hsize⟩, transmission.padFinal, hlength⟩
  have hreply : transmission.reply report = cutting.stream.datagrams := by
    have hsplit : transmission.stream report = .ok cutting.stream := cutting.split_eq
    simp [Transmission.reply, hsplit]
  have hgenuine : genuine ((transmission.reply report).map (Reply.mk true)) =
      transmission.reply report := by
    simp [genuine, List.filter_map, Function.comp_def]
  have hseen : seen ((transmission.reply report).map (Reply.mk true)) =
      transmission.reply report := by
    have hreceived : ∀ datagram ∈ transmission.reply report,
        Wire.received bufferLength datagram = datagram := by
      rw [hreply]
      intro datagram hmem
      exact received_of_mem_datagrams hmem
    rw [seen, hgenuine, List.map_congr_left hreceived, List.map_id']
  obtain ⟨stdout, stderr, hparse, _, hsame⟩ := Report.parse_render report
  rw [hsame.mpr hborder] at hparse
  refine ⟨transmission.reply report, report.render, ?_, ?_, hparse⟩
  · rw [hseen]
  · exact Transmission.completes_reply hpos hsize hlength

/-- The datagrams that come before the socket fails, if it fails. -/
def arrived : Receives → List Reply
  | [] => []
  | .error _ :: _ => []
  | .ok reply :: receives => reply :: arrived receives

theorem arrived_map_ok (replies : List Reply) : arrived (replies.map .ok) = replies := by
  induction replies with
  | nil => rfl
  | cons reply replies ih => exact congrArg (reply :: ·) ih

/-- A report is got if the datagrams before the first failure make it up; the failure takes the
place of waiting for more. -/
theorem listen_eq_ok_iff {target : Endpoint} {assembly : Assembly} {receives : Receives}
    {report : Report} :
    listen target assembly receives = .ok report ↔
      collect target assembly (arrived receives) = .ok report := by
  induction receives generalizing assembly with
  | nil => exact Iff.rfl
  | cons receive receives ih =>
      cases receive with
      | error cause => simp [listen, arrived, collect_nil]
      | ok reply =>
          by_cases hgenuine : reply.fromTarget = true
          · rw [listen, arrived, collect_cons, if_pos hgenuine, if_pos hgenuine]
            cases hpush : assembly.push (Wire.received bufferLength reply.datagram) with
            | mk answer next =>
                cases answer with
                | error fault => rfl
                | ok progress =>
                    cases progress with
                    | pending => exact ih
                    | complete response => rfl
          · rw [listen, arrived, collect_cons, if_neg hgenuine, if_neg hgenuine]
            exact ih

theorem result_ask_eq_ok_iff {host : Host} {client : Client} {line : Bytes} {receives : Receives}
    {report : Report} :
    (client.ask host line receives).result = .ok report ↔
      rejection? line = none ∧ host.send client.source client.target line.length = .ok () ∧
        Brings (arrived receives) report := by
  unfold ask
  cases hrejection : rejection? line with
  | some fault => simp
  | none =>
      cases hsend : host.send client.source client.target line.length with
      | error cause => simp
      | ok _ => simp [listen_eq_ok_iff, collect_fresh_eq_ok_iff client.target]

end Client

/-- Both outputs of the command can be written. -/
def Console.Shows (console : Console) (report : Report) : Prop :=
  write console.stdout report.stdout = .ok () ∧ write console.stderr report.stderr = .ok ()

theorem Console.shows_working (report : Report) : working.Shows report := by
  simp [Shows, write, working]

namespace ClientRun

theorem clampStatus_eq_zero_iff {code : Int32} : clampStatus code = 0 ↔ code ≤ 0 := by
  have hzero : (0 : Int32).toInt = 0 := rfl
  rw [clampStatus, Int32.le_iff_toInt_le, hzero]
  omega

theorem exitStatus_ofReport_eq_zero_iff {console : Console} {sent : List Bytes} {report : Report} :
    (ofReport console sent report).exitStatus = 0 ↔
      console.Shows report ∧ report.status = .ackOk ∧ report.exitCode ≤ 0 := by
  unfold ofReport Console.Shows
  cases hstdout : Console.write console.stdout report.stdout with
  | error cause => simp [ofFailure]
  | ok _ =>
      cases hstderr : Console.write console.stderr report.stderr with
      | error cause => simp
      | ok _ =>
          by_cases hstatus : report.status = .ackOk
          · simp [hstatus, clampStatus_eq_zero_iff]
          · simp only [hstatus, if_false, false_and, and_false, iff_false]
            split <;> simp [abortedStatus]

theorem exitStatus_ofTask_run_eq_zero_iff {host : Host} {console : Console} {client : Client}
    {receives : Receives} {line : String} :
    (ofTask host console client receives (.run line)).exitStatus = 0 ↔
      Client.rejection? (Bytes.ofString line) = none ∧
        host.send client.source client.target (Bytes.ofString line).length = .ok () ∧
        ∃ report, Client.Brings (Client.arrived receives) report ∧ console.Shows report ∧
          report.status = .ackOk ∧ report.exitCode ≤ 0 := by
  have hresult : ∀ report,
      (client.ask host (Bytes.ofString line) receives).result = .ok report ↔
        Client.rejection? (Bytes.ofString line) = none ∧
          host.send client.source client.target (Bytes.ofString line).length = .ok () ∧
          Client.Brings (Client.arrived receives) report := fun _ => Client.result_ask_eq_ok_iff
  simp only [ofTask]
  cases hexecution : (client.ask host (Bytes.ofString line) receives).result with
  | error fault =>
      simp only [hexecution, reduceCtorEq, false_iff, not_and] at hresult
      simp only [ofFailure, one_ne_zero, false_iff]
      intro hexists
      rcases hexists with ⟨haccepted, hsend, report, hbrings, _⟩
      exact hresult report haccepted hsend hbrings
  | ok found =>
      rcases (hresult found).mp hexecution with ⟨haccepted, hsend, hfound⟩
      rw [exitStatus_ofReport_eq_zero_iff]
      constructor
      · intro hacknowledged
        exact ⟨haccepted, hsend, found, hfound, hacknowledged⟩
      · intro hexists
        rcases hexists with ⟨_, _, report, hbrings, hacknowledged⟩
        rw [hfound.unique hbrings]
        exact hacknowledged

theorem exitStatus_fault_ne_zero {fault : OptionFault} (hhelp : fault ≠ .helpRequested)
    (hversion : fault ≠ .versionRequested) : fault.exitStatus ≠ 0 := by
  cases fault <;> simp_all [OptionFault.exitStatus]

theorem exitStatus_start_of_run_eq_zero_iff {host : Host} {console : Console}
    {arguments : List String} {receives : Receives} {invocation : Invocation} {line : String}
    (hinvocation : Invocation.ofArguments arguments = .ok invocation)
    (htask : invocation.task = .run line) :
    (start host console arguments receives).exitStatus = 0 ↔
      host.bind invocation.bind = .ok () ∧ Client.rejection? (Bytes.ofString line) = none ∧
        host.send invocation.bind invocation.target (Bytes.ofString line).length = .ok () ∧
        ∃ report, Client.Brings (Client.arrived receives) report ∧ console.Shows report ∧
          report.status = .ackOk ∧ report.exitCode ≤ 0 := by
  simp only [start, hinvocation, Client.connect, htask]
  cases hbind : host.bind invocation.bind with
  | error cause => simp [ofFailure]
  | ok _ => simp [exitStatus_ofTask_run_eq_zero_iff]

/-- Whatever the socket and the outputs do, an invocation that is to run a command ends with the
status 0 exactly if its arguments are understood, a socket is opened, the line is sent, the
datagrams before any failure bring a report that acknowledges the command with the code 0 or with a
negative one, and the output can be written. -/
theorem exitStatus_start_eq_zero_iff (host : Host) (console : Console) (arguments : List String)
    (receives : Receives)
    (hhelp : Invocation.ofArguments arguments ≠ .error .helpRequested)
    (hversion : Invocation.ofArguments arguments ≠ .error .versionRequested)
    (hruns : ∀ invocation, Invocation.ofArguments arguments = .ok invocation →
      invocation.task ≠ .stop) :
    (start host console arguments receives).exitStatus = 0 ↔
      ∃ invocation line, Invocation.ofArguments arguments = .ok invocation ∧
        invocation.task = .run line ∧ host.bind invocation.bind = .ok () ∧
        Client.rejection? (Bytes.ofString line) = none ∧
        host.send invocation.bind invocation.target (Bytes.ofString line).length = .ok () ∧
        ∃ report, Client.Brings (Client.arrived receives) report ∧ console.Shows report ∧
          report.status = .ackOk ∧ (report.exitCode = 0 ∨ report.exitCode < 0) := by
  cases hinvocation : Invocation.ofArguments arguments with
  | error fault =>
      have hfault : fault.exitStatus ≠ 0 := by
        apply exitStatus_fault_ne_zero
        · rintro rfl
          exact hhelp hinvocation
        · rintro rfl
          exact hversion hinvocation
      simp [start, hinvocation, hfault]
  | ok invocation =>
      cases htask : invocation.task with
      | stop => exact absurd htask (hruns invocation hinvocation)
      | run line =>
          have hcode : ∀ code : Int32, code ≤ 0 ↔ code = 0 ∨ code < 0 := by
            intro code
            rw [Int32.le_iff_lt_or_eq, or_comm]
          rw [exitStatus_start_of_run_eq_zero_iff hinvocation htask]
          simp [htask, hcode]

/-- An invocation that is to run a command ends with the status 0 exactly if its arguments are
understood, a socket is opened, the line is sent, and the replies bring a report that acknowledges
the command with the code 0 or with a negative one.  Whatever else happens ends it with another
status. -/
theorem exitStatus_eq_zero_iff_acknowledged (host : Host) (arguments : List String)
    (replies : List Reply)
    (hhelp : Invocation.ofArguments arguments ≠ .error .helpRequested)
    (hversion : Invocation.ofArguments arguments ≠ .error .versionRequested)
    (hruns : ∀ invocation, Invocation.ofArguments arguments = .ok invocation →
      invocation.task ≠ .stop) :
    (ofArguments host arguments replies).exitStatus = 0 ↔
      ∃ invocation line, Invocation.ofArguments arguments = .ok invocation ∧
        invocation.task = .run line ∧ host.bind invocation.bind = .ok () ∧
        Client.rejection? (Bytes.ofString line) = none ∧
        host.send invocation.bind invocation.target (Bytes.ofString line).length = .ok () ∧
        ∃ report, Client.Brings replies report ∧ report.status = .ackOk ∧
          (report.exitCode = 0 ∨ report.exitCode < 0) := by
  rw [ofArguments, exitStatus_start_eq_zero_iff host .working arguments _ hhelp hversion hruns]
  simp only [Client.arrived_map_ok, Console.shows_working, true_and]

/-- The code decides: with 0 the client succeeds, with 7 it does not. -/
theorem exitStatus_of_acknowledged_codes :
    let replies := fun code =>
      ((Transmission.mk 1016 false).reply (.completed code [] [])).map (Reply.mk true)
    (ofArguments .connected ["ls"] (replies 0)).exitStatus = 0 ∧
      (ofArguments .connected ["ls"] (replies 7)).exitStatus ≠ 0 := by
  intro replies
  have hinvocation : Invocation.ofArguments ["ls"] =
      .ok ⟨Invocation.defaultTarget, Invocation.defaultBind, 10, .run "ls"⟩ := by
    decide +kernel
  have hstatus : ∀ replies, _ ↔ _ := fun replies =>
    exitStatus_eq_zero_iff_acknowledged .connected ["ls"] replies (by simp [hinvocation])
      (by simp [hinvocation]) (by simp [hinvocation])
  constructor
  · have hzero : Client.Brings (replies 0) (.completed 0 [] []) :=
      Client.brings_reply (by decide) (by decide) (by decide) (by decide)
    exact (hstatus _).mpr ⟨_, "ls", hinvocation, rfl, rfl, by decide +kernel, by decide +kernel, _,
      hzero, rfl, .inl rfl⟩
  · intro hsuccess
    have hseven : Client.Brings (replies 7) (.completed 7 [] []) :=
      Client.brings_reply (by decide) (by decide) (by decide) (by decide)
    obtain ⟨_, _, _, _, _, _, _, report, hbrings, _, hcode⟩ := (hstatus _).mp hsuccess
    rw [hbrings.unique hseven] at hcode
    exact absurd hcode (by decide)

/-- The code that stands for no code at all is negative: the client takes it for success, though no
report with the code 0 has come. -/
theorem exits_with_success_on_negative_code :
    let replies :=
      ((Transmission.mk 1016 false).reply (.completed Wire.noExitCode [] [])).map (Reply.mk true)
    (ofArguments .connected ["ls"] replies).exitStatus = 0 ∧
      Client.Brings replies (.completed Wire.noExitCode [] []) ∧
      ¬ ∃ report, Client.Brings replies report ∧ report.exitCode = 0 := by
  intro replies
  have hinvocation : Invocation.ofArguments ["ls"] =
      .ok ⟨Invocation.defaultTarget, Invocation.defaultBind, 10, .run "ls"⟩ := by
    decide +kernel
  have hbrings : Client.Brings replies (.completed Wire.noExitCode [] []) :=
    Client.brings_reply (by decide) (by decide) (by decide) (by decide)
  refine ⟨?_, hbrings, ?_⟩
  · rw [ofArguments, exitStatus_start_of_run_eq_zero_iff hinvocation rfl, Client.arrived_map_ok]
    exact ⟨rfl, by decide +kernel, by decide +kernel, _, hbrings, Console.shows_working _, rfl,
      by decide⟩
  · intro hexists
    rcases hexists with ⟨report, hreport, hcode⟩
    rw [hreport.unique hbrings] at hcode
    exact absurd hcode (by decide)

end ClientRun

end DatagramShell
