import DatagramShell.Client.Program
import DatagramShell.Proofs.Client.Options
import DatagramShell.Proofs.Request
import DatagramShell.Proofs.Text.Encoded
import Mathlib.Tactic

/-!
# Client and service agree on what a request means

A client refuses the lines that the service would cut or take for the order to stop, and no others.
So whatever it sends for a line is run as that line, up to the first zero byte, and padding does not
change this.  The order to stop is sent only by a client that was told so with its flag.
-/

namespace DatagramShell

namespace Client

theorem controlToken_prefix_ofString_iff {line : String} :
    Wire.controlToken <+: Bytes.ofString line ↔ "KILLIT".toList <+: line.toList :=
  Bytes.ofString_prefix_iff (by simp)

theorem rejection?_eq_none_iff {line : Bytes} :
    rejection? line = none ↔
      line.length ≤ Wire.maxCommandLength ∧ ¬ Wire.controlToken <+: line := by
  unfold rejection?
  split
  · next hlong => simp [Nat.not_le.mpr hlong]
  · next hshort =>
      split
      · next hcontrol => simp [Wire.isControl_iff.mp hcontrol]
      · next hcontrol => simp [mt Wire.isControl_iff.mpr hcontrol, Nat.not_lt.mp hshort]

theorem rejection?_ofString_eq_none_iff {line : String} :
    rejection? (Bytes.ofString line) = none ↔
      ¬ (1024 < line.utf8ByteSize ∨ "KILLIT".toList <+: line.toList) := by
  rw [rejection?_eq_none_iff, Bytes.length_ofString, controlToken_prefix_ofString_iff, not_or,
    not_lt]
  rfl

variable {host : Host} {client : Client} {line datagram : Bytes}

theorem receive_of_rejection?_eq_none (haccepted : rejection? line = none) (count : ℕ) :
    Request.receive (line ++ List.replicate count 0) = .execute (Bytes.untilZero line) := by
  obtain ⟨hfits, hcontrol⟩ := rejection?_eq_none_iff.mp haccepted
  exact Request.receive_append_zeros hfits hcontrol count

theorem ask_of_rejection? {fault : ExecuteError} (hrejection : rejection? line = some fault)
    (receives : Receives) : client.ask host line receives = ⟨none, .error fault⟩ := by
  simp only [ask, hrejection]

theorem sent_ask (haccepted : rejection? line = none)
    (hsend : host.send client.source client.target line.length = .ok ()) (receives : Receives) :
    (client.ask host line receives).sent = some line := by
  simp only [ask, haccepted, hsend]

/-- Only a line that is not refused is sent, and it is sent as it is. -/
theorem eq_of_sent_ask {receives : Receives}
    (hsent : (client.ask host line receives).sent = some datagram) :
    rejection? line = none ∧ datagram = line := by
  unfold ask at hsent
  cases hrejection : rejection? line with
  | some fault => simp [hrejection] at hsent
  | none =>
      simp only [hrejection] at hsent
      split at hsent
      · cases hsent
      · exact ⟨rfl, (Option.some.inj hsent).symm⟩

theorem eq_of_kill (hkill : client.kill host = .ok datagram) : datagram = Wire.controlToken := by
  unfold kill at hkill
  cases hsend : host.send client.source client.target Wire.controlToken.length with
  | error cause =>
      rw [hsend] at hkill
      cases hkill
  | ok _ =>
      rw [hsend] at hkill
      cases hkill
      rfl

theorem receive_of_kill (hkill : client.kill host = .ok datagram) (count : ℕ) :
    Request.receive (datagram ++ List.replicate count 0) = .shutdown := by
  rw [eq_of_kill hkill, Request.receive_eq_shutdown_iff]
  exact List.prefix_append _ _

end Client

namespace ClientRun

variable {host : Host} {console : Console} {receives : Receives}

theorem sent_ofReport (console : Console) (sent : List Bytes) (report : Report) :
    (ofReport console sent report).sent = sent := by
  unfold ofReport
  split
  · rfl
  · split
    · rfl
    · dsimp only
      split
      · rfl
      · split <;> rfl

/-- Whatever becomes of the output, what is sent for a line is what the client asks with. -/
theorem sent_ofTask_run (host : Host) (console : Console) (client : Client) (receives : Receives)
    (line : String) :
    (ofTask host console client receives (.run line)).sent =
      (client.ask host (Bytes.ofString line) receives).sent.toList := by
  simp only [ofTask]
  split
  · exact sent_ofReport console _ _
  · rfl

/-- What is sent for a line does not stop the service. -/
theorem receive_ne_shutdown_of_run {client : Client} {line : String} {datagram : Bytes}
    (hmem : datagram ∈ (ofTask host console client receives (.run line)).sent) :
    Request.receive datagram ≠ .shutdown := by
  rw [sent_ofTask_run, Option.mem_toList] at hmem
  obtain ⟨haccepted, rfl⟩ := Client.eq_of_sent_ask hmem
  have hreceive := Client.receive_of_rejection?_eq_none haccepted 0
  rw [List.replicate_zero, List.append_nil] at hreceive
  rw [hreceive]
  simp

/-- A client that sends the order to stop has read it from its command line. -/
theorem task_eq_stop_of_sent {arguments : List String} {datagram : Bytes}
    (hmem : datagram ∈ (start host console arguments receives).sent)
    (hstop : Request.receive datagram = .shutdown) :
    ∃ invocation, Invocation.ofArguments arguments = .ok invocation ∧
      invocation.task = .stop := by
  unfold start at hmem
  split at hmem
  · cases hmem
  · next invocation hinvocation =>
      refine ⟨invocation, hinvocation, ?_⟩
      split at hmem
      · cases hmem
      · next client hconnect =>
          cases htask : invocation.task with
          | stop => rfl
          | run line =>
              rw [htask] at hmem
              exact absurd hstop (receive_ne_shutdown_of_run hmem)

theorem sent_of_task_eq_stop {arguments : List String} {invocation : Invocation}
    (hinvocation : Invocation.ofArguments arguments = .ok invocation)
    (htask : invocation.task = .stop) (hbind : host.bind invocation.bind = .ok ())
    (hsend : host.send invocation.bind invocation.target Wire.controlToken.length = .ok ()) :
    (start host console arguments receives).sent = [Wire.controlToken] := by
  simp only [start, hinvocation, Client.connect, hbind, htask, ofTask, Client.kill, hsend,
    Except.map]

end ClientRun

/-- A client refuses exactly the lines of more than 1024 bytes and those that start with the control
token.  Any other line is sent, and the service runs it up to its first zero, however many zeros are
put behind it; a line without zeros is run as a whole.  What is sent to stop the service stops it,
with zeros behind it, too.  So of all command lines those that are understood and have the flag
`--kill` stop the service, as long as sockets can be opened and take the datagrams. -/
theorem Client.agrees_with_service (host : Host) :
    (∀ (client : Client) (line : String) (replies : List Reply),
      let bytes := Bytes.ofString line
      let execution := client.execute host bytes replies
      ((∃ fault, rejection? bytes = some fault ∧ execution = ⟨none, .error fault⟩) ↔
          1024 < line.utf8ByteSize ∨ "KILLIT".toList <+: line.toList) ∧
        (host.send client.source client.target bytes.length = .ok () →
          rejection? bytes = none → execution.sent = some bytes) ∧
        (∀ datagram ∈ execution.sent, ∀ count : ℕ,
          Request.receive (datagram ++ List.replicate count 0) =
            .execute (Bytes.untilZero bytes)) ∧
        ('\x00' ∉ line.toList → Bytes.untilZero bytes = bytes)) ∧
      (∀ (client : Client) (datagram : Bytes) (count : ℕ), client.kill host = .ok datagram →
        Request.receive (datagram ++ List.replicate count 0) = .shutdown) ∧
      ∀ (arguments : List String) (replies : List Reply),
        (∀ invocation, Invocation.ofArguments arguments = .ok invocation →
          host.bind invocation.bind = .ok () ∧
            ∀ length ≤ 1024, host.send invocation.bind invocation.target length = .ok ()) →
        let stops := ∃ datagram ∈ (ClientRun.ofArguments host arguments replies).sent,
          Request.receive datagram = .shutdown
        (stops ↔ ∃ invocation, Invocation.ofArguments arguments = .ok invocation ∧
          .flag .kill ∈ ClientOption.vocabulary.findings arguments) ∧
        (stops → "--kill" ∈ arguments) := by
  refine ⟨?_, fun client datagram count hkill => receive_of_kill hkill count, ?_⟩
  · intro client line replies bytes execution
    have hsound : rejection? bytes = none ↔ _ := rejection?_ofString_eq_none_iff
    refine ⟨?_, ?_, ?_, ?_⟩
    · rw [← not_iff_not, ← hsound]
      constructor
      · intro hnone
        cases hrejection : rejection? bytes with
        | none => rfl
        | some fault =>
            exact absurd ⟨fault, hrejection, ask_of_rejection? hrejection _⟩ hnone
      · rintro hnone ⟨fault, hfault, _⟩
        rw [hnone] at hfault
        cases hfault
    · intro hsend haccepted
      exact sent_ask haccepted hsend _
    · intro datagram hsent count
      obtain ⟨haccepted, rfl⟩ := eq_of_sent_ask hsent
      exact receive_of_rejection?_eq_none haccepted count
    · intro hzero
      exact Bytes.untilZero_of_notMem (mt Bytes.zero_mem_ofString_iff.mp hzero)
  · intro arguments replies hnetwork stops
    have hflag : stops → ∃ invocation, Invocation.ofArguments arguments = .ok invocation ∧
        .flag .kill ∈ ClientOption.vocabulary.findings arguments := by
      rintro ⟨datagram, hmem, hstop⟩
      obtain ⟨invocation, hinvocation, htask⟩ := ClientRun.task_eq_stop_of_sent hmem hstop
      exact ⟨invocation, hinvocation, (Invocation.task_eq_stop_iff hinvocation).mp htask⟩
    refine ⟨⟨hflag, ?_⟩, ?_⟩
    · rintro ⟨invocation, hinvocation, hkill⟩
      obtain ⟨hbind, hsend⟩ := hnetwork invocation hinvocation
      have hsent := @ClientRun.sent_of_task_eq_stop host .working (replies.map .ok) _ _ hinvocation
        ((Invocation.task_eq_stop_iff hinvocation).mpr hkill) hbind (hsend _ (by decide))
      refine ⟨Wire.controlToken, ?_, Request.receive_eq_shutdown_iff.mpr List.prefix_rfl⟩
      rw [ClientRun.ofArguments, hsent]
      exact List.mem_singleton_self _
    · intro hstops
      obtain ⟨_, _, hkill⟩ := hflag hstops
      exact ClientOption.kill_mem_arguments hkill

/-- Zeros behind a line are no part of it.  The order to stop is given by the flag in its place and
not by the token as a line. -/
theorem Client.agrees_on_padded_line_and_token :
    let client : Client :=
      { source := Invocation.defaultBind
        target := Invocation.defaultTarget }
    let stops := fun arguments => ∃ datagram ∈ (ClientRun.ofArguments .connected arguments []).sent,
      Request.receive datagram = .shutdown
    Request.receive (Bytes.ofString "KIL" ++ List.replicate 3000 0) =
        .execute (Bytes.ofString "KIL") ∧
      (client.execute .connected (Bytes.ofString "KILLITnow") []).sent = none ∧
      Request.receive (Wire.controlToken ++ List.replicate 3000 0) = .shutdown ∧
      stops ["--kill"] ∧ ¬ stops ["--", "--kill"] := by
  intro client stops
  obtain ⟨hline, hkill, harguments⟩ := agrees_with_service .connected
  obtain ⟨_, hsent, hreceive, hwhole⟩ := hline client "KIL" []
  obtain ⟨hrefused, _⟩ := hline client "KILLITnow" []
  have hsend : ∀ length ≤ 1024, Host.connected.send Invocation.defaultBind
      Invocation.defaultTarget length = .ok () := by
    intro length hlength
    rw [Host.send, if_neg (by unfold Host.maxDatagramLength; omega)]
    rfl
  -- Every invocation here keeps the default end points.
  have hstops : ∀ (arguments : List String) (task : Task),
      Invocation.ofArguments arguments =
        .ok ⟨Invocation.defaultTarget, Invocation.defaultBind, 10, task⟩ →
      (stops arguments ↔ .flag .kill ∈ ClientOption.vocabulary.findings arguments) := by
    intro arguments task haccepted
    refine (harguments arguments [] ?_).1.trans ?_
    · intro invocation hinvocation
      cases haccepted.symm.trans hinvocation
      exact ⟨rfl, hsend⟩
    · exact ⟨fun ⟨_, _, hflag⟩ => hflag, fun hflag => ⟨_, haccepted, hflag⟩⟩
  refine ⟨?_, ?_, hkill client _ 3000 rfl, ?_, ?_⟩
  · rw [hreceive _ (hsent rfl (by decide +kernel)) 3000, hwhole (by decide)]
  · obtain ⟨fault, _, hexecution⟩ := hrefused.mpr (.inr (by decide))
    rw [hexecution]
  · rw [hstops _ .stop (by decide +kernel)]
    decide +kernel
  · rw [hstops _ (.run "--kill") (by decide +kernel)]
    decide +kernel

end DatagramShell
