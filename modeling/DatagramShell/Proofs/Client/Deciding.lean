import DatagramShell.Proofs.Client.Success
import DatagramShell.Proofs.Stream.History
import Mathlib.Tactic

/-!
# What decides the outcome of a client

A client listens until a datagram of its service ends the stream or is refused.  So of all that
reaches it, only the datagrams of the service matter, and of these only the ones up to the first
that ends the stream or is refused.

A datagram that does not fit into the client's buffer is longer than every chunk and than the
sentinel.  It remains so when it is cut, and is refused for its length either way; only the length
that the refusal names is another one.
-/

namespace DatagramShell

namespace Assembly

variable {assembly : Assembly} {datagram : Bytes}

theorem finished_push (hopen : assembly.finished = false) (hsentinel : datagram ≠ Wire.sentinel) :
    (assembly.push datagram).2.finished = false := by
  rw [← Bool.not_eq_true]
  exact fun hends => hsentinel (eq_sentinel_of_finished_push hopen hends)

/-- The datagrams up to the first one that is the sentinel or is refused, that one included. -/
def deciding (assembly : Assembly) : List Bytes → List Bytes
  | [] => []
  | datagram :: datagrams =>
    if datagram = Wire.sentinel then [datagram]
    else
      match assembly.push datagram with
      | (.error _, _) => [datagram]
      | (.ok _, next) => datagram :: deciding next datagrams

theorem deciding_cons_of_error {fault : AssemblyError} (hsentinel : datagram ≠ Wire.sentinel)
    (hfault : (assembly.push datagram).1 = .error fault) (datagrams : List Bytes) :
    assembly.deciding (datagram :: datagrams) = [datagram] := by
  rw [deciding, if_neg hsentinel]
  split
  · rfl
  · next heq =>
      rw [heq] at hfault
      cases hfault

theorem deciding_cons_of_pending (hsentinel : datagram ≠ Wire.sentinel)
    (hpending : (assembly.push datagram).1 = .ok .pending) (datagrams : List Bytes) :
    assembly.deciding (datagram :: datagrams) =
      datagram :: (assembly.push datagram).2.deciding datagrams := by
  rw [deciding, if_neg hsentinel]
  split
  · next heq =>
      rw [heq] at hpending
      cases hpending
  · next heq => rw [heq]

end Assembly

namespace Client

/-! ## The client's loop over what it is given -/

/-- What a client makes of the datagrams of its service. -/
def outcome (target : Endpoint) (assembly : Assembly) :
    List Bytes → Except ExecuteError Report
  | [] => .error (.timedOut assembly.received target)
  | datagram :: datagrams =>
    match assembly.push datagram with
    | (.error fault, _) => .error (.assembly fault)
    | (.ok .pending, next) => outcome target next datagrams
    | (.ok (.complete response), _) => (Report.parse response).mapError .framing

variable {target : Endpoint} {assembly : Assembly} {datagram : Bytes}

theorem collect_eq_outcome (target : Endpoint) (assembly : Assembly) (replies : List Reply) :
    collect target assembly replies = outcome target assembly (seen replies) := by
  induction replies generalizing assembly with
  | nil => rfl
  | cons reply replies ih =>
      rw [collect_cons, seen_cons]
      by_cases hgenuine : reply.fromTarget = true
      · rw [if_pos hgenuine, if_pos hgenuine, outcome]
        cases hpush : assembly.push (Wire.received bufferLength reply.datagram) with
        | mk answer next =>
            cases answer with
            | error fault => rfl
            | ok progress =>
                cases progress with
                | pending => exact ih next
                | complete response =>
                    simp only
                    cases Report.parse response <;> rfl
      · rw [if_neg hgenuine, if_neg hgenuine]
        exact ih assembly

theorem outcome_cons_of_error {fault : AssemblyError}
    (hfault : (assembly.push datagram).1 = .error fault) (datagrams : List Bytes) :
    outcome target assembly (datagram :: datagrams) = .error (.assembly fault) := by
  rw [outcome]
  split <;> simp_all

theorem outcome_cons_of_pending (hpending : (assembly.push datagram).1 = .ok .pending)
    (datagrams : List Bytes) :
    outcome target assembly (datagram :: datagrams) =
      outcome target (assembly.push datagram).2 datagrams := by
  rw [outcome]
  split <;> simp_all

theorem outcome_cons_sentinel (hopen : assembly.finished = false) (datagrams : List Bytes) :
    outcome target assembly (Wire.sentinel :: datagrams) = conclude assembly.response := by
  rw [outcome, Assembly.push_sentinel hopen]
  cases assembly.response <;> rfl

theorem outcome_of_answers_pending {datagrams : List Bytes}
    (hanswers : assembly.answers datagrams = List.replicate datagrams.length (.ok .pending)) :
    outcome target assembly datagrams =
      .error (.timedOut (assembly.after datagrams).received target) := by
  induction datagrams generalizing assembly with
  | nil => rfl
  | cons datagram datagrams ih =>
      rw [Assembly.answers, List.length_cons, List.replicate_succ, List.cons.injEq] at hanswers
      rw [outcome_cons_of_pending hanswers.1, Assembly.after]
      exact ih hanswers.2

/-- What stands behind the deciding datagrams is not looked at. -/
theorem outcome_deciding (hopen : assembly.finished = false) (datagrams : List Bytes) :
    outcome target assembly (assembly.deciding datagrams) =
      outcome target assembly datagrams := by
  induction datagrams generalizing assembly with
  | nil => rfl
  | cons datagram datagrams ih =>
      by_cases hsentinel : datagram = Wire.sentinel
      · rw [Assembly.deciding, if_pos hsentinel, hsentinel, outcome_cons_sentinel hopen,
          outcome_cons_sentinel hopen]
      · rcases Assembly.push_eq_pending_or_error hopen hsentinel with hpending | ⟨fault, hfault⟩
        · rw [Assembly.deciding_cons_of_pending hsentinel hpending,
            outcome_cons_of_pending hpending, outcome_cons_of_pending hpending]
          exact ih (Assembly.finished_push hopen hsentinel)
        · rw [Assembly.deciding_cons_of_error hsentinel hfault, outcome_cons_of_error hfault,
            outcome_cons_of_error hfault]

/-! ## The buffer -/

/-- A datagram that is cut is refused as a whole and as what is left of it. -/
theorem push_of_cut (hopen : assembly.finished = false)
    (hcut : Wire.received bufferLength datagram ≠ datagram) :
    bufferLength < datagram.length ∧
      (assembly.push datagram).1 =
        .error (.undecodable (.payloadTooLarge (datagram.length - 8))) ∧
      (assembly.push (Wire.received bufferLength datagram)).1 =
        .error (.undecodable (.payloadTooLarge (bufferLength - 8))) := by
  have hlong : bufferLength < datagram.length := by
    rw [← Nat.not_le]
    exact fun hfits => hcut (List.take_of_length_le hfits)
  have hlength : (Wire.received bufferLength datagram).length = bufferLength :=
    List.length_take_of_le hlong.le
  -- What fills the buffer is already longer than a header and a full payload.
  have hpush : ∀ bytes : Bytes, bufferLength ≤ bytes.length →
      (assembly.push bytes).1 = .error (.undecodable (.payloadTooLarge (bytes.length - 8))) := by
    intro bytes hbytes
    unfold bufferLength at hbytes
    have hsentinel : bytes ≠ Wire.sentinel := by
      rintro rfl
      exact absurd hbytes (by decide)
    have hpayload : 8 + Wire.maxPayloadLength < bytes.length := by
      unfold Wire.maxPayloadLength
      omega
    rw [Assembly.push_of_decode_error hopen hsentinel (Chunk.decode_of_lt_length hpayload)]
  refine ⟨hlong, hpush _ hlong.le, ?_⟩
  rw [hpush _ hlength.ge, hlength]

theorem received_ne_sentinel (hsentinel : datagram ≠ Wire.sentinel) :
    Wire.received bufferLength datagram ≠ Wire.sentinel := by
  intro heq
  have hlength := congrArg List.length heq
  have hwhole : datagram.length ≤ bufferLength := by
    rw [Wire.received, List.length_take] at hlength
    have hshort : Wire.sentinel.length < bufferLength := by decide
    omega
  rw [Wire.received, List.take_of_length_le hwhole] at heq
  exact hsentinel heq

theorem deciding_map_received (hopen : assembly.finished = false) (datagrams : List Bytes) :
    assembly.deciding (datagrams.map (Wire.received bufferLength)) =
      (assembly.deciding datagrams).map (Wire.received bufferLength) := by
  induction datagrams generalizing assembly with
  | nil => rfl
  | cons datagram datagrams ih =>
      rw [List.map_cons]
      by_cases hsentinel : datagram = Wire.sentinel
      · subst hsentinel
        rfl
      · have hnot := received_ne_sentinel hsentinel
        by_cases hwhole : Wire.received bufferLength datagram = datagram
        · rcases Assembly.push_eq_pending_or_error hopen hsentinel with hpending | ⟨fault, hfault⟩
          · rw [hwhole, Assembly.deciding_cons_of_pending hsentinel hpending,
              Assembly.deciding_cons_of_pending hsentinel hpending, List.map_cons, hwhole,
              ih (Assembly.finished_push hopen hsentinel)]
          · rw [hwhole, Assembly.deciding_cons_of_error hsentinel hfault,
              Assembly.deciding_cons_of_error hsentinel hfault, List.map_singleton, hwhole]
        · rcases push_of_cut hopen hwhole with ⟨_, hfault, hcut⟩
          rw [Assembly.deciding_cons_of_error hnot hcut,
            Assembly.deciding_cons_of_error hsentinel hfault, List.map_singleton]

/-- The same, but for the length that is named where a datagram is refused for it: the first client
has cut the datagram. -/
def AlikeButLength (cut whole : Except ExecuteError Report) : Prop :=
  cut = whole ∨ ∃ length, bufferLength - 8 < length ∧
    cut = .error (.assembly (.undecodable (.payloadTooLarge (bufferLength - 8)))) ∧
    whole = .error (.assembly (.undecodable (.payloadTooLarge length)))

theorem outcome_map_received (hopen : assembly.finished = false) (datagrams : List Bytes) :
    AlikeButLength (outcome target assembly (datagrams.map (Wire.received bufferLength)))
      (outcome target assembly datagrams) := by
  induction datagrams generalizing assembly with
  | nil => exact .inl rfl
  | cons datagram datagrams ih =>
      rw [List.map_cons]
      by_cases hwhole : Wire.received bufferLength datagram = datagram
      · rw [hwhole]
        by_cases hsentinel : datagram = Wire.sentinel
        · rw [hsentinel, outcome_cons_sentinel hopen, outcome_cons_sentinel hopen]
          exact .inl rfl
        · rcases Assembly.push_eq_pending_or_error hopen hsentinel with hpending | ⟨fault, hfault⟩
          · rw [outcome_cons_of_pending hpending, outcome_cons_of_pending hpending]
            exact ih (Assembly.finished_push hopen hsentinel)
          · rw [outcome_cons_of_error hfault, outcome_cons_of_error hfault]
            exact .inl rfl
      · rcases push_of_cut hopen hwhole with ⟨hlong, hfault, hcut⟩
        rw [outcome_cons_of_error hcut, outcome_cons_of_error hfault]
        exact .inr ⟨_, by unfold bufferLength at hlong ⊢; omega, rfl, rfl⟩

theorem collect_eq_of_deciding_eq {replies others : List Reply}
    (hsame : Assembly.fresh.deciding (genuine replies) =
      Assembly.fresh.deciding (genuine others)) :
    collect target .fresh replies = collect target .fresh others := by
  have hcollect : ∀ replies, collect target .fresh replies = outcome target .fresh
      ((Assembly.fresh.deciding (genuine replies)).map (Wire.received bufferLength)) := by
    intro replies
    rw [← deciding_map_received rfl, outcome_deciding rfl]
    exact collect_eq_outcome target .fresh replies
  rw [hcollect, hcollect, hsame]

/-- Two clients whose replies have the same deciding datagrams, of those that come from the service,
end alike, whatever strangers send and whatever follows.  A client that only strangers write to
times out.  A client goes by what it sees of its datagrams, and would end alike, but for a length
that it names, if it saw them whole. -/
theorem outcome_by_deciding_datagrams (host : Host) (client : Client) (line : Bytes) :
    (∀ replies others : List Reply,
      Assembly.fresh.deciding (genuine replies) = Assembly.fresh.deciding (genuine others) →
        client.execute host line replies = client.execute host line others) ∧
      (rejection? line = none → host.send client.source client.target line.length = .ok () →
        ∀ replies : List Reply,
          let result := (client.execute host line replies).result
          ((∀ reply ∈ replies, reply.fromTarget = false) →
              result = .error (.timedOut 0 client.target)) ∧
            result = outcome client.target .fresh (seen replies) ∧
            AlikeButLength result (outcome client.target .fresh (genuine replies))) := by
  constructor
  · intro replies others hsame
    simp only [execute_eq, collect_eq_of_deciding_eq hsame]
  · intro haccepted hsend replies result
    have hresult : result = outcome client.target .fresh (seen replies) := by
      simp only [result, execute_eq, haccepted, hsend, collect_eq_outcome]
    refine ⟨?_, hresult, ?_⟩
    · intro hstrangers
      have hnone : genuine replies = [] := by
        rw [genuine, List.map_eq_nil_iff, List.filter_eq_nil_iff]
        intro reply hreply
        rw [hstrangers reply hreply]
        exact Bool.false_ne_true
      rw [hresult, seen, hnone]
      rfl
    · rw [hresult]
      exact outcome_map_received rfl (genuine replies)

/-- A datagram of 3000 bytes is cut, and refused as one with a payload of 2040 bytes. -/
theorem outcome_by_cut_datagram :
    let client : Client :=
      { source := Invocation.defaultBind
        target := Invocation.defaultTarget }
    let result := fun replies => (client.execute .connected [108, 115] replies).result
    let first : Bytes := [0, 0, 0, 0, 0, 0, 0, 3, 6]
    let long : Bytes := List.replicate 3000 0
    result [⟨true, first⟩, ⟨false, Wire.sentinel⟩, ⟨true, long⟩, ⟨true, Wire.sentinel⟩] =
        result [⟨true, first⟩, ⟨true, long⟩] ∧
      result [⟨true, first⟩, ⟨true, long⟩] =
        .error (.assembly (.undecodable (.payloadTooLarge 2040))) ∧
      result [⟨false, Wire.sentinel⟩] = .error (.timedOut 0 client.target) := by
  intro client result first long
  rcases outcome_by_deciding_datagrams .connected client [108, 115] with ⟨hsame, hresult⟩
  have haccepted : rejection? [108, 115] = none := by decide
  have hsend : Host.connected.send client.source client.target 2 = .ok () := by decide
  rcases hresult haccepted hsend [⟨true, first⟩, ⟨true, long⟩] with ⟨_, hseen, _⟩
  rcases hresult haccepted hsend [⟨false, Wire.sentinel⟩] with ⟨hstrangers, _⟩
  refine ⟨?_, hseen.trans (by decide +kernel), hstrangers (by decide)⟩
  exact congrArg Execution.result (hsame _ _ (by decide +kernel))

end Client

end DatagramShell
