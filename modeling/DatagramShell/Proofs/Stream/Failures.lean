import DatagramShell.Proofs.Stream.History
import Mathlib.Tactic

/-!
# Failing datagrams leave no trace

A datagram that is refused changes nothing, so a run can be replayed without the datagrams that it
has refused.  An assembly holds the length of a stream together with its pieces.  A receiver that
keeps them in two fields writes the length before it looks at the payload, and would be left with a
length if it then refused the payload; this never happens, because a piece that is already there has
brought a length with it.
-/

namespace DatagramShell

/-- The fault lies in the datagram that was pushed, and not in what has been left out of a stream.
-/
def AssemblyError.refuses : AssemblyError → Bool
  | .undecodable _ | .lengthMismatch _ _ _ | .tooLarge _ => true
  | .conflictingDuplicate _ | .alreadyFinished => true
  | .empty | .missingChunk _ | .short _ _ => false

namespace Assembly

section Push

variable {assembly : Assembly} {datagram : Bytes} {fault : AssemblyError}

theorem push_of_finished (hfinished : assembly.finished = true) :
    assembly.push datagram = (.error .alreadyFinished, assembly) := by
  rw [push, if_pos hfinished]

theorem refuses_of_store {chunk : Chunk} (hstore : assembly.store chunk = .error fault) :
    fault.refuses = true := by
  unfold store at hstore
  split at hstore
  · cases hstore
    rfl
  · split at hstore
    · cases hstore
    · split at hstore
      · cases hstore
        rfl
      · split at hstore
        · split at hstore <;> cases hstore
          rfl
        · cases hstore

theorem offer_error {chunk : Chunk} (hfault : (assembly.offer chunk).1 = .error fault) :
    fault.refuses = true ∧ (assembly.offer chunk).2 = assembly := by
  unfold offer at hfault ⊢
  cases hstore : assembly.store chunk with
  | ok next => simp [hstore] at hfault
  | error refusal =>
      simp only [hstore, Except.error.injEq] at hfault
      subst hfault
      exact ⟨refuses_of_store hstore, rfl⟩

/-- Only the sentinel that ends a stream can fail and be remembered. -/
theorem push_error (hsentinel : datagram = Wire.sentinel → assembly.finished = true)
    (hfault : (assembly.push datagram).1 = .error fault) :
    fault.refuses = true ∧ (assembly.push datagram).2 = assembly := by
  cases hfinished : assembly.finished with
  | true =>
      rw [push_of_finished hfinished] at hfault ⊢
      cases hfault
      exact ⟨rfl, rfl⟩
  | false =>
      have hnot : datagram ≠ Wire.sentinel := by
        intro heq
        rw [hsentinel heq] at hfinished
        cases hfinished
      cases hdecode : Chunk.decode datagram with
      | error cause =>
          rw [push_of_decode_error hfinished hnot hdecode] at hfault ⊢
          cases hfault
          exact ⟨rfl, rfl⟩
      | ok chunk =>
          rw [push_of_decode hfinished hnot hdecode] at hfault ⊢
          exact offer_error hfault

end Push

/-! ## Reachable assemblies -/

theorem after_of_finished {assembly : Assembly} (hfinished : assembly.finished = true)
    (datagrams : List Bytes) : assembly.after datagrams = assembly := by
  induction datagrams with
  | nil => rfl
  | cons datagram datagrams ih => rw [after, push_of_finished hfinished, ih]

theorem finished_push_sentinel (assembly : Assembly) :
    (assembly.push Wire.sentinel).2.finished = true := by
  cases hfinished : assembly.finished with
  | true => rw [push_of_finished hfinished, hfinished]
  | false => rw [push_sentinel hfinished]

theorem finished_after (assembly : Assembly) {datagrams : List Bytes}
    (hsentinel : Wire.sentinel ∈ datagrams) : (assembly.after datagrams).finished = true := by
  obtain ⟨front, behind, rfl⟩ := List.append_of_mem hsentinel
  have hfinished := finished_push_sentinel (assembly.after front)
  rw [after_append, after, after_of_finished hfinished, hfinished]

/-! ## A run without its failures -/

/-- The datagrams of a run, each with its answer. -/
def transcript (assembly : Assembly) (datagrams : List Bytes) :
    List (Bytes × Except AssemblyError Progress) :=
  datagrams.zip (assembly.answers datagrams)

theorem transcript_cons (assembly : Assembly) (datagram : Bytes) (datagrams : List Bytes) :
    assembly.transcript (datagram :: datagrams) =
      (datagram, (assembly.push datagram).1) :: (assembly.push datagram).2.transcript datagrams :=
  rfl

theorem length_answers (assembly : Assembly) (datagrams : List Bytes) :
    (assembly.answers datagrams).length = datagrams.length := by
  induction datagrams generalizing assembly with
  | nil => rfl
  | cons datagram datagrams ih => rw [answers, List.length_cons, List.length_cons, ih]

theorem map_fst_transcript (assembly : Assembly) (datagrams : List Bytes) :
    (assembly.transcript datagrams).map Prod.fst = datagrams := by
  rw [transcript, List.map_fst_zip (assembly.length_answers datagrams).ge]

/-- The transcript without the datagrams that failed in front of the first sentinel. -/
def withoutFailures :
    List (Bytes × Except AssemblyError Progress) → List (Bytes × Except AssemblyError Progress)
  | [] => []
  | (datagram, answer) :: transcript =>
    if datagram = Wire.sentinel then (datagram, answer) :: transcript
    else
      match answer with
      | .error _ => withoutFailures transcript
      | .ok _ => (datagram, answer) :: withoutFailures transcript

/-- Fed with the datagrams that are left, an assembly gives the answers that are left, and ends in
the same state. -/
theorem replay_withoutFailures (assembly : Assembly) (datagrams : List Bytes) :
    let kept := withoutFailures (assembly.transcript datagrams)
    assembly.transcript (kept.map Prod.fst) = kept ∧
      assembly.after (kept.map Prod.fst) = assembly.after datagrams := by
  induction datagrams generalizing assembly with
  | nil => exact ⟨rfl, rfl⟩
  | cons datagram datagrams ih =>
      intro kept
      by_cases hsentinel : datagram = Wire.sentinel
      · have hkept : kept = assembly.transcript (datagram :: datagrams) := if_pos hsentinel
        rw [hkept, map_fst_transcript]
        exact ⟨rfl, rfl⟩
      · obtain ⟨htranscript, hafter⟩ := ih (assembly.push datagram).2
        cases hanswer : (assembly.push datagram).1 with
        | error fault =>
            have hkept : kept =
                withoutFailures ((assembly.push datagram).2.transcript datagrams) := by
              simp only [kept, transcript_cons, withoutFailures, if_neg hsentinel, hanswer]
            -- The failing datagram has left the assembly as it was, so the rest runs from it.
            have hsame := (push_error (fun heq => absurd heq hsentinel) hanswer).2
            rw [← hkept, hsame] at htranscript hafter
            exact ⟨htranscript, by rw [hafter, after, hsame]⟩
        | ok progress =>
            have hkept : kept = (datagram, (assembly.push datagram).1) ::
                withoutFailures ((assembly.push datagram).2.transcript datagrams) := by
              simp only [kept, transcript_cons, withoutFailures, if_neg hsentinel, hanswer]
            rw [hkept, List.map_cons, transcript_cons, htranscript, after, hafter]
            exact ⟨rfl, rfl⟩

end Assembly

/-! ## A receiver that writes the length first -/

/-- What a receiver keeps, field by field. -/
structure Ledger where
  parts : Parts
  total : Option UInt32
  finished : Bool
  deriving DecidableEq

namespace Ledger

def fresh : Ledger :=
  ⟨.empty, none, false⟩

def response (ledger : Ledger) : Except AssemblyError Bytes :=
  match ledger.total with
  | none => .error .empty
  | some total => Assembly.join total ledger.parts

/-- A piece is stored unless its place is taken. -/
def keep (ledger : Ledger) (chunk : Chunk) : Except AssemblyError Progress × Ledger :=
  match ledger.parts.find? chunk.sequence with
  | some payload =>
    if payload = chunk.payload then (.ok .pending, ledger)
    else (.error (.conflictingDuplicate chunk.sequence), ledger)
  | none =>
    (.ok .pending, { ledger with parts := ledger.parts.insert chunk.sequence chunk.payload })

/-- The length is compared or written, and only then the payload is looked at. -/
def offer (ledger : Ledger) (chunk : Chunk) : Except AssemblyError Progress × Ledger :=
  if Wire.maxResponseLength < chunk.total.toNat then (.error (.tooLarge chunk.total), ledger)
  else
    match ledger.total with
    | some total =>
      if chunk.total ≠ total then
        (.error (.lengthMismatch chunk.sequence chunk.total total), ledger)
      else ledger.keep chunk
    | none => { ledger with total := some chunk.total }.keep chunk

def push (ledger : Ledger) (datagram : Bytes) : Except AssemblyError Progress × Ledger :=
  if ledger.finished then (.error .alreadyFinished, ledger)
  else if Wire.isSentinel datagram then
    (ledger.response.map .complete, { ledger with finished := true })
  else
    match Chunk.decode datagram with
    | .error cause => (.error (.undecodable cause), ledger)
    | .ok chunk => ledger.offer chunk

def after (ledger : Ledger) : List Bytes → Ledger
  | [] => ledger
  | datagram :: datagrams => (ledger.push datagram).2.after datagrams

def answers (ledger : Ledger) : List Bytes → List (Except AssemblyError Progress)
  | [] => []
  | datagram :: datagrams =>
    (ledger.push datagram).1 :: (ledger.push datagram).2.answers datagrams

/-- The fields of a receiver that has the assembly: where there is no length, there is no piece. -/
def ofAssembly (assembly : Assembly) : Ledger :=
  match assembly.opened with
  | none => ⟨.empty, none, assembly.finished⟩
  | some (total, parts) => ⟨parts, some total, assembly.finished⟩

theorem finished_ofAssembly (assembly : Assembly) :
    (ofAssembly assembly).finished = assembly.finished := by
  unfold ofAssembly
  split <;> rfl

theorem response_ofAssembly (assembly : Assembly) :
    (ofAssembly assembly).response = assembly.response := by
  unfold ofAssembly Assembly.response response
  cases assembly.opened <;> rfl

theorem finish_ofAssembly (assembly : Assembly) :
    { ofAssembly assembly with finished := true } =
      ofAssembly { assembly with finished := true } := by
  unfold ofAssembly
  cases assembly.opened <;> rfl

theorem offer_ofAssembly (assembly : Assembly) (chunk : Chunk) :
    (ofAssembly assembly).offer chunk =
      ((assembly.offer chunk).1, ofAssembly (assembly.offer chunk).2) := by
  by_cases hlarge : Wire.maxResponseLength < chunk.total.toNat
  · rw [Assembly.offer_of_tooLarge hlarge, offer, if_pos hlarge]
  · obtain ⟨opened, finished⟩ := assembly
    cases opened with
    | none =>
        -- The length is written first, and no piece is there that could be in its way.
        simp [offer, keep, ofAssembly, Assembly.offer, Assembly.store, hlarge, Parts.find?_empty]
    | some held =>
        obtain ⟨total, parts⟩ := held
        by_cases htotal : chunk.total = total
        · subst htotal
          cases hfound : parts.find? chunk.sequence with
          | none => simp [offer, keep, ofAssembly, Assembly.offer, Assembly.store, hlarge, hfound]
          | some payload =>
              by_cases hpayload : payload = chunk.payload <;>
                simp [offer, keep, ofAssembly, Assembly.offer, Assembly.store, hlarge, hfound,
                  hpayload]
        · simp [offer, ofAssembly, Assembly.offer, Assembly.store, hlarge, htotal]

theorem push_ofAssembly (assembly : Assembly) (datagram : Bytes) :
    (ofAssembly assembly).push datagram =
      ((assembly.push datagram).1, ofAssembly (assembly.push datagram).2) := by
  unfold push
  rw [finished_ofAssembly]
  cases hfinished : assembly.finished with
  | true =>
      rw [Assembly.push_of_finished hfinished]
      rfl
  | false =>
      by_cases hsentinel : datagram = Wire.sentinel
      · subst hsentinel
        rw [Assembly.push_sentinel hfinished, response_ofAssembly, finish_ofAssembly]
        rfl
      · have hnot : Wire.isSentinel datagram = false := beq_false_of_ne hsentinel
        cases hdecode : Chunk.decode datagram with
        | error cause =>
            rw [Assembly.push_of_decode_error hfinished hsentinel hdecode]
            simp only [hnot, Bool.false_eq_true, if_false]
        | ok chunk =>
            rw [Assembly.push_of_decode hfinished hsentinel hdecode, ← offer_ofAssembly]
            simp only [hnot, Bool.false_eq_true, if_false]

/-- The two receivers give the same answers, and one keeps the fields of the other. -/
theorem run_ofAssembly (assembly : Assembly) (datagrams : List Bytes) :
    (ofAssembly assembly).answers datagrams = assembly.answers datagrams ∧
      (ofAssembly assembly).after datagrams = ofAssembly (assembly.after datagrams) := by
  induction datagrams generalizing assembly with
  | nil => exact ⟨rfl, rfl⟩
  | cons datagram datagrams ih =>
      obtain ⟨hanswers, hafter⟩ := ih (assembly.push datagram).2
      rw [answers, after, push_ofAssembly, hanswers, hafter]
      exact ⟨rfl, rfl⟩

-- No assembly has a piece without a length; from there a refused payload would leave a length
-- behind.
example :
    let ledger : Ledger := ⟨Parts.empty.insert 0 [1], none, false⟩
    ledger.push [0, 0, 0, 0, 0, 0, 0, 1, 2] =
      (.error (.conflictingDuplicate 0), { ledger with total := some 1 }) := by
  decide

end Ledger

/-- Whatever has been pushed, a datagram that fails is refused and leaves the pieces, the length and
the flag as they were, unless it is the sentinel that ends the stream.  So the datagrams that failed
in front of the first sentinel can be left out of any run, without a change in the other answers or
in the state behind it.  All this holds field by field for a receiver that writes the length first.
-/
theorem failures_leave_no_trace :
    (∀ pushed datagram fault,
      let assembly := Assembly.fresh.after pushed
      let ledger := Ledger.fresh.after pushed
      (datagram = Wire.sentinel → Wire.sentinel ∈ pushed) →
        (assembly.push datagram).1 = .error fault →
          fault.refuses = true ∧ (assembly.push datagram).2 = assembly ∧
            ledger.push datagram = (.error fault, ledger)) ∧
      (∀ datagrams,
        let kept := Assembly.withoutFailures (Assembly.fresh.transcript datagrams)
        Assembly.fresh.transcript (kept.map Prod.fst) = kept ∧
          Assembly.fresh.after (kept.map Prod.fst) = Assembly.fresh.after datagrams) ∧
      ∀ datagrams, Ledger.fresh.answers datagrams = Assembly.fresh.answers datagrams ∧
        Ledger.fresh.after datagrams = .ofAssembly (Assembly.fresh.after datagrams) := by
  have hagree : ∀ datagrams, Ledger.fresh.answers datagrams = Assembly.fresh.answers datagrams ∧
      Ledger.fresh.after datagrams = .ofAssembly (Assembly.fresh.after datagrams) :=
    Ledger.run_ofAssembly .fresh
  refine ⟨?_, Assembly.replay_withoutFailures .fresh, hagree⟩
  intro pushed datagram fault assembly ledger hsentinel hfault
  have hfinished : datagram = Wire.sentinel → assembly.finished = true := fun heq =>
    Assembly.finished_after .fresh (hsentinel heq)
  obtain ⟨hrefuses, hsame⟩ := Assembly.push_error hfinished hfault
  refine ⟨hrefuses, hsame, ?_⟩
  have hledger : ledger = .ofAssembly assembly := (hagree pushed).2
  rw [hledger, Ledger.push_ofAssembly, hfault, hsame]

/-- A datagram that is too short, one that declares too much, one of another stream and a second
payload for place 1 all fail, and the response is that of the other two pieces alone. -/
theorem failures_of_hostile_run :
    let first : Bytes := [0, 0, 0, 1, 0, 0, 0, 3, 7, 8, 9]
    let second : Bytes := [0, 0, 0, 1, 0, 0, 0, 3, 7]
    let zeroth : Bytes := [0, 0, 0, 0, 0, 0, 0, 3, 6]
    let datagrams : List Bytes := [[1, 2], first, [0, 0, 0, 0, 255, 0, 0, 0, 9],
      [0, 0, 0, 0, 0, 0, 0, 4, 5], second, zeroth, Wire.sentinel, zeroth]
    let ledger := Ledger.fresh.after [first]
    ledger.push second = (.error (.conflictingDuplicate 1), ledger) ∧
      Assembly.fresh.transcript [first, zeroth, Wire.sentinel, zeroth] =
        Assembly.withoutFailures (Assembly.fresh.transcript datagrams) ∧
      Assembly.fresh.after [first, zeroth, Wire.sentinel, zeroth] =
        Assembly.fresh.after datagrams ∧
      Assembly.fresh.answers [first, zeroth, Wire.sentinel, zeroth] =
        [.ok .pending, .ok .pending, .ok (.complete [6, 7, 8]), .error .alreadyFinished] := by
  intro first second zeroth datagrams ledger
  obtain ⟨hfailure, hreplay, _⟩ := failures_leave_no_trace
  obtain ⟨_, _, hledger⟩ :=
    hfailure [first] second (.conflictingDuplicate 1) (by decide) (by decide)
  obtain ⟨htranscript, hafter⟩ := hreplay datagrams
  have hkept : (Assembly.withoutFailures (Assembly.fresh.transcript datagrams)).map Prod.fst =
      [first, zeroth, Wire.sentinel, zeroth] := by decide
  rw [hkept] at htranscript hafter
  exact ⟨hledger, htranscript, hafter, by decide⟩

end DatagramShell
