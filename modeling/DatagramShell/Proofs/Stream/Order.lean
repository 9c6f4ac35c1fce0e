import DatagramShell.Proofs.Stream.History
import Mathlib.Tactic

/-!
# Order and repetition do not matter

An assembly keeps the first length and, under each number, the first payload, so in general its
state depends on what comes first.  But as long as it refuses nothing, no two datagrams can have
disagreed, on the length or on a payload under one number.  This is a condition on the datagrams as
a set, and under it the first length and the first payloads are the only ones.
-/

namespace DatagramShell

/-- The chunks can be pieces of one response. -/
def Chunk.Agrees (chunk other : Chunk) : Prop :=
  chunk.total = other.total ∧ (chunk.sequence = other.sequence → chunk.payload = other.payload)

theorem Chunk.Agrees.symm {chunk other : Chunk} (hagrees : chunk.Agrees other) :
    other.Agrees chunk :=
  ⟨hagrees.1.symm, fun hsequence => (hagrees.2 hsequence.symm).symm⟩

namespace History

/-- Every datagram holds a chunk that a response may have, and no two of them disagree. -/
structure Consistent (datagrams : List Bytes) : Prop where
  chunks : ∀ datagram ∈ datagrams, ∃ chunk, chunk? datagram = some chunk
  agree : ∀ chunk ∈ datagrams.filterMap chunk?, ∀ other ∈ datagrams.filterMap chunk?,
    chunk.Agrees other

theorem mem_filterMap_iff_of_same {datagrams others : List Bytes}
    (hsame : ∀ datagram, datagram ∈ others ↔ datagram ∈ datagrams) (chunk : Chunk) :
    chunk ∈ others.filterMap chunk? ↔ chunk ∈ datagrams.filterMap chunk? := by
  simp only [List.mem_filterMap, hsame]

theorem Consistent.of_same {datagrams others : List Bytes} (hconsistent : Consistent datagrams)
    (hsame : ∀ datagram, datagram ∈ others ↔ datagram ∈ datagrams) : Consistent others := by
  constructor
  · intro datagram hmem
    exact hconsistent.chunks datagram ((hsame datagram).mp hmem)
  · intro chunk hchunk other hother
    rw [mem_filterMap_iff_of_same hsame] at hchunk hother
    exact hconsistent.agree chunk hchunk other hother

theorem consistent_append_singleton_iff {earlier : List Bytes} {datagram : Bytes} :
    Consistent (earlier ++ [datagram]) ↔
      Consistent earlier ∧ ∃ chunk, chunk? datagram = some chunk ∧
        ∀ other ∈ earlier.filterMap chunk?, other.Agrees chunk := by
  constructor
  · intro hconsistent
    rcases hconsistent.chunks datagram (by simp) with ⟨chunk, hchunk⟩
    have hmem : ∀ other, other ∈ (earlier ++ [datagram]).filterMap chunk? ↔
        other ∈ earlier.filterMap chunk? ∨ other = chunk := by
      intro other
      simp [hchunk, eq_comm]
    refine ⟨⟨?_, ?_⟩, chunk, hchunk, ?_⟩
    · intro other hother
      exact hconsistent.chunks other (List.mem_append_left _ hother)
    · intro first hfirst other hother
      exact hconsistent.agree first ((hmem first).mpr (.inl hfirst)) other
        ((hmem other).mpr (.inl hother))
    · intro other hother
      exact hconsistent.agree other ((hmem other).mpr (.inl hother)) chunk
        ((hmem chunk).mpr (.inr rfl))
  · intro hcases
    rcases hcases with ⟨hearlier, chunk, hchunk, hagree⟩
    have hmem : ∀ other, other ∈ (earlier ++ [datagram]).filterMap chunk? →
        other ∈ earlier.filterMap chunk? ∨ other = chunk := by
      intro other
      simp [hchunk, eq_comm]
    constructor
    · intro other hother
      rcases List.mem_append.mp hother with hother | hother
      · exact hearlier.chunks other hother
      · rw [List.mem_singleton.mp hother]
        exact ⟨chunk, hchunk⟩
    · intro first hfirst other hother
      rcases hmem first hfirst with hfirst | rfl
      · rcases hmem other hother with hother | rfl
        · exact hearlier.agree first hfirst other hother
        · exact hagree first hfirst
      · rcases hmem other hother with hother | rfl
        · exact (hagree other hother).symm
        · exact ⟨rfl, fun _ => rfl⟩

/-! ## What consistent datagrams settle -/

namespace Consistent

variable {datagrams others : List Bytes}

theorem total?_eq_some_iff (hconsistent : Consistent datagrams) {total : UInt32} :
    total? datagrams = some total ↔
      ∃ chunk ∈ datagrams.filterMap chunk?, chunk.total = total := by
  constructor
  · intro htotal
    rcases Option.map_eq_some_iff.mp htotal with ⟨chunk, hhead, hchunk⟩
    exact ⟨chunk, List.mem_of_mem_head? hhead, hchunk⟩
  · intro hexists
    rcases hexists with ⟨chunk, hchunk, rfl⟩
    cases hhead : (datagrams.filterMap chunk?).head? with
    | none =>
        rw [List.head?_eq_none_iff.mp hhead] at hchunk
        cases hchunk
    | some first =>
        have hfirst : first ∈ datagrams.filterMap chunk? := List.mem_of_mem_head? hhead
        rw [total?, hhead, Option.map_some, (hconsistent.agree first hfirst chunk hchunk).1]

theorem chunks_eq (hconsistent : Consistent datagrams) :
    History.chunks datagrams = datagrams.filterMap chunk? := by
  apply List.filter_eq_self.mpr
  intro chunk hchunk
  rw [decide_eq_true_eq]
  exact hconsistent.total?_eq_some_iff.mpr ⟨chunk, hchunk, rfl⟩

theorem payload?_eq_some_iff (hconsistent : Consistent datagrams) {sequence : UInt32}
    {payload : Bytes} :
    payload? datagrams sequence = some payload ↔
      ∃ chunk ∈ datagrams.filterMap chunk?,
        chunk.sequence = sequence ∧ chunk.payload = payload := by
  rw [← hconsistent.chunks_eq]
  constructor
  · exact exists_chunk_of_payload?
  · intro hexists
    rcases hexists with ⟨chunk, hchunk, rfl, rfl⟩
    rcases exists_payload?_of_mem_chunks hchunk with ⟨first, hfirst, hsequence, hpayload⟩
    rw [hconsistent.chunks_eq] at hchunk hfirst
    rw [hpayload, (hconsistent.agree first hfirst chunk hchunk).2 hsequence]

/-- The length that a history settles with one more chunk is that of the chunk unless an earlier one
has another. -/
theorem total_eq_iff {earlier : List Bytes} (hconsistent : Consistent earlier) {datagram : Bytes}
    {chunk : Chunk} (hchunk : chunk? datagram = some chunk) {total : UInt32}
    (htotal : total? (earlier ++ [datagram]) = some total) :
    chunk.total = total ↔ ∀ other ∈ earlier.filterMap chunk?, other.total = chunk.total := by
  cases hsettled : total? earlier with
  | none =>
      rw [total?_append_chunk hsettled hchunk, Option.some.injEq] at htotal
      simp [htotal, total?_eq_none_iff.mp hsettled]
  | some settled =>
      rw [total?_append hsettled, Option.some.injEq] at htotal
      subst htotal
      constructor
      · intro heq other hother
        have hothers := hconsistent.total?_eq_some_iff.mpr ⟨other, hother, rfl⟩
        rw [hsettled, Option.some.injEq] at hothers
        rw [heq, hothers]
      · intro hothers
        rcases hconsistent.total?_eq_some_iff.mp hsettled with ⟨other, hother, rfl⟩
        exact (hothers other hother).symm

theorem total?_eq_of_same (hconsistent : Consistent datagrams)
    (hsame : ∀ datagram, datagram ∈ others ↔ datagram ∈ datagrams) :
    total? others = total? datagrams := by
  apply Option.ext
  intro total
  rw [(hconsistent.of_same hsame).total?_eq_some_iff, hconsistent.total?_eq_some_iff]
  simp only [mem_filterMap_iff_of_same hsame]

theorem payload?_eq_of_same (hconsistent : Consistent datagrams)
    (hsame : ∀ datagram, datagram ∈ others ↔ datagram ∈ datagrams) :
    payload? others = payload? datagrams := by
  funext sequence
  apply Option.ext
  intro payload
  rw [(hconsistent.of_same hsame).payload?_eq_some_iff, hconsistent.payload?_eq_some_iff]
  simp only [mem_filterMap_iff_of_same hsame]

end Consistent

end History

/-! ## Runs without a refusal -/

namespace Assembly

open History

theorem Reflects.unique {datagrams others : List Bytes} {assembly other : Assembly}
    (hreflects : Reflects datagrams assembly) (hother : Reflects others other)
    (htotal : total? others = total? datagrams)
    (hpayload : payload? others = payload? datagrams) : other = assembly := by
  cases hreflects with
  | closed hnone =>
      cases hother with
      | closed _ => rfl
      | opened hsettled _ =>
          rw [htotal, hnone] at hsettled
          cases hsettled
  | opened hsettled hparts =>
      rcases hother.exists_opened (htotal.trans hsettled) with ⟨parts, hfind, rfl⟩
      rw [Parts.ext_find? (hfind.trans (hpayload.trans hparts.symm))]

/-- A datagram is taken in exactly if its chunk agrees with those that are there. -/
theorem Reflects.push_eq_pending_iff {earlier : List Bytes} {assembly : Assembly}
    (hreflects : Reflects earlier assembly) (hconsistent : Consistent earlier) {datagram : Bytes}
    (hsentinel : datagram ≠ Wire.sentinel) :
    (assembly.push datagram).1 = .ok .pending ↔
      ∃ chunk, chunk? datagram = some chunk ∧
        ∀ other ∈ earlier.filterMap chunk?, other.Agrees chunk := by
  cases hchunk : chunk? datagram with
  | none =>
      rcases push_of_chunk?_eq_none hreflects.finished_eq hsentinel hchunk with ⟨fault, hpush⟩
      simp [hpush]
  | some chunk =>
      rcases chunk?_eq_some_iff.mp hchunk with ⟨hdecode, _⟩
      rcases hreflects.offer hchunk with ⟨total, htotal, next, hoffer, _⟩
      rw [push_of_decode hreflects.finished_eq hsentinel hdecode, hoffer, answer_eq_pending_iff,
        hconsistent.total_eq_iff hchunk htotal]
      simp only [hconsistent.payload?_eq_some_iff, Option.some.injEq, exists_eq_left']
      constructor
      · intro hcases other hother
        exact ⟨hcases.1 other hother, fun hsequence => hcases.2 _ ⟨other, hother, hsequence, rfl⟩⟩
      · intro hagree
        constructor
        · intro other hother
          exact (hagree other hother).1
        · intro first hfirst
          rcases hfirst with ⟨other, hother, hsequence, rfl⟩
          exact (hagree other hother).2 hsequence

theorem forall_error_notMem_answers_iff {datagrams : List Bytes}
    (hsentinel : Wire.sentinel ∉ datagrams) :
    (∀ fault, .error fault ∉ fresh.answers datagrams) ↔ Consistent datagrams := by
  -- From the end, as the last datagram meets an assembly that reflects all the others.
  induction datagrams using List.reverseRecOn with
  | nil =>
      have hconsistent : Consistent [] := by constructor <;> simp
      exact iff_of_true (by simp [answers]) hconsistent
  | append_singleton earlier datagram ih =>
      rw [List.mem_append, List.mem_singleton, not_or] at hsentinel
      have hreflects := Reflects.after earlier hsentinel.1
      have hpush := push_eq_pending_or_error hreflects.finished_eq (Ne.symm hsentinel.2)
      rw [consistent_append_singleton_iff, ← ih hsentinel.1, answers_append]
      simp only [answers, List.mem_append, List.mem_singleton, not_or, forall_and]
      apply and_congr_right
      intro hearlier
      rw [← hreflects.push_eq_pending_iff ((ih hsentinel.1).mp hearlier) (Ne.symm hsentinel.2)]
      rcases hpush with hpending | ⟨fault, hfault⟩
      · simp [hpending]
      · simp [hfault]

end Assembly

/-- Datagrams that a fresh assembly takes without an error, the sentinel not among them, are taken
as well in any other order and with any repetitions, and leave the same state behind.  So as many
pieces are there, and the sentinel is answered alike. -/
theorem same_state_of_same_datagrams {datagrams others : List Bytes}
    (hsentinel : Wire.sentinel ∉ datagrams)
    (haccepted : ∀ fault, .error fault ∉ Assembly.fresh.answers datagrams)
    (hsame : ∀ datagram, datagram ∈ others ↔ datagram ∈ datagrams) :
    let assembly := Assembly.fresh.after datagrams
    let other := Assembly.fresh.after others
    (∀ fault, .error fault ∉ Assembly.fresh.answers others) ∧
      other = assembly ∧ other.received = assembly.received ∧
      (other.push Wire.sentinel).1 = (assembly.push Wire.sentinel).1 := by
  intro assembly other
  have hconsistent : History.Consistent datagrams :=
    (Assembly.forall_error_notMem_answers_iff hsentinel).mp haccepted
  have hothers : Wire.sentinel ∉ others := by rwa [hsame]
  have hstate : other = assembly := by
    apply (Assembly.Reflects.after datagrams hsentinel).unique (.after others hothers)
    · exact hconsistent.total?_eq_of_same hsame
    · exact hconsistent.payload?_eq_of_same hsame
  refine ⟨?_, hstate, by rw [hstate], by rw [hstate]⟩
  exact (Assembly.forall_error_notMem_answers_iff hothers).mpr (hconsistent.of_same hsame)

/-- A response of three bytes in two pieces that are longer than it, and a piece without bytes. -/
theorem same_state_of_three_datagrams :
    let zeroth : Bytes := [0, 0, 0, 0, 0, 0, 0, 3, 6]
    let first : Bytes := [0, 0, 0, 1, 0, 0, 0, 3, 7, 8, 9]
    let second : Bytes := [0, 0, 0, 2, 0, 0, 0, 3]
    let others := [second, first, second, zeroth, first]
    Assembly.fresh.after others = Assembly.fresh.after [zeroth, first, second] ∧
      (∀ fault, .error fault ∉ Assembly.fresh.answers others) ∧
      ((Assembly.fresh.after others).push Wire.sentinel).1 = .ok (.complete [6, 7, 8]) := by
  intro zeroth first second others
  have haccepted : Assembly.fresh.answers [zeroth, first, second] =
      List.replicate 3 (.ok .pending) := by decide
  have hsame : ∀ datagram, datagram ∈ others ↔ datagram ∈ [zeroth, first, second] := by
    intro datagram
    simp only [others, List.mem_cons, List.not_mem_nil]
    tauto
  rcases @same_state_of_same_datagrams [zeroth, first, second] others (by decide)
    (by simp [haccepted]) hsame with ⟨hothers, hstate, _, hanswer⟩
  exact ⟨hstate, hothers, hanswer.trans (by decide)⟩

-- Of two payloads under one number the first is kept, so that the order matters.
example :
    let six : Bytes := [0, 0, 0, 0, 0, 0, 0, 1, 6]
    let seven : Bytes := [0, 0, 0, 0, 0, 0, 0, 1, 7]
    Assembly.fresh.after [six, seven] ≠ Assembly.fresh.after [seven, six] := by decide

end DatagramShell
