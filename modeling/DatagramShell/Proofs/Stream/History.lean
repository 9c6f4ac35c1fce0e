import DatagramShell.Proofs.Stream.Loss
import Mathlib.Tactic

/-!
# What an assembly makes of any history

The datagrams need not come from one stream, nor from a service at all.  The first chunk whose
length a response may have settles the length; from then on only chunks of that length are taken in,
and of the payloads under one number only the first.  All this can be read off the list of datagrams
without the state of the assembly, and every answer with it.
-/

namespace DatagramShell

namespace History

/-- The chunk in a datagram, if a response may have the length that it declares. -/
def chunk? (datagram : Bytes) : Option Chunk :=
  match Chunk.decode datagram with
  | .error _ => none
  | .ok chunk => if chunk.total.toNat ≤ Wire.maxResponseLength then some chunk else none

/-- The length that the datagrams settle, once one of them has an admissible one. -/
def total? (datagrams : List Bytes) : Option UInt32 :=
  (datagrams.filterMap chunk?).head?.map Chunk.total

/-- The chunks of the settled length, in the order they came. -/
def chunks (datagrams : List Bytes) : List Chunk :=
  (datagrams.filterMap chunk?).filter fun chunk => total? datagrams = some chunk.total

/-- The payload that came first under a number. -/
def payload? (datagrams : List Bytes) (sequence : UInt32) : Option Bytes :=
  ((chunks datagrams).find? fun chunk => chunk.sequence = sequence).map Chunk.payload

def places (datagrams : List Bytes) : Finset ℕ :=
  ((chunks datagrams).map fun chunk => chunk.sequence.toNat).toFinset

/-- The first payloads under the numbers below `count`, one after the other. -/
def joined (datagrams : List Bytes) (count : ℕ) : Bytes :=
  (List.range count).flatMap fun place => (payload? datagrams (UInt32.ofNat place)).getD []

/-- The answer to a chunk of admissible length behind some datagrams, in a history that settles
`total`. -/
def answer (total : UInt32) (earlier : List Bytes) (chunk : Chunk) :
    Except AssemblyError Progress :=
  if chunk.total ≠ total then .error (.lengthMismatch chunk.sequence chunk.total total)
  else if ∃ first ∈ payload? earlier chunk.sequence, first ≠ chunk.payload then
    .error (.conflictingDuplicate chunk.sequence)
  else .ok .pending

theorem answer_eq_pending_iff {total : UInt32} {earlier : List Bytes} {chunk : Chunk} :
    answer total earlier chunk = .ok .pending ↔
      chunk.total = total ∧
        ∀ first, payload? earlier chunk.sequence = some first → first = chunk.payload := by
  by_cases htotal : chunk.total = total
  · simp [answer, htotal]
  · simp [answer, htotal]

theorem chunk?_eq_some_iff {datagram : Bytes} {chunk : Chunk} :
    chunk? datagram = some chunk ↔
      Chunk.decode datagram = .ok chunk ∧ chunk.total.toNat ≤ Wire.maxResponseLength := by
  unfold chunk?
  cases hdecode : Chunk.decode datagram with
  | error cause => simp
  | ok decoded =>
      by_cases hfits : decoded.total.toNat ≤ Wire.maxResponseLength
      · simp only [if_pos hfits, Option.some.injEq, Except.ok.injEq]
        constructor
        · rintro rfl
          exact ⟨rfl, hfits⟩
        · exact And.left
      · simp only [if_neg hfits, Except.ok.injEq, reduceCtorEq, false_iff, not_and]
        rintro rfl
        exact hfits

/-! ## One more datagram -/

theorem total?_eq_none_iff {datagrams : List Bytes} :
    total? datagrams = none ↔ datagrams.filterMap chunk? = [] := by
  simp [total?]

theorem total?_append {earlier : List Bytes} {total : UInt32} (htotal : total? earlier = some total)
    (later : List Bytes) : total? (earlier ++ later) = some total := by
  unfold total? at htotal ⊢
  rw [List.filterMap_append, List.head?_append]
  rcases Option.map_eq_some_iff.mp htotal with ⟨chunk, hhead, hchunk⟩
  simp [hhead, hchunk]

theorem total?_append_chunk {earlier : List Bytes} (hnone : total? earlier = none)
    {datagram : Bytes} {chunk : Chunk} (hchunk : chunk? datagram = some chunk) :
    total? (earlier ++ [datagram]) = some chunk.total := by
  rw [total?_eq_none_iff] at hnone
  simp [total?, hnone, hchunk]

theorem chunks_of_total?_eq_none {datagrams : List Bytes} (hnone : total? datagrams = none) :
    chunks datagrams = [] := by
  rw [chunks, total?_eq_none_iff.mp hnone, List.filter_nil]

theorem total?_append_of_none {earlier : List Bytes} {datagram : Bytes}
    (hchunk : chunk? datagram = none) : total? (earlier ++ [datagram]) = total? earlier := by
  simp [total?, hchunk]

theorem chunks_append_singleton (earlier : List Bytes) (datagram : Bytes) :
    chunks (earlier ++ [datagram]) =
      chunks earlier ++ (chunk? datagram).toList.filter fun chunk =>
        total? (earlier ++ [datagram]) = some chunk.total := by
  have hearlier : ((earlier.filterMap chunk?).filter fun chunk =>
      total? (earlier ++ [datagram]) = some chunk.total) = chunks earlier := by
    cases htotal : total? earlier with
    | none => rw [chunks_of_total?_eq_none htotal, total?_eq_none_iff.mp htotal, List.filter_nil]
    | some total => rw [chunks, htotal, total?_append htotal]
  rw [← hearlier]
  cases hchunk : chunk? datagram <;> simp [chunks, hchunk]

theorem payload?_append_of_ignored {earlier : List Bytes} {datagram : Bytes}
    (hignored : ∀ chunk, chunk? datagram = some chunk →
      total? (earlier ++ [datagram]) ≠ some chunk.total) :
    payload? (earlier ++ [datagram]) = payload? earlier := by
  have hchunks : chunks (earlier ++ [datagram]) = chunks earlier := by
    rw [chunks_append_singleton]
    cases hchunk : chunk? datagram with
    | none => simp
    | some chunk => simp [hignored chunk hchunk]
  funext sequence
  rw [payload?, payload?, hchunks]

theorem payload?_append_of_taken {earlier : List Bytes} {datagram : Bytes} {chunk : Chunk}
    (hchunk : chunk? datagram = some chunk)
    (htotal : total? (earlier ++ [datagram]) = some chunk.total) (sequence : UInt32) :
    payload? (earlier ++ [datagram]) sequence =
      (payload? earlier sequence).or
        (if sequence = chunk.sequence then some chunk.payload else none) := by
  have hchunks : chunks (earlier ++ [datagram]) = chunks earlier ++ [chunk] := by
    rw [chunks_append_singleton, hchunk, htotal]
    simp
  rw [payload?, hchunks, List.find?_append, Option.map_or, payload?]
  by_cases hsame : sequence = chunk.sequence
  · simp [hsame]
  · simp [hsame, Ne.symm hsame]

theorem payload?_append_of_new {earlier : List Bytes} {datagram : Bytes} {chunk : Chunk}
    (hchunk : chunk? datagram = some chunk)
    (htotal : total? (earlier ++ [datagram]) = some chunk.total)
    (hfree : payload? earlier chunk.sequence = none) (sequence : UInt32) :
    payload? (earlier ++ [datagram]) sequence =
      if sequence = chunk.sequence then some chunk.payload else payload? earlier sequence := by
  rw [payload?_append_of_taken hchunk htotal]
  by_cases hsame : sequence = chunk.sequence
  · simp [hsame, hfree]
  · simp [hsame]

/-- The payload that came first under a number stays the first one. -/
theorem payload?_append_of_again {earlier : List Bytes} {datagram first : Bytes} {chunk : Chunk}
    (hchunk : chunk? datagram = some chunk)
    (htotal : total? (earlier ++ [datagram]) = some chunk.total)
    (hfirst : payload? earlier chunk.sequence = some first) :
    payload? (earlier ++ [datagram]) = payload? earlier := by
  funext sequence
  rw [payload?_append_of_taken hchunk htotal]
  by_cases hsame : sequence = chunk.sequence
  · simp [hsame, hfirst]
  · simp [hsame]

theorem exists_chunk_of_payload? {datagrams : List Bytes} {sequence : UInt32} {payload : Bytes}
    (hpayload : payload? datagrams sequence = some payload) :
    ∃ chunk ∈ chunks datagrams, chunk.sequence = sequence ∧ chunk.payload = payload := by
  rcases Option.map_eq_some_iff.mp hpayload with ⟨chunk, hfound, hchunk⟩
  have hsequence : chunk.sequence = sequence := by simpa using List.find?_some hfound
  exact ⟨chunk, List.mem_of_find?_eq_some hfound, hsequence, hchunk⟩

theorem exists_payload?_of_mem_chunks {datagrams : List Bytes} {chunk : Chunk}
    (hchunk : chunk ∈ chunks datagrams) :
    ∃ first ∈ chunks datagrams, first.sequence = chunk.sequence ∧
      payload? datagrams chunk.sequence = some first.payload := by
  have hsome : ((chunks datagrams).find? fun other =>
      other.sequence = chunk.sequence).isSome := by
    rw [List.find?_isSome]
    exact ⟨chunk, hchunk, by simp⟩
  rcases Option.isSome_iff_exists.mp hsome with ⟨first, hfound⟩
  have hsequence : first.sequence = chunk.sequence := by simpa using List.find?_some hfound
  refine ⟨first, List.mem_of_find?_eq_some hfound, hsequence, ?_⟩
  rw [payload?, hfound, Option.map_some]

theorem mem_places_iff {datagrams : List Bytes} {number : ℕ} :
    number ∈ places datagrams ↔
      ∃ sequence payload, payload? datagrams sequence = some payload ∧
        sequence.toNat = number := by
  rw [places, List.mem_toFinset, List.mem_map]
  constructor
  · intro hexists
    rcases hexists with ⟨chunk, hchunk, rfl⟩
    rcases exists_payload?_of_mem_chunks hchunk with ⟨first, _, _, hpayload⟩
    exact ⟨chunk.sequence, first.payload, hpayload, rfl⟩
  · intro hexists
    rcases hexists with ⟨sequence, payload, hpayload, rfl⟩
    rcases exists_chunk_of_payload? hpayload with ⟨chunk, hchunk, hsequence, _⟩
    exact ⟨chunk, hchunk, by rw [hsequence]⟩

end History

/-! ## The state of an assembly behind a history -/

namespace Assembly

open History

theorem after_append (assembly : Assembly) (front behind : List Bytes) :
    assembly.after (front ++ behind) = (assembly.after front).after behind := by
  induction front generalizing assembly with
  | nil => rfl
  | cons datagram front ih => exact ih _

def offer (assembly : Assembly) (chunk : Chunk) : Except AssemblyError Progress × Assembly :=
  match assembly.store chunk with
  | .error fault => (.error fault, assembly)
  | .ok next => (.ok .pending, next)

section Push

variable {assembly : Assembly} {datagram : Bytes}

theorem push_of_decode_error {cause : Chunk.DecodeError} (hopen : assembly.finished = false)
    (hsentinel : datagram ≠ Wire.sentinel) (hdecode : Chunk.decode datagram = .error cause) :
    assembly.push datagram = (.error (.undecodable cause), assembly) := by
  have hnot : Wire.isSentinel datagram = false := beq_false_of_ne hsentinel
  simp only [push, hopen, hnot, hdecode, Bool.false_eq_true, if_false]

theorem push_of_decode {chunk : Chunk} (hopen : assembly.finished = false)
    (hsentinel : datagram ≠ Wire.sentinel) (hdecode : Chunk.decode datagram = .ok chunk) :
    assembly.push datagram = assembly.offer chunk := by
  have hnot : Wire.isSentinel datagram = false := beq_false_of_ne hsentinel
  simp only [push, hopen, hnot, hdecode, Bool.false_eq_true, if_false]
  rfl

theorem offer_of_tooLarge {chunk : Chunk}
    (hlarge : Wire.maxResponseLength < chunk.total.toNat) :
    assembly.offer chunk = (.error (.tooLarge chunk.total), assembly) := by
  rw [offer, store, if_pos hlarge]

/-- Only the sentinel completes anything. -/
theorem push_eq_pending_or_error (hopen : assembly.finished = false)
    (hsentinel : datagram ≠ Wire.sentinel) :
    (assembly.push datagram).1 = .ok .pending ∨
      ∃ fault, (assembly.push datagram).1 = .error fault := by
  cases hdecode : Chunk.decode datagram with
  | error cause => exact .inr ⟨_, by rw [push_of_decode_error hopen hsentinel hdecode]⟩
  | ok chunk =>
      rw [push_of_decode hopen hsentinel hdecode, offer]
      cases assembly.store chunk <;> simp

theorem push_of_chunk?_eq_none (hopen : assembly.finished = false)
    (hsentinel : datagram ≠ Wire.sentinel) (hchunk : chunk? datagram = none) :
    ∃ fault, assembly.push datagram = (.error fault, assembly) := by
  cases hdecode : Chunk.decode datagram with
  | error cause => exact ⟨_, push_of_decode_error hopen hsentinel hdecode⟩
  | ok chunk =>
      have hlarge : Wire.maxResponseLength < chunk.total.toNat := by
        rw [← Nat.not_le]
        intro hfits
        rw [chunk?_eq_some_iff.mpr ⟨hdecode, hfits⟩] at hchunk
        cases hchunk
      rw [push_of_decode hopen hsentinel hdecode, offer_of_tooLarge hlarge]
      exact ⟨_, rfl⟩

end Push

/-- The assembly holds the settled length and the first payload under each number. -/
inductive Reflects (datagrams : List Bytes) : Assembly → Prop
  | closed (hnone : total? datagrams = none) : Reflects datagrams .fresh
  | opened {total : UInt32} {parts : Parts} (htotal : total? datagrams = some total)
      (hparts : parts.find? = payload? datagrams) :
      Reflects datagrams ⟨some (total, parts), false⟩

namespace Reflects

variable {datagrams : List Bytes} {assembly : Assembly} {datagram : Bytes} {chunk : Chunk}
variable {total : UInt32} {parts : Parts}

theorem finished_eq (hreflects : Reflects datagrams assembly) : assembly.finished = false := by
  cases hreflects <;> rfl

theorem ignore (hreflects : Reflects datagrams assembly) (hchunk : chunk? datagram = none) :
    Reflects (datagrams ++ [datagram]) assembly := by
  have htotals : total? (datagrams ++ [datagram]) = total? datagrams :=
    total?_append_of_none hchunk
  cases hreflects with
  | closed hnone => exact .closed (htotals.trans hnone)
  | opened htotal hparts =>
      refine .opened (htotals.trans htotal) (hparts.trans (payload?_append_of_ignored ?_).symm)
      intro chunk hsome
      rw [hchunk] at hsome
      cases hsome

theorem offer_first (hnone : total? datagrams = none) (hchunk : chunk? datagram = some chunk) :
    ∃ next, Assembly.fresh.offer chunk = (answer chunk.total datagrams chunk, next) ∧
      Reflects (datagrams ++ [datagram]) next := by
  obtain ⟨_, hfits⟩ := chunk?_eq_some_iff.mp hchunk
  have htotal := total?_append_chunk hnone hchunk
  have hempty : ∀ sequence, payload? datagrams sequence = none := by
    intro sequence
    rw [payload?, chunks_of_total?_eq_none hnone]
    rfl
  refine ⟨⟨some (chunk.total, Parts.empty.insert chunk.sequence chunk.payload), false⟩, ?_,
    .opened htotal ?_⟩
  · simp [offer, Assembly.store, fresh, Nat.not_lt.mpr hfits, answer, hempty]
  · funext sequence
    rw [Parts.find?_insert, payload?_append_of_new hchunk htotal (hempty _), hempty,
      Parts.find?_empty]

theorem offer_new (hparts : parts.find? = payload? datagrams)
    (hsettled : total? (datagrams ++ [datagram]) = some chunk.total)
    (hchunk : chunk? datagram = some chunk) (hfound : parts.find? chunk.sequence = none) :
    ∃ next, offer ⟨some (chunk.total, parts), false⟩ chunk =
        (answer chunk.total datagrams chunk, next) ∧
      Reflects (datagrams ++ [datagram]) next := by
  obtain ⟨_, hfits⟩ := chunk?_eq_some_iff.mp hchunk
  have hfree : payload? datagrams chunk.sequence = none := by rw [← hparts, hfound]
  refine ⟨⟨some (chunk.total, parts.insert chunk.sequence chunk.payload), false⟩, ?_,
    .opened hsettled ?_⟩
  · simp [offer, Assembly.store, Nat.not_lt.mpr hfits, hfound, answer, hfree]
  · funext sequence
    rw [Parts.find?_insert, payload?_append_of_new hchunk hsettled hfree, hparts]

theorem offer_again {payload : Bytes} (hparts : parts.find? = payload? datagrams)
    (hsettled : total? (datagrams ++ [datagram]) = some chunk.total)
    (hchunk : chunk? datagram = some chunk) (hfound : parts.find? chunk.sequence = some payload) :
    offer ⟨some (chunk.total, parts), false⟩ chunk =
        (answer chunk.total datagrams chunk, ⟨some (chunk.total, parts), false⟩) ∧
      Reflects (datagrams ++ [datagram]) ⟨some (chunk.total, parts), false⟩ := by
  obtain ⟨_, hfits⟩ := chunk?_eq_some_iff.mp hchunk
  have hfirst : payload? datagrams chunk.sequence = some payload := by rw [← hparts, hfound]
  constructor
  · by_cases hpayload : payload = chunk.payload
    · simp [offer, Assembly.store, Nat.not_lt.mpr hfits, hfound, answer, hfirst, hpayload]
    · simp [offer, Assembly.store, Nat.not_lt.mpr hfits, hfound, answer, hfirst, hpayload]
  · apply Reflects.opened hsettled
    rw [hparts, payload?_append_of_again hchunk hsettled hfirst]

theorem offer_other (hparts : parts.find? = payload? datagrams)
    (hsettled : total? (datagrams ++ [datagram]) = some total)
    (hchunk : chunk? datagram = some chunk) (hother : chunk.total ≠ total) :
    offer ⟨some (total, parts), false⟩ chunk =
        (answer total datagrams chunk, ⟨some (total, parts), false⟩) ∧
      Reflects (datagrams ++ [datagram]) ⟨some (total, parts), false⟩ := by
  obtain ⟨_, hfits⟩ := chunk?_eq_some_iff.mp hchunk
  constructor
  · simp [offer, Assembly.store, Nat.not_lt.mpr hfits, answer, hother]
  · apply Reflects.opened hsettled
    rw [hparts, payload?_append_of_ignored]
    intro same hsame
    rw [hchunk, Option.some.injEq] at hsame
    rw [← hsame, hsettled, ne_eq, Option.some.injEq]
    exact Ne.symm hother

/-- The answer to a chunk of admissible length is a matter of the history in front of it, and the
assembly reflects the longer history. -/
theorem offer (hreflects : Reflects datagrams assembly) (hchunk : chunk? datagram = some chunk) :
    ∃ total, total? (datagrams ++ [datagram]) = some total ∧
      ∃ next, assembly.offer chunk = (answer total datagrams chunk, next) ∧
        Reflects (datagrams ++ [datagram]) next := by
  cases hreflects with
  | closed hnone => exact ⟨chunk.total, total?_append_chunk hnone hchunk, offer_first hnone hchunk⟩
  | @opened total parts htotal hparts =>
      have hsettled := total?_append htotal [datagram]
      refine ⟨total, hsettled, ?_⟩
      by_cases hother : chunk.total = total
      · subst hother
        cases hfound : parts.find? chunk.sequence with
        | none => exact offer_new hparts hsettled hchunk hfound
        | some payload => exact ⟨_, offer_again hparts hsettled hchunk hfound⟩
      · exact ⟨_, offer_other hparts hsettled hchunk hother⟩

theorem push (hreflects : Reflects datagrams assembly) (hsentinel : datagram ≠ Wire.sentinel) :
    Reflects (datagrams ++ [datagram]) (assembly.push datagram).2 := by
  cases hchunk : chunk? datagram with
  | none =>
      rcases push_of_chunk?_eq_none hreflects.finished_eq hsentinel hchunk with ⟨fault, hpush⟩
      rw [hpush]
      exact hreflects.ignore hchunk
  | some chunk =>
      rcases chunk?_eq_some_iff.mp hchunk with ⟨hdecode, _⟩
      rcases hreflects.offer hchunk with ⟨_, _, next, hoffer, hnext⟩
      rw [push_of_decode hreflects.finished_eq hsentinel hdecode, hoffer]
      exact hnext

theorem after (datagrams : List Bytes) (hsentinel : Wire.sentinel ∉ datagrams) :
    Reflects datagrams (Assembly.fresh.after datagrams) := by
  induction datagrams using List.reverseRecOn with
  | nil => exact .closed rfl
  | append_singleton datagrams datagram ih =>
      rw [List.mem_append, List.mem_singleton, not_or] at hsentinel
      rw [after_append]
      exact (ih hsentinel.1).push (Ne.symm hsentinel.2)

/-! ## The end of the history -/

theorem response_of_closed (hreflects : Reflects datagrams assembly)
    (hnone : total? datagrams = none) : assembly.response = .error .empty := by
  cases hreflects with
  | closed _ => rfl
  | opened htotal _ =>
      rw [hnone] at htotal
      cases htotal

theorem exists_opened (hreflects : Reflects datagrams assembly)
    (htotal : total? datagrams = some total) :
    ∃ parts, parts.find? = payload? datagrams ∧ assembly = ⟨some (total, parts), false⟩ := by
  cases hreflects with
  | closed hnone =>
      rw [hnone] at htotal
      cases htotal
  | @opened held parts hheld hparts =>
      rw [hheld, Option.some.injEq] at htotal
      subst htotal
      exact ⟨parts, hparts, rfl⟩

theorem keys_eq (hparts : parts.find? = payload? datagrams) : parts.keys = places datagrams := by
  ext number
  simp only [Parts.mem_keys_iff_find?, mem_places_iff, hparts]

theorem received_eq (hreflects : Reflects datagrams assembly) :
    assembly.received = (places datagrams).card := by
  cases hreflects with
  | closed hnone =>
      rw [places, chunks_of_total?_eq_none hnone]
      rfl
  | opened htotal hparts =>
      rw [← keys_eq hparts, Parts.card_keys]
      rfl

theorem joined_eq (hparts : parts.find? = payload? datagrams) {count : ℕ}
    (hplaces : places datagrams = Finset.range count) : parts.joined = joined datagrams count := by
  have hkeys : parts.keys = Finset.range count := (keys_eq hparts).trans hplaces
  have hsize : parts.size = count := by rw [← Parts.card_keys, hkeys, Finset.card_range]
  have hgap : parts.firstGap = none := by rw [Parts.firstGap_eq_none_iff, hkeys, hsize]
  have hrow : parts.FromRow ((List.range count).map fun place =>
      (payload? datagrams (UInt32.ofNat place)).getD []) := by
    intro entry hentry
    have hnumber : entry.1.toNat < count := by
      rw [← Finset.mem_range, ← hkeys, Parts.mem_keys_iff]
      exact ⟨entry, hentry, rfl⟩
    have hpayload : payload? datagrams entry.1 = some entry.2 := by
      rw [← hparts, Parts.find?_eq_some_iff]
      exact hentry
    rw [List.getElem?_map, List.getElem?_range hnumber, Option.map_some, UInt32.ofNat_toNat,
      hpayload, Option.getD_some]
  rw [hrow.joined hgap, hsize, List.take_of_length_le (by simp), joined, List.flatMap_def]

theorem response_of_segment (hreflects : Reflects datagrams assembly)
    (htotal : total? datagrams = some total) {count : ℕ}
    (hplaces : places datagrams = Finset.range count) :
    assembly.response =
      if (joined datagrams count).length < total.toNat then
        .error (.short (joined datagrams count).length total.toNat)
      else .ok ((joined datagrams count).take total.toNat) := by
  obtain ⟨parts, hparts, rfl⟩ := hreflects.exists_opened htotal
  have hgap : parts.firstGap = none := by
    rw [Parts.firstGap_eq_none_iff, ← Parts.card_keys, keys_eq hparts, hplaces, Finset.card_range]
  simp only [response, join, hgap, joined_eq hparts hplaces]

theorem response_of_gap (hreflects : Reflects datagrams assembly)
    (htotal : total? datagrams = some total)
    (hplaces : ∀ count, places datagrams ≠ Finset.range count) :
    ∃ gap, IsLeast {number | number ∉ places datagrams} gap ∧
      assembly.response = .error (.missingChunk gap) := by
  obtain ⟨parts, hparts, rfl⟩ := hreflects.exists_opened htotal
  have hkeys : parts.keys = places datagrams := keys_eq hparts
  cases hgap : parts.firstGap with
  | none => exact absurd (hkeys.symm.trans (Parts.firstGap_eq_none_iff.mp hgap)) (hplaces _)
  | some gap =>
      obtain ⟨habsent, hbelow, _⟩ := Parts.firstGap_eq_some hgap
      rw [hkeys] at habsent hbelow
      refine ⟨gap, ⟨habsent, ?_⟩, by simp only [response, join, hgap]⟩
      intro number hnumber
      by_contra hlt
      exact hnumber (hbelow number (Nat.lt_of_not_le hlt))

end Reflects

end Assembly

/-- Whatever datagrams are pushed, as long as the sentinel is not among them: each answer is a
matter of the datagrams in front and of the length that the whole history settles, the number of
payloads is that of the places taken, and the sentinel's answer goes by these places and by the
first payload at each of them. -/
theorem answers_of_history (datagrams : List Bytes) (hsentinel : Wire.sentinel ∉ datagrams) :
    let assembly := Assembly.fresh.after datagrams
    let closing := (assembly.push Wire.sentinel).1
    (∀ earlier datagram later, datagrams = earlier ++ datagram :: later →
      let answer := ((Assembly.fresh.after earlier).push datagram).1
      (∀ cause, Chunk.decode datagram = .error cause → answer = .error (.undecodable cause)) ∧
        ∀ chunk, Chunk.decode datagram = .ok chunk →
          (Wire.maxResponseLength < chunk.total.toNat →
            answer = .error (.tooLarge chunk.total)) ∧
          (chunk.total.toNat ≤ Wire.maxResponseLength →
            ∃ total, History.total? datagrams = some total ∧
              answer = History.answer total earlier chunk)) ∧
      assembly.received = (History.places datagrams).card ∧
      (History.total? datagrams = none → closing = .error .empty) ∧
      ∀ total, History.total? datagrams = some total →
        (∀ count, History.places datagrams = Finset.range count →
          let joined := History.joined datagrams count
          closing = if joined.length < total.toNat then .error (.short joined.length total.toNat)
            else .ok (.complete (joined.take total.toNat))) ∧
        ((∀ count, History.places datagrams ≠ Finset.range count) →
          ∃ gap, IsLeast {number | number ∉ History.places datagrams} gap ∧
            closing = .error (.missingChunk gap)) := by
  intro assembly closing
  have hreflects : Assembly.Reflects datagrams assembly := .after datagrams hsentinel
  have hclosing : closing = assembly.response.map .complete :=
    congrArg Prod.fst (Assembly.push_sentinel hreflects.finished_eq)
  refine ⟨?_, hreflects.received_eq, ?_, ?_⟩
  · intro earlier datagram later hdatagrams answer
    subst hdatagrams
    rw [List.mem_append, List.mem_cons, not_or, not_or] at hsentinel
    have hearlier := Assembly.Reflects.after earlier hsentinel.1
    have hnot : datagram ≠ Wire.sentinel := Ne.symm hsentinel.2.1
    refine ⟨?_, fun chunk hdecode => ⟨?_, ?_⟩⟩
    · intro cause hdecode
      exact congrArg Prod.fst (Assembly.push_of_decode_error hearlier.finished_eq hnot hdecode)
    · intro hlarge
      have hpush := Assembly.push_of_decode hearlier.finished_eq hnot hdecode
      rw [Assembly.offer_of_tooLarge hlarge] at hpush
      exact congrArg Prod.fst hpush
    · intro hfits
      obtain ⟨total, htotal, next, hoffer, _⟩ :=
        hearlier.offer (History.chunk?_eq_some_iff.mpr ⟨hdecode, hfits⟩)
      have hpush := Assembly.push_of_decode hearlier.finished_eq hnot hdecode
      rw [hoffer] at hpush
      refine ⟨total, ?_, congrArg Prod.fst hpush⟩
      rw [List.append_cons]
      exact History.total?_append htotal later
  · intro hnone
    rw [hclosing, hreflects.response_of_closed hnone]
    rfl
  · intro total htotal
    refine ⟨?_, ?_⟩
    · intro count hplaces joined
      rw [hclosing, hreflects.response_of_segment htotal hplaces]
      split <;> rfl
    · intro hplaces
      obtain ⟨gap, hleast, hresponse⟩ := hreflects.response_of_gap htotal hplaces
      exact ⟨gap, hleast, by rw [hclosing, hresponse]; rfl⟩

/-- A datagram that is too short, one that declares too much, and then two payloads for place 1 of a
response of three bytes, a chunk of another length in between. -/
theorem answers_of_hostile_history :
    let first : Bytes := [0, 0, 0, 1, 0, 0, 0, 3, 7, 8, 9]
    let other : Bytes := [0, 0, 0, 0, 0, 0, 0, 4, 5]
    let second : Bytes := [0, 0, 0, 1, 0, 0, 0, 3, 7]
    let earlier : List Bytes := [[1, 2], [0, 0, 0, 0, 255, 0, 0, 0, 9], first]
    let datagrams := earlier ++ [other, second, [0, 0, 0, 0, 0, 0, 0, 3, 6]]
    let answer := fun before datagram => ((Assembly.fresh.after before).push datagram).1
    Wire.sentinel ∉ datagrams ∧
      answer earlier other = .error (.lengthMismatch 0 4 3) ∧
      answer (earlier ++ [other]) second = .error (.conflictingDuplicate 1) ∧
      answer datagrams Wire.sentinel = .ok (.complete [6, 7, 8]) := by
  intro first other second earlier datagrams answer
  have hsentinel : Wire.sentinel ∉ datagrams := by decide
  have htotal : History.total? datagrams = some 3 := by decide
  obtain ⟨hanswers, _, _, hclosing⟩ := answers_of_history datagrams hsentinel
  obtain ⟨_, hother⟩ := hanswers earlier other _ rfl
  obtain ⟨_, hsecond⟩ := hanswers (earlier ++ [other]) second _ rfl
  refine ⟨hsentinel, ?_, ?_, ?_⟩
  · obtain ⟨total, hsettled, hanswer⟩ := (hother ⟨0, 4, [5]⟩ (by decide)).2 (by decide)
    rw [htotal, Option.some.injEq] at hsettled
    subst hsettled
    exact hanswer.trans (by decide)
  · obtain ⟨total, hsettled, hanswer⟩ := (hsecond ⟨1, 3, [7]⟩ (by decide)).2 (by decide)
    rw [htotal, Option.some.injEq] at hsettled
    subst hsettled
    exact hanswer.trans (by decide)
  · exact ((hclosing 3 htotal).1 2 (by decide)).trans (by decide)

end DatagramShell
