import DatagramShell.Stream.Assembly
import Mathlib.Tactic

/-!
# Chunks on the wire

Reading takes a written chunk back, as long as its payload fits into a datagram.  The numbers have a
fixed width, so a datagram is written for one chunk only, and every datagram that has room for a
header is written for some chunk.  The sentinel has the length of a bare header; read as one, it
declares more bytes than a response may have, and so no chunk of a response is ever taken for the
end of its stream.
-/

namespace DatagramShell

namespace Bytes

theorem ofWord_injective : Function.Injective ofWord := by
  intro word other heq
  simp only [ofWord, List.cons.injEq, and_true] at heq
  rw [← toWord_ofWord word, ← toWord_ofWord other, heq.1, heq.2.1, heq.2.2.1, heq.2.2.2]

theorem exists_ofWord_eq {bytes : Bytes} (hlength : bytes.length = 4) :
    ∃ word, ofWord word = bytes := by
  rcases List.length_eq_four.mp hlength with ⟨first, second, third, fourth, rfl⟩
  exact ⟨toWord first second third fourth, ofWord_toWord first second third fourth⟩

end Bytes

namespace Chunk

theorem length_encode (chunk : Chunk) : chunk.encode.length = 8 + chunk.payload.length := by
  simp only [encode, List.length_append, Bytes.length_ofWord]
  omega

theorem encode_injective : Function.Injective encode := by
  intro chunk other heq
  rcases List.append_inj heq rfl with ⟨hsequence, hrest⟩
  rcases List.append_inj hrest rfl with ⟨htotal, hpayload⟩
  cases chunk
  cases other
  simp only [mk.injEq]
  exact ⟨Bytes.ofWord_injective hsequence, Bytes.ofWord_injective htotal, hpayload⟩

theorem exists_encode_eq {datagram : Bytes} (hheader : 8 ≤ datagram.length) :
    ∃ chunk : Chunk, chunk.encode = datagram := by
  have hsequence : (datagram.take 4).length = 4 := by
    rw [List.length_take]
    omega
  have htotal : ((datagram.drop 4).take 4).length = 4 := by
    rw [List.length_take, List.length_drop]
    omega
  rcases Bytes.exists_ofWord_eq hsequence with ⟨sequence, heqSequence⟩
  rcases Bytes.exists_ofWord_eq htotal with ⟨total, heqTotal⟩
  refine ⟨⟨sequence, total, (datagram.drop 4).drop 4⟩, ?_⟩
  rw [encode, heqSequence, heqTotal, List.take_append_drop, List.take_append_drop]

theorem decode_encode_eq_ite (chunk : Chunk) :
    decode chunk.encode =
      if chunk.payload.length ≤ Wire.maxPayloadLength then .ok chunk
      else .error (.payloadTooLarge chunk.payload.length) := by
  simp only [encode, Bytes.ofWord, List.cons_append, List.nil_append, decode, Bytes.toWord_ofWord]

theorem decode_encode {chunk : Chunk} (hfits : chunk.payload.length ≤ Wire.maxPayloadLength) :
    decode chunk.encode = .ok chunk := by
  rw [decode_encode_eq_ite, if_pos hfits]

theorem decode_of_length_lt {datagram : Bytes} (hshort : datagram.length < 8) :
    decode datagram = .error (.truncated datagram.length) := by
  unfold decode
  split
  · simp only [List.length_cons] at hshort
    omega
  · rfl

theorem decode_of_lt_length {datagram : Bytes}
    (hlong : 8 + Wire.maxPayloadLength < datagram.length) :
    decode datagram = .error (.payloadTooLarge (datagram.length - 8)) := by
  have hheader : 8 ≤ datagram.length := by omega
  rcases exists_encode_eq hheader with ⟨chunk, rfl⟩
  rw [length_encode] at hlong ⊢
  rw [decode_encode_eq_ite, if_neg (by omega), Nat.add_sub_cancel_left]

theorem decode_eq_ok_iff {datagram : Bytes} {chunk : Chunk} :
    decode datagram = .ok chunk ↔
      chunk.encode = datagram ∧ chunk.payload.length ≤ Wire.maxPayloadLength := by
  constructor
  · intro hdecode
    have hheader : 8 ≤ datagram.length := by
      by_contra hshort
      rw [decode_of_length_lt (Nat.lt_of_not_le hshort)] at hdecode
      cases hdecode
    rcases exists_encode_eq hheader with ⟨written, rfl⟩
    rw [decode_encode_eq_ite] at hdecode
    split at hdecode
    · next hfits =>
        cases hdecode
        exact ⟨rfl, hfits⟩
    · cases hdecode
  · intro hwritten
    rcases hwritten with ⟨rfl, hfits⟩
    exact decode_encode hfits

theorem exists_decode_eq_ok_iff {datagram : Bytes} :
    (∃ chunk, decode datagram = .ok chunk) ↔
      8 ≤ datagram.length ∧ datagram.length ≤ 8 + Wire.maxPayloadLength := by
  constructor
  · intro hexists
    rcases hexists with ⟨chunk, hdecode⟩
    rcases decode_eq_ok_iff.mp hdecode with ⟨rfl, hfits⟩
    rw [length_encode]
    omega
  · intro hlength
    rcases exists_encode_eq hlength.1 with ⟨chunk, rfl⟩
    rw [length_encode] at hlength
    exact ⟨chunk, decode_encode (by omega)⟩

/-- A chunk written like the sentinel would declare a length that no response has. -/
theorem max_lt_total_of_encode_eq_sentinel {chunk : Chunk}
    (heq : chunk.encode = Wire.sentinel) : Wire.maxResponseLength < chunk.total.toNat := by
  -- The second half of the sentinel stands where a chunk has its length.
  have hsentinel : Wire.sentinel = Bytes.ofWord 0x66696e69 ++ (Bytes.ofWord 0x73686564 ++ []) := by
    decide
  rw [hsentinel] at heq
  rcases List.append_inj heq rfl with ⟨_, hrest⟩
  rcases List.append_inj hrest rfl with ⟨htotal, _⟩
  rw [Bytes.ofWord_injective htotal]
  decide

theorem isSentinel_encode {chunk : Chunk} (htotal : chunk.total.toNat ≤ Wire.maxResponseLength) :
    Wire.isSentinel chunk.encode = false := by
  unfold Wire.isSentinel
  rw [beq_eq_false_iff_ne]
  intro heq
  have hlarge := max_lt_total_of_encode_eq_sentinel heq
  omega

end Chunk

/-! ## What ends a stream -/

namespace Assembly

variable {assembly next : Assembly} {chunk : Chunk}

theorem finished_of_store (hstore : assembly.store chunk = .ok next) :
    next.finished = assembly.finished := by
  unfold store at hstore
  split at hstore
  · cases hstore
  · split at hstore
    · cases hstore
      rfl
    · split at hstore
      · cases hstore
      · split at hstore
        · split at hstore
          · cases hstore
            rfl
          · cases hstore
        · cases hstore
          rfl

theorem eq_sentinel_of_finished_push {datagram : Bytes} (hopen : assembly.finished = false)
    (hends : (assembly.push datagram).2.finished = true) : datagram = Wire.sentinel := by
  by_contra hne
  have hnot : Wire.isSentinel datagram = false := beq_false_of_ne hne
  simp only [push, hopen, hnot, Bool.false_eq_true, if_false] at hends
  cases hdecode : Chunk.decode datagram with
  | error cause => simp [hdecode, hopen] at hends
  | ok chunk =>
      cases hstore : assembly.store chunk with
      | error fault => simp [hdecode, hstore, hopen] at hends
      | ok next => simp [hdecode, hstore, finished_of_store hstore, hopen] at hends

end Assembly

/-- Chunks and the datagrams of 8 to 1032 bytes correspond to each other, by writing and by reading.
A longer payload is written as well, and refused with its length when it is read.  What is written
like the sentinel declares too much, so whatever ends a stream is not written for a chunk that would
have been stored in its place. -/
theorem Chunk.encode_decode_apart_from_sentinel :
    (∀ chunk : Chunk, decode chunk.encode =
        if chunk.payload.length ≤ 1024 then .ok chunk
        else .error (.payloadTooLarge chunk.payload.length)) ∧
      Function.Injective encode ∧
      (∀ datagram : Bytes, (∃ chunk, decode datagram = .ok chunk) ↔
        8 ≤ datagram.length ∧ datagram.length ≤ 1032) ∧
      (∀ (datagram : Bytes) (chunk : Chunk), decode datagram = .ok chunk →
        chunk.encode = datagram) ∧
      (∀ chunk : Chunk, chunk.encode = Wire.sentinel →
        Wire.maxResponseLength < chunk.total.toNat) ∧
      ∀ (assembly : Assembly) (datagram : Bytes) (chunk : Chunk), assembly.finished = false →
        (assembly.push datagram).2.finished = true → chunk.encode = datagram →
          assembly.store chunk = .error (.tooLarge chunk.total) := by
  refine ⟨decode_encode_eq_ite, encode_injective, fun _ => exists_decode_eq_ok_iff, ?_, ?_, ?_⟩
  · intro datagram chunk hdecode
    exact (decode_eq_ok_iff.mp hdecode).1
  · intro chunk hsentinel
    exact max_lt_total_of_encode_eq_sentinel hsentinel
  · intro assembly datagram chunk hopen hends hencode
    rw [Assembly.eq_sentinel_of_finished_push hopen hends] at hencode
    rw [Assembly.store, if_pos (max_lt_total_of_encode_eq_sentinel hencode)]

/-- The only chunk that is written like the sentinel. -/
theorem Chunk.encode_decode_of_sentinel :
    let chunk : Chunk := ⟨0x66696e69, 0x73686564, []⟩
    chunk.encode = Wire.sentinel ∧ decode Wire.sentinel = .ok chunk ∧
      (Assembly.fresh.push Wire.sentinel).2.finished = true ∧
      Assembly.fresh.store chunk = .error (.tooLarge 0x73686564) := by
  intro chunk
  rcases encode_decode_apart_from_sentinel with ⟨_, _, _, hwritten, _, hends⟩
  have hdecode : decode Wire.sentinel = .ok chunk := by decide
  have hencode : chunk.encode = Wire.sentinel := hwritten _ _ hdecode
  have hfinished : (Assembly.fresh.push Wire.sentinel).2.finished = true := by decide
  exact ⟨hencode, hdecode, hfinished, hends .fresh _ chunk rfl hfinished hencode⟩

end DatagramShell
