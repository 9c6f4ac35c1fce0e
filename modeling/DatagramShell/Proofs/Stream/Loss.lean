import DatagramShell.Stream.Assembly
import DatagramShell.Proofs.Stream.Partition
import DatagramShell.Proofs.Stream.Parts
import Mathlib.Tactic

/-!
# Loss is found out

Chunks of one stream are taken in whatever order they come and however often.  All that an assembly
knows afterwards is the set of places that have been delivered, and the sentinel's answer is a
function of that set: a place left out below a greater one is named, a lost tail shows in the number
of bytes, and only the whole set gives the response.
-/

namespace DatagramShell

namespace Assembly

def after (assembly : Assembly) : List Bytes → Assembly
  | [] => assembly
  | datagram :: datagrams => (assembly.push datagram).2.after datagrams

def answers (assembly : Assembly) : List Bytes → List (Except AssemblyError Progress)
  | [] => []
  | datagram :: datagrams =>
    (assembly.push datagram).1 :: (assembly.push datagram).2.answers datagrams

theorem answers_append (assembly : Assembly) (front behind : List Bytes) :
    assembly.answers (front ++ behind) =
      assembly.answers front ++ (assembly.after front).answers behind := by
  induction front generalizing assembly with
  | nil => rfl
  | cons datagram front ih => simp only [List.cons_append, answers, after, ih]

theorem push_sentinel {assembly : Assembly} (hopen : assembly.finished = false) :
    assembly.push Wire.sentinel =
      (assembly.response.map .complete, { assembly with finished := true }) := by
  have hsentinel : Wire.isSentinel Wire.sentinel = true := beq_self_eq_true _
  unfold push
  rw [hopen, hsentinel]
  rfl

end Assembly

/-- The places of the chunks that are among some datagrams. -/
def Stream.delivered (stream : Stream) (datagrams : List Bytes) : Finset ℕ :=
  ((stream.chunks.filter fun chunk => chunk.encode ∈ datagrams).map
    fun chunk => chunk.sequence.toNat).toFinset

namespace Cutting

variable {cutting : Cutting}

theorem mem_delivered_iff {datagrams : List Bytes} {place : ℕ} :
    place ∈ cutting.stream.delivered datagrams ↔
      ∃ piece, cutting.pieces[place]? = some piece ∧
        (cutting.chunk place piece).encode ∈ datagrams := by
  simp only [Stream.delivered, List.mem_toFinset, List.mem_map, List.mem_filter,
    decide_eq_true_eq]
  constructor
  · intro hexists
    rcases hexists with ⟨chunk, ⟨hchunk, hdatagram⟩, rfl⟩
    obtain ⟨place, piece, hpiece, rfl⟩ := cutting.mem_chunks_iff.mp hchunk
    rcases List.getElem?_eq_some_iff.mp hpiece with ⟨hplace, _⟩
    rw [chunk, cutting.toNat_ofNat_place hplace]
    exact ⟨piece, hpiece, hdatagram⟩
  · intro hexists
    rcases hexists with ⟨piece, hpiece, hdatagram⟩
    rcases List.getElem?_eq_some_iff.mp hpiece with ⟨hplace, _⟩
    exact ⟨cutting.chunk place piece,
      ⟨cutting.mem_chunks_iff.mpr ⟨place, piece, hpiece, rfl⟩, hdatagram⟩,
      cutting.toNat_ofNat_place hplace⟩

theorem chunk_encode_inj {place other : ℕ} {piece otherPiece : Bytes}
    (hplace : place < cutting.pieces.length) (hother : other < cutting.pieces.length)
    (heq : (cutting.chunk place piece).encode = (cutting.chunk other otherPiece).encode) :
    place = other := by
  have hsequence := congrArg (fun chunk => chunk.sequence.toNat) (Chunk.encode_injective heq)
  simpa only [chunk, cutting.toNat_ofNat_place hplace, cutting.toNat_ofNat_place hother]
    using hsequence

@[simp] theorem delivered_nil : cutting.stream.delivered [] = ∅ := by
  simp [Stream.delivered]

theorem delivered_cons {place : ℕ} {piece : Bytes} (hpiece : cutting.pieces[place]? = some piece)
    (datagrams : List Bytes) :
    cutting.stream.delivered ((cutting.chunk place piece).encode :: datagrams) =
      insert place (cutting.stream.delivered datagrams) := by
  rcases List.getElem?_eq_some_iff.mp hpiece with ⟨hplace, _⟩
  ext other
  simp only [Finset.mem_insert, mem_delivered_iff, List.mem_cons]
  constructor
  · intro hexists
    rcases hexists with ⟨otherPiece, hother, hdatagram⟩
    rcases hdatagram with heq | hmem
    · rcases List.getElem?_eq_some_iff.mp hother with ⟨hotherPlace, _⟩
      exact .inl (chunk_encode_inj hotherPlace hplace heq)
    · exact .inr ⟨otherPiece, hother, hmem⟩
  · intro hcases
    rcases hcases with rfl | ⟨otherPiece, hother, hmem⟩
    · exact ⟨piece, hpiece, .inl rfl⟩
    · exact ⟨otherPiece, hother, .inr hmem⟩

/-- Different places have different datagrams. -/
theorem card_delivered {datagrams : List Bytes}
    (hchunks : ∀ datagram ∈ datagrams, datagram ∈ cutting.stream.chunks.map Chunk.encode) :
    (cutting.stream.delivered datagrams).card = datagrams.toFinset.card := by
  induction datagrams with
  | nil => simp
  | cons datagram datagrams ih =>
      rcases List.mem_map.mp (hchunks datagram List.mem_cons_self) with ⟨chunk, hchunk, rfl⟩
      rcases cutting.mem_chunks_iff.mp hchunk with ⟨place, piece, hpiece, rfl⟩
      have hagain : place ∈ cutting.stream.delivered datagrams ↔
          (cutting.chunk place piece).encode ∈ datagrams.toFinset := by
        rw [mem_delivered_iff, List.mem_toFinset]
        simp [hpiece]
      rw [delivered_cons hpiece, List.toFinset_cons, Finset.card_insert_eq_ite,
        Finset.card_insert_eq_ite, ih fun other hmem => hchunks other (List.mem_cons_of_mem _ hmem)]
      simp only [hagain]

theorem delivered_eq_range_iff (cutting : Cutting) {datagrams : List Bytes} :
    cutting.stream.delivered datagrams = Finset.range cutting.pieces.length ↔
      ∀ chunk ∈ cutting.stream.chunks, chunk.encode ∈ datagrams := by
  constructor
  · intro hall chunk hchunk
    obtain ⟨place, piece, hpiece, rfl⟩ := cutting.mem_chunks_iff.mp hchunk
    rcases List.getElem?_eq_some_iff.mp hpiece with ⟨hplace, _⟩
    have hmem : place ∈ cutting.stream.delivered datagrams := by
      rw [hall]
      exact Finset.mem_range.mpr hplace
    obtain ⟨other, hother, hdatagram⟩ := mem_delivered_iff.mp hmem
    rw [hpiece, Option.some.injEq] at hother
    rwa [hother]
  · intro hall
    ext place
    rw [Finset.mem_range, mem_delivered_iff]
    constructor
    · intro hmem
      rcases hmem with ⟨piece, hpiece, _⟩
      exact (List.getElem?_eq_some_iff.mp hpiece).1
    · intro hplace
      have hpiece := List.getElem?_eq_getElem hplace
      exact ⟨_, hpiece, hall _ (cutting.mem_chunks_iff.mpr ⟨place, _, hpiece, rfl⟩)⟩

end Cutting

/-! ## What an assembly holds of one stream -/

/-- The assembly has been given the chunks at some places of a stream, and nothing else. -/
inductive Assembly.Collects (cutting : Cutting) : Finset ℕ → Assembly → Prop
  | nothing : Collects cutting ∅ .fresh
  | stored {parts : Parts} (hkeys : parts.keys.Nonempty) (hrow : parts.FromRow cutting.pieces) :
      Collects cutting parts.keys ⟨some (cutting.total, parts), false⟩

namespace Assembly.Collects

variable {cutting : Cutting} {places : Finset ℕ} {assembly : Assembly}

theorem finished_eq (hcollects : Collects cutting places assembly) :
    assembly.finished = false := by
  cases hcollects <;> rfl

theorem received_eq (hcollects : Collects cutting places assembly) :
    assembly.received = places.card := by
  cases hcollects with
  | nothing => rfl
  | stored hkeys hrow => exact (Parts.card_keys _).symm

/-- A chunk of the stream is stored, whether it comes for the first time or again. -/
theorem store (hcollects : Collects cutting places assembly) {place : ℕ} {piece : Bytes}
    (hpiece : cutting.pieces[place]? = some piece) :
    ∃ next, assembly.store (cutting.chunk place piece) = .ok next ∧
      Collects cutting (insert place places) next := by
  rcases List.getElem?_eq_some_iff.mp hpiece with ⟨hplace, _⟩
  have hsequence := cutting.toNat_ofNat_place hplace
  have hfits : ¬ Wire.maxResponseLength < (cutting.chunk place piece).total.toNat := by
    rw [Cutting.chunk, cutting.toNat_total]
    exact Nat.not_lt.mpr cutting.fits
  have hpayload : cutting.pieces[(UInt32.ofNat place).toNat]? = some piece := by
    rw [hsequence, hpiece]
  have hinsert : ∀ parts : Parts, insert place parts.keys =
      (parts.insert (UInt32.ofNat place) piece).keys := by
    intro parts
    rw [Parts.keys_insert, hsequence]
  have hnonempty : ∀ parts : Parts, (parts.insert (UInt32.ofNat place) piece).keys.Nonempty := by
    intro parts
    rw [← hinsert]
    exact Finset.insert_nonempty _ _
  cases hcollects with
  | nothing =>
      refine ⟨⟨some (cutting.total, Parts.empty.insert (UInt32.ofNat place) piece), false⟩, ?_, ?_⟩
      · rw [Assembly.store, if_neg hfits]
        rfl
      · rw [← Parts.keys_empty, hinsert]
        exact .stored (hnonempty _) ((Parts.fromRow_empty _).insert hpayload)
  | @stored parts hkeys hrow =>
      cases hfound : parts.find? (UInt32.ofNat place) with
      | some payload =>
          -- The payload under this number is the piece that was stored before.
          have hsame : payload = piece := by
            have hstored := hrow.find? hfound
            rw [hpayload, Option.some.injEq] at hstored
            exact hstored.symm
          have hheld : place ∈ parts.keys := by
            rw [← hsequence]
            exact Parts.toNat_mem_keys_iff.mpr ⟨payload, hfound⟩
          refine ⟨⟨some (cutting.total, parts), false⟩, ?_, ?_⟩
          · rw [Assembly.store, if_neg hfits]
            simp only [Cutting.chunk, hfound, ne_eq, not_true, if_false, hsame, if_true]
          · rw [Finset.insert_eq_of_mem hheld]
            exact .stored hkeys hrow
      | none =>
          refine ⟨⟨some (cutting.total, parts.insert (UInt32.ofNat place) piece), false⟩, ?_, ?_⟩
          · rw [Assembly.store, if_neg hfits]
            simp only [Cutting.chunk, hfound, ne_eq, not_true, if_false]
          · rw [hinsert]
            exact .stored (hnonempty _) (hrow.insert hpayload)

theorem push (hcollects : Collects cutting places assembly) {place : ℕ} {piece : Bytes}
    (hpiece : cutting.pieces[place]? = some piece) :
    ∃ next, assembly.push (cutting.chunk place piece).encode = (.ok .pending, next) ∧
      Collects cutting (insert place places) next := by
  obtain ⟨next, hstore, hnext⟩ := hcollects.store hpiece
  refine ⟨next, ?_, hnext⟩
  simp only [Assembly.push, hcollects.finished_eq, cutting.isSentinel_encode_chunk,
    cutting.decode_encode_chunk hpiece, hstore, Bool.false_eq_true, if_false]

theorem after (hcollects : Collects cutting places assembly) {datagrams : List Bytes}
    (hchunks : ∀ datagram ∈ datagrams, datagram ∈ cutting.stream.chunks.map Chunk.encode) :
    Collects cutting (places ∪ cutting.stream.delivered datagrams) (assembly.after datagrams) ∧
      assembly.answers datagrams = List.replicate datagrams.length (.ok .pending) := by
  induction datagrams generalizing places assembly with
  | nil =>
      refine ⟨?_, rfl⟩
      rw [Cutting.delivered_nil, Finset.union_empty]
      exact hcollects
  | cons datagram datagrams ih =>
      rcases List.mem_map.mp (hchunks datagram List.mem_cons_self) with ⟨chunk, hchunk, rfl⟩
      obtain ⟨place, piece, hpiece, rfl⟩ := cutting.mem_chunks_iff.mp hchunk
      obtain ⟨next, hpush, hnext⟩ := hcollects.push hpiece
      obtain ⟨hafter, hanswers⟩ :=
        ih hnext fun other hmem => hchunks other (List.mem_cons_of_mem _ hmem)
      rw [Assembly.after, answers, hpush, Cutting.delivered_cons hpiece]
      refine ⟨?_, ?_⟩
      · rw [Finset.union_insert, ← Finset.insert_union]
        exact hafter
      · rw [hanswers, List.length_cons, List.replicate_succ]

/-! ## The answer to the sentinel -/

theorem subset_range (hcollects : Collects cutting places assembly) :
    places ⊆ Finset.range cutting.pieces.length := by
  cases hcollects with
  | nothing => exact Finset.empty_subset _
  | stored hkeys hrow =>
      intro place hmem
      obtain ⟨entry, hentry, rfl⟩ := Parts.mem_keys_iff.mp hmem
      rcases List.getElem?_eq_some_iff.mp (hrow entry hentry) with ⟨hplace, _⟩
      exact Finset.mem_range.mpr hplace

theorem response_of_empty (hcollects : Collects cutting ∅ assembly) :
    assembly.response = .error .empty := by
  generalize hplaces : (∅ : Finset ℕ) = places at hcollects
  cases hcollects with
  | nothing => rfl
  | stored hkeys hrow => exact absurd hplaces.symm hkeys.ne_empty

theorem response_of_gap (hcollects : Collects cutting places assembly) {gap : ℕ}
    (habsent : gap ∉ places) (hbelow : ∀ place < gap, place ∈ places)
    (habove : ∃ place ∈ places, gap < place) :
    assembly.response = .error (.missingChunk gap) := by
  cases hcollects with
  | nothing =>
      rcases habove with ⟨place, hmem, _⟩
      exact absurd hmem (Finset.notMem_empty place)
  | stored hkeys hrow =>
      have hgap := Parts.firstGap_eq_some_iff.mpr ⟨habsent, hbelow, habove⟩
      simp only [response, join, hgap]

/-- The pieces of an initial segment are put together, and then their bytes are counted. -/
theorem response_of_range {count : ℕ} (hpos : 0 < count)
    (hcollects : Collects cutting (Finset.range count) assembly) :
    assembly.response =
      if (cutting.pieces.take count).flatten.length < cutting.response.length then
        .error (.short (cutting.pieces.take count).flatten.length cutting.response.length)
      else .ok ((cutting.pieces.take count).flatten.take cutting.response.length) := by
  generalize hplaces : Finset.range count = places at hcollects
  cases hcollects with
  | nothing => exact absurd hplaces (Finset.nonempty_range_iff.mpr hpos.ne').ne_empty
  | @stored parts hkeys hrow =>
      have hsize : parts.size = count := by
        rw [← Parts.card_keys, ← hplaces, Finset.card_range]
      have hgap : parts.firstGap = none := by
        rw [Parts.firstGap_eq_none_iff, hsize, hplaces]
      simp only [response, join, hgap, hrow.joined hgap, hsize, cutting.toNat_total]

theorem response_of_lost_tail {count : ℕ} (hpos : 0 < count)
    (hcount : count < cutting.pieces.length)
    (hcollects : Collects cutting (Finset.range count) assembly) :
    assembly.response =
      .error (.short (count * cutting.size.size) cutting.response.length) := by
  rw [hcollects.response_of_range hpos, cutting.length_flatten_take hcount,
    if_pos (cutting.mul_size_lt_length hpos hcount)]

theorem response_of_all
    (hcollects : Collects cutting (Finset.range cutting.pieces.length) assembly) :
    assembly.response = .ok cutting.response := by
  rw [hcollects.response_of_range cutting.length_pieces_pos, List.take_length,
    cutting.flatten_pieces, List.take_left, if_neg]
  simp

/-- Without all of its chunks a stream has no response. -/
theorem exists_response_error (hcollects : Collects cutting places assembly)
    (hlost : places ≠ Finset.range cutting.pieces.length) :
    ∃ fault, assembly.response = .error fault := by
  by_cases hempty : places = ∅
  · subst hempty
    exact ⟨_, hcollects.response_of_empty⟩
  · by_cases hsegment : ∃ count, places = Finset.range count
    · rcases hsegment with ⟨count, rfl⟩
      have hpos : 0 < count := Nat.pos_of_ne_zero fun hzero => hempty (by rw [hzero]; rfl)
      have hle : count ≤ cutting.pieces.length :=
        Finset.range_subset_range.mp hcollects.subset_range
      have hcount : count < cutting.pieces.length :=
        lt_of_le_of_ne hle fun heq => hlost (by rw [heq])
      exact ⟨_, hcollects.response_of_lost_tail hpos hcount⟩
    · cases hcollects with
      | nothing => exact absurd rfl hempty
      | @stored parts hkeys hrow =>
          cases hgap : parts.firstGap with
          | none => exact absurd ⟨_, Parts.firstGap_eq_none_iff.mp hgap⟩ hsegment
          | some gap => exact ⟨.missingChunk gap, by simp only [response, join, hgap]⟩

end Assembly.Collects

/-! ## Any chunks of a stream, then the sentinel -/

/-- Every response of admissible length can be split, and whatever chunks of its stream are pushed,
each is taken in and the distinct ones are counted.  The answer to the sentinel names the least
chunk missing below another one, or counts the bytes in front of a lost tail, or is the response;
the response needs all chunks. -/
theorem sentinel_answer_of_delivered (response : Bytes) (size : ℕ) (pad : Bool)
    (hlength : response.length ≤ Wire.maxResponseLength) (hpos : 0 < size)
    (hsize : size ≤ Wire.maxPayloadLength) :
    ∃ stream, Stream.split response size pad = .ok stream ∧
      stream.chunks.length = max 1 (response.length ⌈/⌉ size) ∧
      ∀ datagrams : List Bytes,
        (∀ datagram ∈ datagrams, datagram ∈ stream.chunks.map Chunk.encode) →
        let places := stream.delivered datagrams
        let assembly := Assembly.fresh.after datagrams
        let answer := (assembly.push Wire.sentinel).1
        Assembly.fresh.answers datagrams = List.replicate datagrams.length (.ok .pending) ∧
          assembly.received = places.card ∧
          (places = Finset.range stream.chunks.length → answer = .ok (.complete response)) ∧
          (places = ∅ → answer = .error .empty) ∧
          (∀ gap, gap ∉ places → (∀ place < gap, place ∈ places) →
            (∃ place ∈ places, gap < place) → answer = .error (.missingChunk gap)) ∧
          (∀ count, 0 < count → count < stream.chunks.length → places = Finset.range count →
            answer = .error (.short (count * size) response.length)) ∧
          ((∃ bytes, answer = .ok (.complete bytes)) ↔
            places = Finset.range stream.chunks.length) := by
  let cutting : Cutting := ⟨response, ⟨size, hpos, hsize⟩, pad, hlength⟩
  have hcount : cutting.stream.chunks.length = cutting.pieces.length := cutting.length_chunks
  refine ⟨cutting.stream, cutting.split_eq, hcount.trans cutting.length_pieces, ?_⟩
  intro datagrams hchunks
  have hfresh : Assembly.Collects cutting ∅ .fresh := .nothing
  obtain ⟨hcollects, hanswers⟩ := hfresh.after hchunks
  rw [Finset.empty_union] at hcollects
  have hclosing := congrArg Prod.fst (Assembly.push_sentinel hcollects.finished_eq)
  rw [hcount]
  refine ⟨hanswers, hcollects.received_eq, ?_, ?_, ?_, ?_, ?_⟩
  · intro hall
    rw [hall] at hcollects
    rw [hclosing, hcollects.response_of_all]
    rfl
  · intro hempty
    rw [hempty] at hcollects
    rw [hclosing, hcollects.response_of_empty]
    rfl
  · intro gap habsent hbelow habove
    rw [hclosing, hcollects.response_of_gap habsent hbelow habove]
    rfl
  · intro count hcountPos hcountLt hsegment
    rw [hsegment] at hcollects
    rw [hclosing, hcollects.response_of_lost_tail hcountPos hcountLt]
    rfl
  · constructor
    · intro hcompletes
      rcases hcompletes with ⟨bytes, hbytes⟩
      by_contra hlost
      obtain ⟨fault, hfault⟩ := hcollects.exists_response_error hlost
      rw [hclosing, hfault] at hbytes
      cases hbytes
    · intro hall
      rw [hall] at hcollects
      rw [hclosing, hcollects.response_of_all]
      exact ⟨_, rfl⟩

/-- A response of five bytes in three chunks of two bytes, the last one filled with a zero. -/
theorem sentinel_answer_of_five_bytes :
    let first : Bytes := [0, 0, 0, 0, 0, 0, 0, 5, 1, 2]
    let second : Bytes := [0, 0, 0, 1, 0, 0, 0, 5, 3, 4]
    let third : Bytes := [0, 0, 0, 2, 0, 0, 0, 5, 5, 0]
    let answer := fun datagrams => ((Assembly.fresh.after datagrams).push Wire.sentinel).1
    answer [third, first, third] = .error (.missingChunk 1) ∧
      answer [second, first] = .error (.short 4 5) ∧
      answer [third, first, first, second] = .ok (.complete [1, 2, 3, 4, 5]) := by
  intro first second third answer
  obtain ⟨stream, hstream, _, hanswer⟩ :=
    sentinel_answer_of_delivered [1, 2, 3, 4, 5] 2 true (by decide) (by decide) (by decide)
  have hsplit : Stream.split [1, 2, 3, 4, 5] 2 true =
      .ok ⟨[⟨0, 5, [1, 2]⟩, ⟨1, 5, [3, 4]⟩, ⟨2, 5, [5, 0]⟩]⟩ := by cbv
  rw [hsplit] at hstream
  cases hstream
  obtain ⟨_, _, _, _, hgap, _⟩ := hanswer [third, first, third] (by decide)
  obtain ⟨_, _, _, _, _, htail, _⟩ := hanswer [second, first] (by decide)
  obtain ⟨_, _, hall, _⟩ := hanswer [third, first, first, second] (by decide)
  exact ⟨hgap 1 (by decide) (by decide) (by decide),
    htail 2 (by decide) (by decide) (by decide), hall (by decide)⟩

end DatagramShell
