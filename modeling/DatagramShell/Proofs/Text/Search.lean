import DatagramShell.Bytes
import Mathlib.Tactic

/-!
# Lines and markers in byte strings

What the searches of the wire formats find.  A line ends at its first line feed; a marker is found
at the least position where it is a prefix of what is left.  Two occurrences of one marker can
overlap only along a border of the marker, a proper end of it that is also one of its beginnings.
-/

namespace DatagramShell

namespace Bytes

theorem splitLine?_append {line : Bytes} (hline : lineFeed ∉ line) (rest : Bytes) :
    splitLine? (line ++ lineFeed :: rest) = some (line, rest) := by
  have hkeep : ∀ byte ∈ line, (byte != lineFeed) = true := by
    intro byte hmem
    simpa using ne_of_mem_of_not_mem hmem hline
  have hdrop : (line ++ lineFeed :: rest).dropWhile (· != lineFeed) = lineFeed :: rest := by
    rw [List.dropWhile_append_of_pos hkeep]
    simp
  have htake : (line ++ lineFeed :: rest).takeWhile (· != lineFeed) = line := by
    rw [List.takeWhile_append_of_pos hkeep]
    simp
  rw [splitLine?, hdrop, htake]

theorem splitLine?_eq_some_iff {bytes line rest : Bytes} :
    splitLine? bytes = some (line, rest) ↔ bytes = line ++ lineFeed :: rest ∧ lineFeed ∉ line := by
  constructor
  · intro hsplit
    cases hdrop : bytes.dropWhile (· != lineFeed) with
    | nil => simp [splitLine?, hdrop] at hsplit
    | cons first behind =>
        simp only [splitLine?, hdrop, Option.some.injEq, Prod.mk.injEq] at hsplit
        rcases hsplit with ⟨rfl, rfl⟩
        have hfirst : first = lineFeed := by
          have hhead := List.head?_dropWhile_not (· != lineFeed) bytes
          simpa [hdrop] using hhead
        have hjoin := List.takeWhile_append_dropWhile (p := (· != lineFeed)) (l := bytes)
        rw [hdrop, hfirst] at hjoin
        refine ⟨hjoin.symm, fun hmem => ?_⟩
        simpa using List.all_eq_true.mp List.all_takeWhile lineFeed hmem
  · rintro ⟨rfl, hline⟩
    exact splitLine?_append hline rest

/-- Two lines that begin one text are the same line. -/
theorem line_inj {line other rest otherRest : Bytes} (hline : lineFeed ∉ line)
    (hother : lineFeed ∉ other) (heq : line ++ lineFeed :: rest = other ++ lineFeed :: otherRest) :
    line = other ∧ rest = otherRest := by
  have hsplit := splitLine?_append hline rest
  rw [heq, splitLine?_append hother otherRest, Option.some.injEq, Prod.mk.injEq] at hsplit
  exact ⟨hsplit.1.symm, hsplit.2.symm⟩

theorem dropPrefix?_append (lead bytes : Bytes) :
    dropPrefix? lead (lead ++ bytes) = some bytes := by
  induction lead with
  | nil => rfl
  | cons first lead ih => simp [dropPrefix?, ih]

theorem dropPrefix?_eq_some_iff {lead bytes rest : Bytes} :
    dropPrefix? lead bytes = some rest ↔ bytes = lead ++ rest := by
  induction lead generalizing bytes with
  | nil => simp [dropPrefix?]
  | cons first lead ih =>
      cases bytes with
      | nil => simp [dropPrefix?]
      | cons byte bytes =>
          by_cases hfirst : byte = first
          · simp [dropPrefix?, hfirst, ih]
          · simp [dropPrefix?, hfirst]

theorem dropFinalLineFeed_append (bytes : Bytes) :
    dropFinalLineFeed (bytes ++ [lineFeed]) = bytes := by
  simp [dropFinalLineFeed]

theorem dropFinalLineFeed_eq_iff {bytes kept : Bytes} :
    dropFinalLineFeed bytes = kept ↔
      bytes = kept ++ [lineFeed] ∨ (bytes = kept ∧ kept.getLast? ≠ some lineFeed) := by
  unfold dropFinalLineFeed
  by_cases hlast : bytes.getLast? = some lineFeed
  · rw [if_pos hlast]
    constructor
    · rintro rfl
      exact .inl (List.dropLast_append_getLast? _ hlast).symm
    · rintro (rfl | ⟨rfl, hkept⟩)
      · exact List.dropLast_concat
      · exact absurd hlast hkept
  · rw [if_neg hlast]
    constructor
    · rintro rfl
      exact .inr ⟨rfl, hlast⟩
    · rintro (rfl | ⟨rfl, _⟩)
      · exact absurd List.getLast?_concat hlast
      · rfl

/-! ## The first occurrence of a marker -/

theorem findFrom_eq_some_iff {pattern bytes : Bytes} {start position : Nat} :
    findFrom pattern start bytes = some position ↔
      ∃ offset, position = start + offset ∧ pattern <+: bytes.drop offset ∧
        ∀ earlier < offset, ¬ pattern <+: bytes.drop earlier := by
  induction bytes generalizing start with
  | nil =>
      simp only [findFrom, List.isEmpty_iff, List.drop_nil, List.prefix_nil]
      constructor
      · intro hfound
        split at hfound
        · next hempty => exact ⟨0, by simpa using hfound.symm, hempty, by simp⟩
        · cases hfound
      · intro hleastOffset
        rcases hleastOffset with ⟨offset, rfl, hempty, hleast⟩
        have hzero : offset = 0 := by
          by_contra hne
          exact hleast 0 (Nat.pos_of_ne_zero hne) hempty
        simp [hempty, hzero]
  | cons byte rest ih =>
      rw [findFrom]
      split
      · next hstarts =>
          rw [List.isPrefixOf_iff_prefix] at hstarts
          constructor
          · intro hfound
            exact ⟨0, by simpa using hfound.symm, hstarts, by simp⟩
          · intro hleastOffset
            rcases hleastOffset with ⟨offset, rfl, _, hleast⟩
            have hzero : offset = 0 := by
              by_contra hne
              exact hleast 0 (Nat.pos_of_ne_zero hne) hstarts
            simp [hzero]
      · next hnot =>
          rw [List.isPrefixOf_iff_prefix] at hnot
          rw [ih]
          constructor
          · intro hleastOffset
            rcases hleastOffset with ⟨offset, rfl, hstarts, hleast⟩
            refine ⟨offset + 1, by omega, hstarts, fun earlier hearlier => ?_⟩
            cases earlier with
            | zero => exact hnot
            | succ earlier => exact hleast earlier (by omega)
          · intro hleastOffset
            rcases hleastOffset with ⟨offset, rfl, hstarts, hleast⟩
            cases offset with
            | zero => exact absurd hstarts hnot
            | succ offset =>
                exact ⟨offset, by omega, hstarts, fun earlier hearlier =>
                  hleast (earlier + 1) (by omega)⟩

theorem find?_eq_some_iff {pattern bytes : Bytes} {position : Nat} :
    find? pattern bytes = some position ↔
      pattern <+: bytes.drop position ∧
        ∀ earlier < position, ¬ pattern <+: bytes.drop earlier := by
  simp [find?, findFrom_eq_some_iff]

/-- A marker that occurs somewhere is found there or before. -/
theorem exists_find?_eq_some {pattern bytes : Bytes} {position : Nat}
    (hstarts : pattern <+: bytes.drop position) :
    ∃ first ≤ position, find? pattern bytes = some first := by
  classical
  have hexists : ∃ place, pattern <+: bytes.drop place := ⟨position, hstarts⟩
  refine ⟨Nat.find hexists, Nat.find_min' hexists hstarts, find?_eq_some_iff.mpr ?_⟩
  exact ⟨Nat.find_spec hexists, fun earlier hearlier => Nat.find_min hexists hearlier⟩

/-- What stands before the marker found, the marker and what stands behind it make the whole. -/
theorem splitAt?_of_find? {pattern bytes : Bytes} {position : Nat}
    (hfind : find? pattern bytes = some position) :
    splitAt? pattern bytes =
        some (bytes.take position, bytes.drop (position + pattern.length)) ∧
      bytes.take position ++ (pattern ++ bytes.drop (position + pattern.length)) = bytes := by
  refine ⟨by rw [splitAt?, hfind]; rfl, ?_⟩
  obtain ⟨⟨tail, htail⟩, _⟩ := find?_eq_some_iff.mp hfind
  have hdrop : bytes.drop (position + pattern.length) = tail := by
    rw [← List.drop_drop, ← htail, List.drop_left]
  rw [hdrop, htail, List.take_append_drop]

theorem splitAt?_eq_some_iff {pattern bytes front behind : Bytes} :
    splitAt? pattern bytes = some (front, behind) ↔
      bytes = front ++ (pattern ++ behind) ∧
        ∀ earlier < front.length, ¬ pattern <+: bytes.drop earlier := by
  constructor
  · intro hsplit
    cases hfind : find? pattern bytes with
    | none => simp [splitAt?, hfind] at hsplit
    | some position =>
        obtain ⟨hparts, hjoin⟩ := splitAt?_of_find? hfind
        rw [hsplit, Option.some.injEq, Prod.mk.injEq] at hparts
        obtain ⟨_, hleast⟩ := find?_eq_some_iff.mp hfind
        rw [← hparts.1, ← hparts.2] at hjoin
        refine ⟨hjoin.symm, fun earlier hearlier => hleast earlier ?_⟩
        rw [hparts.1, List.length_take] at hearlier
        omega
  · rintro ⟨rfl, hleast⟩
    have hfind : find? pattern (front ++ (pattern ++ behind)) = some front.length := by
      rw [find?_eq_some_iff]
      refine ⟨?_, hleast⟩
      rw [List.drop_left]
      exact List.prefix_append _ _
    rw [(splitAt?_of_find? hfind).1, List.take_left, ← List.drop_drop, List.drop_left,
      List.drop_left]

/-! ## Overlaps -/

/-- An occurrence that begins in front of another one and reaches into it overlaps it along a border
of the pattern. -/
theorem border_of_overlap {pattern front behind : Bytes} {position : Nat}
    (hposition : position ≤ front.length)
    (hstarts : pattern <+: (front ++ (pattern ++ behind)).drop position) :
    pattern.drop (front.length - position) <+: pattern := by
  rw [List.drop_append_of_le_length hposition] at hstarts
  have hshift : pattern.drop (front.length - position) <+: pattern ++ behind := by
    have hdrop := hstarts.drop (front.length - position)
    rwa [List.drop_append, List.length_drop, List.drop_drop,
      Nat.add_sub_cancel' hposition, List.drop_length, Nat.sub_self, List.drop_zero,
      List.nil_append] at hdrop
  exact List.prefix_of_prefix_length_le hshift (List.prefix_append _ _) (by simp)

end Bytes

end DatagramShell
