import DatagramShell.Wire
import Mathlib.Tactic
import Mathlib.Data.List.TakeWhile

/-!
# What a datagram asks for

The buffer of the service is longer than the control token and the token holds no zero byte.  So a
datagram stops the service exactly if it starts with the token, and zeros that are put behind a line
can neither complete a token nor become part of the line.
-/

namespace DatagramShell

namespace Bytes

theorem untilZero_append_zeros (bytes : Bytes) (count : ℕ) :
    untilZero (bytes ++ List.replicate count 0) = untilZero bytes := by
  have hzeros : (List.replicate count (0 : UInt8)).takeWhile (· != 0) = [] := by
    rw [List.takeWhile_replicate]
    rfl
  unfold untilZero
  rw [List.takeWhile_append, hzeros]
  split
  · next hall => rw [List.append_nil, (List.takeWhile_prefix _).eq_of_length hall]
  · rfl

theorem untilZero_of_notMem {bytes : Bytes} (hzero : 0 ∉ bytes) : untilZero bytes = bytes := by
  apply List.takeWhile_eq_self_iff.mpr
  intro byte hmem
  simpa using ne_of_mem_of_not_mem hmem hzero

end Bytes

namespace Wire

theorem isControl_iff {datagram : Bytes} :
    isControl datagram = true ↔ controlToken <+: datagram :=
  List.isPrefixOf_iff_prefix

/-- The token is six bytes long. -/
theorem controlToken_prefix_iff {datagram : Bytes} :
    controlToken <+: datagram ↔ datagram.take 6 = controlToken := by
  rw [List.prefix_iff_eq_take]
  exact eq_comm

/-- Zeros behind a line do not make a token of it. -/
theorem controlToken_prefix_append_zeros {line : Bytes} {count : ℕ} :
    controlToken <+: line ++ List.replicate count 0 ↔ controlToken <+: line := by
  constructor
  · intro htoken
    rcases List.prefix_or_prefix_of_prefix htoken (List.prefix_append line _) with hline | hline
    · exact hline
    · obtain ⟨rest, hrest⟩ := hline
      rw [← hrest, List.prefix_append_right_inj] at htoken
      have hempty : rest = [] := by
        apply List.eq_nil_iff_forall_not_mem.mpr
        intro byte hmem
        have hzero : byte = 0 := List.eq_of_mem_replicate (htoken.subset hmem)
        have htail : byte ∈ controlToken := hrest ▸ List.mem_append_right line hmem
        rw [hzero] at htail
        exact absurd htail (by decide)
      rw [hempty, List.append_nil] at hrest
      exact hrest ▸ List.prefix_rfl
  · intro htoken
    exact htoken.trans (List.prefix_append _ _)

end Wire

namespace Request

/-- The service's buffer does not hide a token. -/
theorem receive_eq_shutdown_iff {datagram : Bytes} :
    receive datagram = .shutdown ↔ Wire.controlToken <+: datagram := by
  have hshort : Wire.controlToken.length ≤ Wire.maxCommandLength := by decide
  have hcut : Wire.isControl (Wire.received Wire.maxCommandLength datagram) = true ↔
      Wire.controlToken <+: datagram := by
    rw [Wire.isControl_iff, Wire.received, List.prefix_take_iff, and_iff_left hshort]
  rw [← hcut]
  unfold receive ofDatagram
  split
  · next hcontrol => exact iff_of_true rfl hcontrol
  · next hcontrol => exact iff_of_false (by simp) hcontrol

theorem receive_of_not_control {datagram : Bytes} (hcontrol : ¬ Wire.controlToken <+: datagram) :
    receive datagram = .execute (Bytes.untilZero (datagram.take Wire.maxCommandLength)) := by
  have hexecute : receive datagram ≠ .shutdown :=
    fun hshutdown => hcontrol (receive_eq_shutdown_iff.mp hshutdown)
  unfold receive ofDatagram at hexecute ⊢
  split
  · next hshutdown => rw [if_pos hshutdown] at hexecute; exact absurd rfl hexecute
  · rfl

/-- A line that fits into the buffer is read as it was sent, however many zeros stand behind it. -/
theorem receive_append_zeros {line : Bytes} (hfits : line.length ≤ Wire.maxCommandLength)
    (hcontrol : ¬ Wire.controlToken <+: line) (count : ℕ) :
    receive (line ++ List.replicate count 0) = .execute (Bytes.untilZero line) := by
  have hcut : Wire.received Wire.maxCommandLength (line ++ List.replicate count 0) =
      line ++ List.replicate (min (Wire.maxCommandLength - line.length) count) 0 := by
    rw [Wire.received, List.take_append, List.take_of_length_le hfits, List.take_replicate]
  unfold receive
  rw [hcut, ofDatagram, if_neg, Bytes.untilZero_append_zeros]
  rw [Wire.isControl_iff, Wire.controlToken_prefix_append_zeros]
  exact hcontrol

end Request

end DatagramShell
