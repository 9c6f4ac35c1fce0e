import DatagramShell.Bytes

/-!
# The pieces received so far

Payloads by sequence number.  The entries are kept in decreasing order, so that a piece that arrives
in its turn is put in front; each sequence number stands in one entry only.
-/

namespace DatagramShell

abbrev Entry := UInt32 × Bytes

namespace Entry

/-- The payload stored under a sequence number. -/
def find? (sequence : UInt32) : List Entry → Option Bytes
  | [] => none
  | (stored, payload) :: entries =>
    if stored < sequence then none
    else if stored = sequence then some payload
    else find? sequence entries

def insert (sequence : UInt32) (payload : Bytes) : List Entry → List Entry
  | [] => [(sequence, payload)]
  | (stored, held) :: entries =>
    if stored < sequence then (sequence, payload) :: (stored, held) :: entries
    else if stored = sequence then (sequence, payload) :: entries
    else (stored, held) :: insert sequence payload entries

def Decreasing (entries : List Entry) : Prop :=
  entries.Pairwise fun earlier later => later.1 < earlier.1

theorem mem_insert {sequence : UInt32} {payload : Bytes} {entries : List Entry} {entry : Entry}
    (mem : entry ∈ insert sequence payload entries) :
    entry = (sequence, payload) ∨ entry ∈ entries := by
  induction entries with
  | nil => exact .inl (List.mem_singleton.1 mem)
  | cons first entries ih =>
    simp only [insert] at mem
    split at mem
    · exact List.mem_cons.1 mem
    · split at mem
      · exact (List.mem_cons.1 mem).imp_right (List.mem_cons_of_mem _)
      · rcases List.mem_cons.1 mem with rfl | mem
        · exact .inr List.mem_cons_self
        · exact (ih mem).imp_right (List.mem_cons_of_mem _)

theorem decreasing_insert {sequence : UInt32} {payload : Bytes} {entries : List Entry}
    (decreasing : Decreasing entries) : Decreasing (insert sequence payload entries) := by
  unfold Decreasing at *
  induction entries with
  | nil => exact List.pairwise_singleton _ _
  | cons first entries ih =>
    have ⟨before, rest⟩ := List.pairwise_cons.1 decreasing
    simp only [insert]
    split
    · next below =>
      refine List.pairwise_cons.2 ⟨fun entry mem => ?_, decreasing⟩
      rcases List.mem_cons.1 mem with rfl | mem
      · exact below
      · exact UInt32.lt_trans (before entry mem) below
    · next notBelow =>
      split
      · next same => exact List.pairwise_cons.2 ⟨same ▸ before, rest⟩
      · next different =>
        refine List.pairwise_cons.2 ⟨fun entry mem => ?_, ih rest⟩
        rcases mem_insert mem with rfl | mem
        · exact UInt32.lt_of_le_of_ne (UInt32.not_lt.1 notBelow) (Ne.symm different)
        · exact before entry mem

end Entry

structure Parts where
  entries : List Entry
  decreasing : Entry.Decreasing entries
  deriving DecidableEq

namespace Parts

def empty : Parts :=
  ⟨[], List.Pairwise.nil⟩

def find? (parts : Parts) (sequence : UInt32) : Option Bytes :=
  Entry.find? sequence parts.entries

def insert (parts : Parts) (sequence : UInt32) (payload : Bytes) : Parts :=
  ⟨Entry.insert sequence payload parts.entries, Entry.decreasing_insert parts.decreasing⟩

def size (parts : Parts) : Nat :=
  parts.entries.length

def ascending (parts : Parts) : List Entry :=
  parts.entries.reverse

/-- The payloads one after the other, in the order of their sequence numbers. -/
def joined (parts : Parts) : Bytes :=
  (parts.ascending.map (·.2)).flatten

/-- The first number from `expected` on that the entries leave out, if they go on behind it. -/
def gapFrom (expected : Nat) : List Entry → Option Nat
  | [] => none
  | (sequence, _) :: entries =>
    if sequence.toNat = expected then gapFrom (expected + 1) entries else some expected

/-- The least number without a payload, if some larger number has one. -/
def firstGap (parts : Parts) : Option Nat :=
  gapFrom 0 parts.ascending

end Parts
end DatagramShell
