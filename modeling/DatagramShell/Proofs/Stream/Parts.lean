import DatagramShell.Stream.Parts
import Mathlib.Tactic

/-!
# What the stored pieces amount to

Each sequence number is stored at most once, so the entries are a finite map from numbers to
payloads, and its size is the number of its keys.  The search for a gap finds the least number that
is left out below the greatest one stored.  Without a gap the numbers are an initial segment, and
the payloads stand in the row at the places that their numbers name.
-/

namespace DatagramShell

namespace Entry

theorem mem_insert_iff {sequence : UInt32} {payload : Bytes} {entries : List Entry}
    (hdecreasing : Decreasing entries) {entry : Entry} :
    entry ∈ insert sequence payload entries ↔
      entry = (sequence, payload) ∨ entry ∈ entries ∧ entry.1 ≠ sequence := by
  induction entries with
  | nil => simp [insert]
  | cons first entries ih =>
      rcases List.pairwise_cons.mp hdecreasing with ⟨hfirst, hrest⟩
      rw [insert]
      split
      · next hbelow =>
          have habsent : ∀ other ∈ first :: entries, other.1 ≠ sequence := by
            intro other hmem heq
            rcases List.mem_cons.mp hmem with rfl | hmem
            · exact UInt32.lt_irrefl _ (heq ▸ hbelow)
            · exact UInt32.lt_irrefl _ (UInt32.lt_trans (heq ▸ hfirst other hmem) hbelow)
          rw [List.mem_cons]
          exact or_congr_right ⟨fun hmem => ⟨hmem, habsent entry hmem⟩, And.left⟩
      · next hnot =>
          split
          · next hsame =>
              have habsent : ∀ other ∈ entries, other.1 ≠ sequence := by
                intro other hmem heq
                exact UInt32.lt_irrefl _ (heq ▸ hsame ▸ hfirst other hmem)
              rw [List.mem_cons, List.mem_cons]
              constructor
              · intro hmem
                rcases hmem with heq | hmem
                · exact .inl heq
                · exact .inr ⟨.inr hmem, habsent entry hmem⟩
              · intro hcases
                rcases hcases with heq | ⟨rfl | hmem, hne⟩
                · exact .inl heq
                · exact absurd hsame hne
                · exact .inr hmem
          · next hdifferent =>
              rw [List.mem_cons, ih hrest, List.mem_cons]
              constructor
              · intro hcases
                rcases hcases with rfl | heq | ⟨hmem, hne⟩
                · exact .inr ⟨.inl rfl, hdifferent⟩
                · exact .inl heq
                · exact .inr ⟨.inr hmem, hne⟩
              · intro hcases
                rcases hcases with heq | ⟨rfl | hmem, hne⟩
                · exact .inr (.inl heq)
                · exact .inl rfl
                · exact .inr (.inr ⟨hmem, hne⟩)

theorem find?_eq_some_iff {sequence : UInt32} {payload : Bytes} {entries : List Entry}
    (hdecreasing : Decreasing entries) :
    find? sequence entries = some payload ↔ (sequence, payload) ∈ entries := by
  induction entries with
  | nil => simp [find?]
  | cons first entries ih =>
      rcases List.pairwise_cons.mp hdecreasing with ⟨hfirst, hrest⟩
      rw [find?, List.mem_cons]
      split
      · next hbelow =>
          constructor
          · intro hfound
            cases hfound
          · intro hmem
            rcases hmem with heq | hmem
            · rw [← heq] at hbelow
              exact absurd hbelow (UInt32.lt_irrefl _)
            · exact absurd (UInt32.lt_trans (hfirst _ hmem) hbelow) (UInt32.lt_irrefl _)
      · next hnot =>
          split
          · next hsame =>
              constructor
              · intro hfound
                left
                rw [← hsame, ← Option.some.inj hfound]
              · intro hmem
                rcases hmem with heq | hmem
                · rw [← heq]
                · exact absurd (hsame ▸ hfirst _ hmem) (UInt32.lt_irrefl _)
          · next hdifferent =>
              rw [ih hrest]
              constructor
              · exact .inr
              · intro hmem
                rcases hmem with heq | hmem
                · exact absurd (congrArg Prod.fst heq).symm hdifferent
                · exact hmem

end Entry

namespace Parts

def keys (parts : Parts) : Finset ℕ :=
  (parts.entries.map fun entry => entry.1.toNat).toFinset

theorem find?_eq_some_iff {parts : Parts} {sequence : UInt32} {payload : Bytes} :
    parts.find? sequence = some payload ↔ (sequence, payload) ∈ parts.entries :=
  Entry.find?_eq_some_iff parts.decreasing

theorem mem_keys_iff {parts : Parts} {number : ℕ} :
    number ∈ parts.keys ↔ ∃ entry ∈ parts.entries, entry.1.toNat = number := by
  simp [keys]

theorem mem_keys_iff_find? {parts : Parts} {number : ℕ} :
    number ∈ parts.keys ↔
      ∃ sequence payload, parts.find? sequence = some payload ∧ sequence.toNat = number := by
  simp only [mem_keys_iff, find?_eq_some_iff, Prod.exists, exists_and_right]

theorem toNat_mem_keys_iff {parts : Parts} {sequence : UInt32} :
    sequence.toNat ∈ parts.keys ↔ ∃ payload, parts.find? sequence = some payload := by
  rw [mem_keys_iff_find?]
  constructor
  · intro hexists
    rcases hexists with ⟨stored, payload, hfound, heq⟩
    rw [UInt32.toNat_inj] at heq
    exact ⟨payload, heq ▸ hfound⟩
  · intro hexists
    rcases hexists with ⟨payload, hfound⟩
    exact ⟨sequence, payload, hfound, rfl⟩

theorem mem_entries_insert_iff {parts : Parts} {sequence : UInt32} {payload : Bytes}
    {entry : Entry} :
    entry ∈ (parts.insert sequence payload).entries ↔
      entry = (sequence, payload) ∨ entry ∈ parts.entries ∧ entry.1 ≠ sequence :=
  Entry.mem_insert_iff parts.decreasing

/-- The entries stand in one order only, so the payloads under the numbers are all that there is. -/
theorem ext_find? {parts other : Parts} (hfind : parts.find? = other.find?) : parts = other := by
  have hirrefl : Std.Irrefl fun earlier later : Entry => later.1 < earlier.1 :=
    ⟨fun entry => UInt32.lt_irrefl entry.1⟩
  have hantisymm : Std.Antisymm fun earlier later : Entry => later.1 < earlier.1 :=
    ⟨fun entry _ hlt hgt => absurd (UInt32.lt_trans hlt hgt) (UInt32.lt_irrefl _)⟩
  have hentries : parts.entries = other.entries := by
    apply parts.decreasing.eq_of_mem_iff other.decreasing
    intro entry
    rw [← find?_eq_some_iff, ← find?_eq_some_iff, hfind]
  cases parts
  cases other
  simp only [mk.injEq]
  exact hentries

@[simp] theorem find?_empty (sequence : UInt32) : empty.find? sequence = none := rfl

theorem find?_insert (parts : Parts) (sequence other : UInt32) (payload : Bytes) :
    (parts.insert sequence payload).find? other =
      if other = sequence then some payload else parts.find? other := by
  apply Option.ext
  intro found
  rw [find?_eq_some_iff, mem_entries_insert_iff]
  by_cases hsame : other = sequence
  · simp [hsame, eq_comm]
  · simp [hsame, find?_eq_some_iff]

@[simp] theorem keys_empty : empty.keys = ∅ := rfl

@[simp] theorem keys_insert (parts : Parts) (sequence : UInt32) (payload : Bytes) :
    (parts.insert sequence payload).keys = Insert.insert sequence.toNat parts.keys := by
  ext number
  rw [Finset.mem_insert, mem_keys_iff, mem_keys_iff]
  constructor
  · intro hexists
    rcases hexists with ⟨entry, hmem, rfl⟩
    rcases mem_entries_insert_iff.mp hmem with rfl | ⟨hmem, _⟩
    · exact .inl rfl
    · exact .inr ⟨entry, hmem, rfl⟩
  · intro hcases
    rcases hcases with rfl | ⟨entry, hmem, rfl⟩
    · exact ⟨_, mem_entries_insert_iff.mpr (.inl rfl), rfl⟩
    · by_cases hsame : entry.1 = sequence
      · exact ⟨_, mem_entries_insert_iff.mpr (.inl rfl), by rw [hsame]⟩
      · exact ⟨entry, mem_entries_insert_iff.mpr (.inr ⟨hmem, hsame⟩), rfl⟩

/-! ## The numbers in increasing order -/

def numbers (parts : Parts) : List ℕ :=
  parts.ascending.map fun entry => entry.1.toNat

theorem numbers_increasing (parts : Parts) : parts.numbers.Pairwise (· < ·) := by
  unfold numbers ascending
  rw [List.map_reverse, List.pairwise_reverse, List.pairwise_map]
  exact parts.decreasing.imp fun hlt => UInt32.lt_iff_toNat_lt.mp hlt

theorem mem_numbers_iff {parts : Parts} {number : ℕ} :
    number ∈ parts.numbers ↔ number ∈ parts.keys := by
  unfold numbers ascending keys
  rw [List.map_reverse, List.mem_reverse, List.mem_toFinset]

theorem length_numbers (parts : Parts) : parts.numbers.length = parts.size := by
  simp [numbers, ascending, size]

theorem card_keys (parts : Parts) : parts.keys.card = parts.size := by
  have hkeys : parts.keys = parts.numbers.toFinset := by
    ext number
    rw [List.mem_toFinset, mem_numbers_iff]
  rw [hkeys, List.toFinset_card_of_nodup (parts.numbers_increasing.imp Nat.ne_of_lt),
    length_numbers]

theorem gapFrom_eq_none_iff {expected : ℕ} {entries : List Entry} :
    gapFrom expected entries = none ↔
      (entries.map fun entry => entry.1.toNat) = List.range' expected entries.length := by
  induction entries generalizing expected with
  | nil => simp [gapFrom]
  | cons first entries ih =>
      rw [gapFrom, List.map_cons, List.length_cons, List.range'_succ, List.cons.injEq]
      split
      · next hsame => rw [ih, and_iff_right hsame]
      · next hdifferent => simp [hdifferent]

theorem gapFrom_eq_some {expected gap : ℕ} {entries : List Entry}
    (hincreasing : (entries.map fun entry => entry.1.toNat).Pairwise (· < ·))
    (hlow : ∀ number ∈ entries.map fun entry => entry.1.toNat, expected ≤ number)
    (hgap : gapFrom expected entries = some gap) :
    expected ≤ gap ∧ (gap ∉ entries.map fun entry => entry.1.toNat) ∧
      (∀ number, expected ≤ number → number < gap →
        number ∈ entries.map fun entry => entry.1.toNat) ∧
      ∃ number ∈ entries.map fun entry => entry.1.toNat, gap < number := by
  induction entries generalizing expected with
  | nil => cases hgap
  | cons first entries ih =>
      rw [List.map_cons] at hincreasing hlow ⊢
      rcases List.pairwise_cons.mp hincreasing with ⟨hfirst, hrest⟩
      rw [gapFrom] at hgap
      split at hgap
      · next hsame =>
          have hlowRest : ∀ number ∈ entries.map fun entry => entry.1.toNat,
              expected + 1 ≤ number := by
            intro number hmem
            have hlt := hfirst number hmem
            omega
          obtain ⟨hle, habsent, hbelow, number, hmem, hlt⟩ := ih hrest hlowRest hgap
          refine ⟨by omega, ?_, ?_, number, List.mem_cons_of_mem _ hmem, hlt⟩
          · rw [List.mem_cons]
            intro hmem
            rcases hmem with heq | hmem
            · omega
            · exact habsent hmem
          · intro number hlower hupper
            by_cases heq : number = expected
            · rw [heq, hsame]
              exact List.mem_cons_self
            · exact List.mem_cons_of_mem _ (hbelow number (by omega) hupper)
      · next hdifferent =>
          cases hgap
          have hexpected := hlow _ List.mem_cons_self
          refine ⟨le_rfl, ?_, fun number hlower hupper => by omega, first.1.toNat,
            List.mem_cons_self, by omega⟩
          rw [List.mem_cons]
          intro hmem
          rcases hmem with heq | hmem
          · exact hdifferent heq.symm
          · have hlt := hfirst _ hmem
            omega

theorem firstGap_eq_some {parts : Parts} {gap : ℕ} (hgap : parts.firstGap = some gap) :
    gap ∉ parts.keys ∧ (∀ number < gap, number ∈ parts.keys) ∧
      ∃ number ∈ parts.keys, gap < number := by
  obtain ⟨_, habsent, hbelow, number, hmem, hlt⟩ :=
    gapFrom_eq_some parts.numbers_increasing (fun _ _ => Nat.zero_le _) hgap
  refine ⟨fun hmem => habsent (mem_numbers_iff.mpr hmem), fun number hlt => ?_, number,
    mem_numbers_iff.mp hmem, hlt⟩
  exact mem_numbers_iff.mp (hbelow number (Nat.zero_le _) hlt)

/-- Without a gap the numbers count the entries. -/
theorem numbers_of_firstGap {parts : Parts} (hgap : parts.firstGap = none) :
    parts.numbers = List.range parts.size := by
  rw [numbers, gapFrom_eq_none_iff.mp hgap, List.range_eq_range', ← length_numbers, numbers,
    List.length_map]

theorem firstGap_eq_none_iff {parts : Parts} :
    parts.firstGap = none ↔ parts.keys = Finset.range parts.size := by
  constructor
  · intro hgap
    ext number
    rw [← mem_numbers_iff, numbers_of_firstGap hgap, List.mem_range, Finset.mem_range]
  · intro hkeys
    cases hgap : parts.firstGap with
    | none => rfl
    | some gap =>
        obtain ⟨habsent, _, number, hmem, hlt⟩ := firstGap_eq_some hgap
        rw [hkeys, Finset.mem_range] at habsent hmem
        omega

theorem firstGap_eq_some_iff {parts : Parts} {gap : ℕ} :
    parts.firstGap = some gap ↔
      gap ∉ parts.keys ∧ (∀ number < gap, number ∈ parts.keys) ∧
        ∃ number ∈ parts.keys, gap < number := by
  refine ⟨firstGap_eq_some, ?_⟩
  intro hleast
  rcases hleast with ⟨habsent, hbelow, number, hmem, hlt⟩
  cases hfound : parts.firstGap with
  | none =>
      rw [firstGap_eq_none_iff.mp hfound, Finset.mem_range] at habsent hmem
      omega
  | some other =>
      obtain ⟨hotherAbsent, hotherBelow, _⟩ := firstGap_eq_some hfound
      have hnotLt : ¬ gap < other := fun hlt => habsent (hotherBelow gap hlt)
      have hnotGt : ¬ other < gap := fun hlt => hotherAbsent (hbelow other hlt)
      rw [Option.some.injEq]
      omega

/-! ## Pieces of one row -/

/-- Every payload stands in the row at the place that its number names. -/
def FromRow (parts : Parts) (row : List Bytes) : Prop :=
  ∀ entry ∈ parts.entries, row[entry.1.toNat]? = some entry.2

theorem fromRow_empty (row : List Bytes) : empty.FromRow row := by
  intro entry hmem
  cases hmem

theorem FromRow.insert {parts : Parts} {row : List Bytes} (hrow : parts.FromRow row)
    {sequence : UInt32} {payload : Bytes} (hpayload : row[sequence.toNat]? = some payload) :
    (parts.insert sequence payload).FromRow row := by
  intro entry hmem
  rcases mem_entries_insert_iff.mp hmem with rfl | ⟨hmem, _⟩
  · exact hpayload
  · exact hrow entry hmem

theorem FromRow.find? {parts : Parts} {row : List Bytes} (hrow : parts.FromRow row)
    {sequence : UInt32} {payload : Bytes} (hfound : parts.find? sequence = some payload) :
    row[sequence.toNat]? = some payload :=
  hrow _ (find?_eq_some_iff.mp hfound)

/-- An initial segment of a row is put together in the order of the row. -/
theorem FromRow.joined {parts : Parts} {row : List Bytes} (hrow : parts.FromRow row)
    (hgap : parts.firstGap = none) : parts.joined = (row.take parts.size).flatten := by
  have hpayloads : parts.ascending.map (·.2) = row.take parts.size := by
    apply List.ext_getElem?
    intro place
    have hnumbers := congrArg (·[place]?) (numbers_of_firstGap hgap)
    simp only [numbers, List.getElem?_map] at hnumbers
    rw [List.getElem?_map, List.getElem?_take]
    by_cases hplace : place < parts.size
    · rw [List.getElem?_range hplace, Option.map_eq_some_iff] at hnumbers
      rcases hnumbers with ⟨entry, hentry, hnumber⟩
      have hmem : entry ∈ parts.entries := List.mem_reverse.mp (List.mem_of_getElem? hentry)
      rw [hentry, if_pos hplace, ← hnumber, hrow entry hmem, Option.map_some]
    · have hbeyond : parts.ascending.length ≤ place := by
        unfold ascending
        rw [List.length_reverse]
        exact Nat.le_of_not_lt hplace
      rw [List.getElem?_eq_none hbeyond, if_neg hplace, Option.map_none]
  unfold Parts.joined
  rw [hpayloads]

end Parts

end DatagramShell
