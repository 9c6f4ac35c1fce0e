import DatagramShell.Options.Scan
import Mathlib.Tactic

/-!
# What a command line has been read from

A setting that has been read comes from its reader, and a flag that has been found is spelled out in
one of the arguments, in full or by its letter.
-/

namespace DatagramShell

section Reading

variable {α β : Type}

theorem exists_of_map_eq_ok {result : Except OptionFault α} {f : α → β} {value : β}
    (hmap : result.map f = .ok value) : ∃ inner, result = .ok inner ∧ f inner = value := by
  cases result with
  | error fault => cases hmap
  | ok inner => exact ⟨inner, rfl, Except.ok.inj hmap⟩

theorem exists_of_bind_eq_ok {result : Except OptionFault α} {f : α → Except OptionFault β}
    {value : β} (hbind : (result >>= f) = .ok value) :
    ∃ inner, result = .ok inner ∧ f inner = .ok value := by
  cases result with
  | error fault => cases hbind
  | ok inner => exact ⟨inner, rfl, hbind⟩

theorem exists_of_foldlM_cons {σ ι : Type} {f : σ → ι → Except OptionFault σ} {start last : σ}
    {item : ι} {items : List ι} (hfold : (item :: items).foldlM f start = .ok last) :
    ∃ middle, f start item = .ok middle ∧ items.foldlM f middle = .ok last := by
  rw [List.foldlM_cons] at hfold
  exact exists_of_bind_eq_ok hfold

theorem readWith_eq_ok_iff {read : String → Option α} {text : String} {value : α} :
    readWith read text = .ok value ↔ read text = some value := by
  unfold readWith
  cases read text <;> simp

variable {read : String → Except OptionFault α}

theorem readOnce_eq_ok_iff {current next : Option α} {text : String} :
    readOnce current read text = .ok next ↔
      current = none ∧ ∃ value, read text = .ok value ∧ next = some value := by
  cases current with
  | some value => simp [readOnce]
  | none =>
      cases hread : read text with
      | error fault => simp [readOnce, hread, Except.map]
      | ok value => simp [readOnce, hread, Except.map, eq_comm]

variable {property : α → Prop}

theorem getD_of_forall_mem {current : Option α} (hcurrent : ∀ value ∈ current, property value)
    {default : α} (hdefault : property default) : property (current.getD default) := by
  cases current with
  | none => exact hdefault
  | some value => exact hcurrent value rfl

theorem forall_mem_of_readOnce (hread : ∀ text value, read text = .ok value → property value)
    {current next : Option α} {text : String} (honce : readOnce current read text = .ok next) :
    ∀ value ∈ next, property value := by
  obtain ⟨_, value, hvalue, rfl⟩ := readOnce_eq_ok_iff.mp honce
  intro other hother
  cases hother
  exact hread text value hvalue

end Reading

/-! ## Flags -/

namespace ArgumentForm

theorem eq_of_splitName_eq_none {text : List Char} (hvalue : (splitName text).2 = none) :
    (splitName text).1 = String.ofList text := by
  unfold splitName at hvalue ⊢
  split at hvalue
  · rfl
  · cases hvalue

theorem eq_of_ofText_eq_long {argument name : String} (hform : ofText argument = .long name none) :
    argument = "--" ++ name := by
  unfold ofText at hform
  split at hform
  · cases hform
  · next text _ hlist =>
      rw [long.injEq] at hform
      obtain ⟨rfl, hvalue⟩ := hform
      rw [← String.toList_inj, hlist, eq_of_splitName_eq_none hvalue, String.toList_append]
      simp
  · cases hform
  · cases hform
  · cases hform

end ArgumentForm

variable {ι : Type} {vocabulary : Vocabulary ι} {option : ι}

theorem Pending.flag_notMem_settle (pending : Pending ι) : .flag option ∉ pending.settle := by
  cases pending <;> simp [settle]

namespace Vocabulary

/-- The argument is the option's name without a value, or holds its letter. -/
def Spells (vocabulary : Vocabulary ι) (option : ι) (argument : String) : Prop :=
  match ArgumentForm.ofText argument with
  | .long name value => vocabulary.long? name = some option ∧ value = none
  | .short letters => ∃ letter ∈ letters, vocabulary.short? letter = some option
  | .escape | .plain => False

theorem eq_of_finding_eq_flag {other : ι} (hfinding : vocabulary.finding other = .flag option) :
    other = option := by
  unfold finding at hfinding
  split at hfinding
  · cases hfinding
  · cases hfinding
  · exact Finding.flag.inj hfinding

theorem flag_notMem_scanWords (pending : Pending ι) (words : List String) :
    .flag option ∉ vocabulary.scanWords pending words := by
  have hsettle : .flag option ∉ pending.settle := pending.flag_notMem_settle
  unfold scanWords
  split
  · exact hsettle
  · split
    · simpa using hsettle
    · simp

theorem flag_notMem_stepPlain (pending : Pending ι) (argument : String)
    (following : List String) :
    .flag option ∉ (vocabulary.stepPlain pending argument following).1 := by
  have hwords : .flag option ∉ vocabulary.scanWords pending (argument :: following) :=
    flag_notMem_scanWords pending _
  unfold stepPlain
  split
  · simp
  · exact hwords

theorem eq_of_flag_mem_stepLong {pending : Pending ι} {other : ι} {value : Option String}
    (hmem : .flag option ∈ (vocabulary.stepLong pending other value).1) :
    other = option ∧ value = none := by
  have hsettle : .flag option ∉ pending.settle := pending.flag_notMem_settle
  unfold stepLong at hmem
  split at hmem
  · exact absurd hmem hsettle
  · simp [hsettle] at hmem
  · simp only [List.mem_append, hsettle, false_or, List.mem_singleton] at hmem
    exact ⟨eq_of_finding_eq_flag hmem.symm, rfl⟩
  · simp at hmem

theorem exists_letter_of_flag_mem {pending : Pending ι} {letters : List Char}
    (hmem : .flag option ∈ (vocabulary.scanLetters pending letters).1) :
    ∃ letter ∈ letters, vocabulary.short? letter = some option := by
  induction letters generalizing pending with
  | nil => exact absurd hmem pending.flag_notMem_settle
  | cons letter letters ih =>
      have hsettle : .flag option ∉ pending.settle := pending.flag_notMem_settle
      unfold scanLetters at hmem
      cases hletter : vocabulary.short? letter with
      | none => simp [hletter] at hmem
      | some other =>
          simp only [hletter] at hmem
          split at hmem
          · split at hmem <;> simp [hsettle] at hmem
          · simp only [List.mem_append, hsettle, false_or, List.mem_cons] at hmem
            rcases hmem with hfirst | hlater
            · rw [eq_of_finding_eq_flag hfirst.symm] at hletter
              exact ⟨letter, List.mem_cons_self, hletter⟩
            · obtain ⟨later, hlaterMem, hlaterLetter⟩ := ih hlater
              exact ⟨later, List.mem_cons_of_mem _ hlaterMem, hlaterLetter⟩

theorem spells_of_flag_mem_step {pending : Pending ι} {argument : String}
    {following : List String}
    (hmem : .flag option ∈ (vocabulary.step pending argument following).1) :
    vocabulary.Spells option argument := by
  have hplain : .flag option ∉ (vocabulary.stepPlain pending argument following).1 :=
    flag_notMem_stepPlain pending argument following
  unfold step at hmem
  split at hmem
  · exact absurd hmem hplain
  · unfold Spells
    split at hmem
    · exact absurd hmem (flag_notMem_scanWords pending following)
    · exact absurd hmem hplain
    · next name value hform =>
        simp only [hform]
        split at hmem
        · next other hother =>
            obtain ⟨rfl, hvalue⟩ := eq_of_flag_mem_stepLong hmem
            exact ⟨hother, hvalue⟩
        · split at hmem
          · exact absurd hmem hplain
          · simp at hmem
    · next letters hform =>
        simp only [hform]
        split at hmem
        · exact absurd hmem hplain
        · exact exists_letter_of_flag_mem hmem

/-- A flag is found only where one of the arguments spells it. -/
theorem exists_spells_of_flag_mem {pending : Pending ι} {arguments : List String}
    (hmem : .flag option ∈ vocabulary.scan pending arguments) :
    ∃ argument ∈ arguments, vocabulary.Spells option argument := by
  induction arguments generalizing pending with
  | nil => exact absurd hmem pending.flag_notMem_settle
  | cons argument arguments ih =>
      have hfirst : .flag option ∈ (vocabulary.step pending argument arguments).1 →
          vocabulary.Spells option argument := spells_of_flag_mem_step
      unfold scan at hmem
      split at hmem
      · next hstep =>
          rw [hstep] at hfirst
          exact ⟨argument, List.mem_cons_self, hfirst hmem⟩
      · next hstep =>
          rw [hstep] at hfirst
          rcases List.mem_append.mp hmem with hhere | hlater
          · exact ⟨argument, List.mem_cons_self, hfirst hhere⟩
          · obtain ⟨later, hlaterMem, hspells⟩ := ih hlater
            exact ⟨later, List.mem_cons_of_mem _ hlaterMem, hspells⟩

end Vocabulary

end DatagramShell
