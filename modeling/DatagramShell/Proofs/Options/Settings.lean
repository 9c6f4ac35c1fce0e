import DatagramShell.Proofs.Options.Writing

/-!
# Settings with a field for every option

Where an option touches no field but its own, the fields can be looked at one by one: what ends up
in a field depends on the texts that its own option is given, in their order, and on nothing
else.  So occurrences of different options may change places.
-/

namespace DatagramShell

variable {ι σ α : Type}

/-! ## The texts that an option is given -/

namespace OptionKind

/-- An option that is given to set something. -/
def isGiven : OptionKind → Bool
  | .help | .version => false
  | _ => true

theorem isGiven_of_takesValue {kind : OptionKind} (hkind : kind.takesValue = true) :
    kind.isGiven = true := by
  cases kind <;> first | rfl | cases hkind

end OptionKind

namespace Finding

/-- The option that is given, and its text; a flag is given by itself and counts as switched on. -/
def gives? : Finding ι → Option (ι × String)
  | .flag option => some (option, "true")
  | .value option text => some (option, text)
  | _ => none

def texts [DecidableEq ι] (option : ι) (said : List (Finding ι)) : List String :=
  ((said.filterMap gives?).filter (·.1 = option)).map Prod.snd

variable [DecidableEq ι] {option other : ι} {text : String} {finding : Finding ι}
  {said others : List (Finding ι)}

theorem texts_cons_self (hgives : finding.gives? = some (option, text)) :
    texts option (finding :: said) = text :: texts option said := by
  simp [texts, hgives]

theorem texts_cons_of_ne (hgives : finding.gives? = some (other, text)) (hne : other ≠ option) :
    texts option (finding :: said) = texts option said := by
  simp [texts, hgives, hne]

theorem texts_append :
    texts option (said ++ others) = texts option said ++ texts option others := by
  simp [texts]

/-- If an option is given once at most, it does not matter where. -/
theorem texts_eq_of_perm (hperm : others.Perm said) (honce : (texts option said).length ≤ 1) :
    texts option others = texts option said := by
  have htexts : (texts option others).Perm (texts option said) :=
    ((hperm.filterMap gives?).filter _).map Prod.snd
  match hsaid : texts option said with
  | [] => exact List.Perm.eq_nil (hsaid ▸ htexts)
  | [text] => exact List.perm_singleton.mp (hsaid ▸ htexts)
  | _ :: _ :: _ => simp [hsaid] at honce

end Finding

/-! ## Reading them -/

section Reading

variable {read : String → Except OptionFault α}

theorem foldlM_readOnce {text : String} {value : α} (hread : read text = .ok value) :
    [text].foldlM (fun current => readOnce current read) none = .ok (some value) := by
  simp [readOnce, hread, Except.map]

end Reading

/-! ## Fields -/

/-- Settings with a field for every option.  What is said of an option changes its own field, by
what the option's text adds to it. -/
structure Fields (vocabulary : Vocabulary ι) (σ : Type) where
  Value : ι → Type
  get : σ → (option : ι) → Option (Value option)
  set : σ → (option : ι) → Option (Value option) → σ
  add : (option : ι) → Option (Value option) → String → Except OptionFault (Option (Value option))
  takeIn : σ → Finding ι → Except OptionFault σ
  get_set : ∀ {option : ι} (settings : σ) (next : Option (Value option)),
    (vocabulary.kind option).isGiven = true → get (set settings option next) option = next
  get_set_of_ne : ∀ {option other : ι} (settings : σ) (next : Option (Value option)),
    other ≠ option → get (set settings option next) other = get settings other
  takeIn_flag : ∀ {option : ι} (settings : σ), vocabulary.kind option = .flag →
    takeIn settings (.flag option) =
      (add option (get settings option) "true").map (set settings option)
  takeIn_value : ∀ {option : ι} (settings : σ) (text : String),
    (vocabulary.kind option).takesValue = true →
      takeIn settings (.value option text) =
        (add option (get settings option) text).map (set settings option)

namespace Fields

variable {vocabulary : Vocabulary ι} (fields : Fields vocabulary σ)

theorem exists_after {option : ι} (hkind : (vocabulary.kind option).isGiven = true)
    {finding : Finding ι} {text : String} {settings : σ} {next : Option (fields.Value option)}
    (htake : fields.takeIn settings finding =
      (fields.add option (fields.get settings option) text).map (fields.set settings option))
    (hadd : fields.add option (fields.get settings option) text = .ok next) :
    ∃ after, fields.takeIn settings finding = .ok after ∧ fields.get after option = next ∧
      ∀ other, other ≠ option → fields.get after other = fields.get settings other := by
  refine ⟨fields.set settings option next, ?_, fields.get_set settings next hkind, ?_⟩
  · rw [htake, hadd]
    rfl
  · intro other hother
    exact fields.get_set_of_ne settings next hother

theorem exists_takeIn {finding : Finding ι} {arguments : List String}
    (hwrites : vocabulary.Writes finding arguments) :
    ∃ option text, finding.gives? = some (option, text) ∧
      ∀ {settings next}, fields.add option (fields.get settings option) text = .ok next →
        ∃ after, fields.takeIn settings finding = .ok after ∧ fields.get after option = next ∧
          ∀ other, other ≠ option → fields.get after other = fields.get settings other := by
  cases hwrites with
  | flag _ hkind =>
      exact ⟨_, _, rfl, fields.exists_after (by rw [hkind]; rfl) (fields.takeIn_flag _ hkind)⟩
  | apart _ hkind =>
      exact ⟨_, _, rfl,
        fields.exists_after (OptionKind.isGiven_of_takesValue hkind)
          (fields.takeIn_value _ _ hkind)⟩
  | joined _ hkind =>
      exact ⟨_, _, rfl,
        fields.exists_after (OptionKind.isGiven_of_takesValue hkind)
          (fields.takeIn_value _ _ hkind)⟩

/-- Every field ends up with what its own texts make of it. -/
theorem exists_foldlM [DecidableEq ι] {said : List (Finding ι)} {arguments : List String}
    (hwrites : vocabulary.WritesAll said arguments) {settings : σ}
    {value : (option : ι) → Option (fields.Value option)}
    (hvalue : ∀ option, (Finding.texts option said).foldlM (fields.add option)
      (fields.get settings option) = .ok (value option)) :
    ∃ after, said.foldlM fields.takeIn settings = .ok after ∧
      ∀ option, fields.get after option = value option := by
  -- The first finding is the first text of its own option and no text of any other, so what the
  -- fields still have to take in is what the later findings give them.
  induction hwrites generalizing settings with
  | nil => exact ⟨settings, rfl, fun option => Except.ok.inj (hvalue option)⟩
  | @cons finding said _ _ hfirst _ ih =>
      obtain ⟨option, text, hgives, htakeIn⟩ := fields.exists_takeIn hfirst
      have hthis := hvalue option
      rw [Finding.texts_cons_self hgives, List.foldlM_cons] at hthis
      obtain ⟨next, hadd, hlater⟩ := exists_of_bind_eq_ok hthis
      obtain ⟨middle, htake, hget, hothers⟩ := htakeIn hadd
      have hmiddle : ∀ other, (Finding.texts other said).foldlM (fields.add other)
          (fields.get middle other) = .ok (value other) := by
        intro other
        by_cases hsame : other = option
        · subst hsame
          rw [hget]
          exact hlater
        · rw [hothers other hsame, ← hvalue other, Finding.texts_cons_of_ne hgives (Ne.symm hsame)]
      obtain ⟨after, hafter, hvalues⟩ := ih hmiddle
      refine ⟨after, ?_, hvalues⟩
      rw [List.foldlM_cons, htake]
      exact hafter

end Fields

end DatagramShell
