import KernelArchive.Text.Lowercase

/-!
# Words of ASCII in lower case

* `Text.Sole`: a character of ASCII in lower case that no character outside of ASCII becomes.
* `Text.lowercaseAfter_cons_cases`: what one character becomes, as far as such characters tell.
* `Text.lowercase_eq_iff`: a text becomes a word of such characters only if it is the word but for
  the case of ASCII letters.
-/

namespace KernelArchive.Text
set_option autoImplicit false

variable {c t : Char} {n : Nat} {cs word : List Char}

/-! ## Code points -/

/-- The Kelvin sign, which becomes `k`. -/
def kelvin : CaseRun := ⟨0x212A, 0x212A, 1, 0x6B⟩

theorem ascii_runs : ∀ run ∈ caseRuns, run.last < 128 ∨ 128 ≤ run.image ∨ run = kelvin := by
  decide +kernel

theorem valid_runs : ∀ run ∈ caseRuns, run.image + (run.last - run.first) < 0xD800 ∨
    0xDFFF < run.image ∧ run.image + (run.last - run.first) < 0x110000 := by
  decide +kernel

theorem CaseRun.holds_iff {run : CaseRun} :
    run.holds n = true ↔ run.first ≤ n ∧ n ≤ run.last ∧ (n - run.first) % run.step = 0 := by
  rw [CaseRun.holds, Bool.and_eq_true, Bool.and_eq_true, decide_eq_true_eq, decide_eq_true_eq,
    beq_iff_eq, and_assoc]

theorem lowerCode_cases (n : Nat) :
    lowerCode n = n ∨ ∃ run ∈ caseRuns, run.holds n = true ∧ lowerCode n = run.lower n := by
  unfold lowerCode
  cases hrun : caseRuns.find? (·.holds n) with
  | none => exact .inl rfl
  | some run =>
    have hholds := List.find?_some hrun
    exact .inr ⟨run, List.mem_of_find?_eq_some hrun, hholds, rfl⟩

theorem lowerCode_outside (h : 128 ≤ n) (hkelvin : n ≠ 0x212A) : 128 ≤ lowerCode n := by
  obtain hsame | ⟨run, hrun, hholds, hlower⟩ := lowerCode_cases n
  · omega
  · obtain ⟨hfirst, hlast, -⟩ := CaseRun.holds_iff.1 hholds
    rw [hlower, CaseRun.lower]
    obtain hascii | himage | rfl := ascii_runs run hrun
    · omega
    · omega
    · have hn : n = 0x212A := Nat.le_antisymm hlast hfirst
      exact absurd hn hkelvin

theorem lowerCode_valid (c : Char) : (lowerCode c.toNat).isValidChar := by
  obtain hsame | ⟨run, hrun, hholds, hlower⟩ := lowerCode_cases c.toNat
  · rw [hsame]
    exact c.valid
  · obtain ⟨hfirst, hlast, -⟩ := CaseRun.holds_iff.1 hholds
    rw [hlower, CaseRun.lower]
    obtain hbelow | ⟨habove, hend⟩ := valid_runs run hrun
    · exact .inl (by omega)
    · exact .inr ⟨by omega, by omega⟩

/-! ## Characters -/

theorem toNat_ofNat (h : n.isValidChar) : (Char.ofNat n).toNat = n := by
  rw [Char.ofNat, dif_pos h]
  rfl

theorem ofNat_lowerCode_of_ascii (h : c.toNat < 128) :
    Char.ofNat (lowerCode c.toNat) = c.toLower := by
  have hall : ∀ n : Fin 128, Char.ofNat (lowerCode n) = (Char.ofNat n).toLower := by
    decide +kernel
  exact (hall ⟨c.toNat, h⟩).trans (by rw [Char.ofNat_toNat])

theorem toLower_outside (h : 128 ≤ c.toNat) : c.toLower = c := by
  have hletter : ¬ (c.val ≥ 'A'.val ∧ c.val ≤ 'Z'.val) := by
    rintro ⟨-, hz⟩
    have hbelow : c.toNat ≤ 90 := hz
    omega
  exact dif_neg hletter

/-- A character of ASCII in lower case that no character outside of ASCII becomes. -/
def Sole (t : Char) : Prop := t.toNat < 128 ∧ t.toLower = t ∧ t ≠ 'k'

instance : DecidablePred Sole := fun t =>
  inferInstanceAs (Decidable (t.toNat < 128 ∧ t.toLower = t ∧ t ≠ 'k'))

theorem Sole.ne_outside (ht : Sole t) (h : 128 ≤ c.toNat) : c ≠ t := by
  rintro rfl
  exact absurd ht.1 (by omega)

theorem ofNat_lowerCode_eq_iff (ht : Sole t) :
    Char.ofNat (lowerCode c.toNat) = t ↔ c.toLower = t := by
  by_cases hascii : c.toNat < 128
  · rw [ofNat_lowerCode_of_ascii hascii]
  · have houtside : 128 ≤ c.toNat := by omega
    rw [toLower_outside houtside]
    refine iff_of_false ?_ (ht.ne_outside houtside)
    intro h
    have hcode : lowerCode c.toNat = t.toNat := by rw [← h, toNat_ofNat (lowerCode_valid c)]
    by_cases hkelvin : c.toNat = 0x212A
    · rw [hkelvin] at h
      exact ht.2.2 h.symm
    · have habove := lowerCode_outside houtside hkelvin
      have hbelow := ht.1
      omega

/-! ## Texts -/

/-- A character becomes one character, which is sole if it is one but for ASCII case; or it is `İ`,
which becomes `i` and a mark. -/
theorem lowercaseAfter_cons_cases (before : List Char) (c : Char) (rest : List Char) :
    (∃ x, lowercaseAfter before (c :: rest) = x :: lowercaseAfter (c :: before) rest ∧
      ∀ t, Sole t → (x = t ↔ c.toLower = t)) ∨
    (c = 'İ' ∧ lowercaseAfter before (c :: rest) =
      'i' :: '\u0307' :: lowercaseAfter (c :: before) rest) := by
  rw [lowercaseAfter]
  by_cases hsigma : c = 'Σ'
  · subst hsigma
    refine .inl ⟨_, by rw [if_pos rfl]; rfl, fun t ht => ?_⟩
    have hcapital : ('Σ' : Char).toLower ≠ t := ht.ne_outside (by decide)
    refine iff_of_false ?_ hcapital
    split
    · exact ht.ne_outside (by decide)
    · exact ht.ne_outside (by decide)
  · rw [if_neg hsigma, lowerChars]
    by_cases hdotted : c = 'İ'
    · rw [if_pos hdotted]
      exact .inr ⟨hdotted, rfl⟩
    · rw [if_neg hdotted]
      exact .inl ⟨_, rfl, fun t ht => ofNat_lowerCode_eq_iff ht⟩

theorem lowercaseAfter_eq_iff (before : List Char) (hword : ∀ t ∈ word, Sole t) :
    lowercaseAfter before cs = word ↔ cs.map Char.toLower = word := by
  induction cs generalizing before word with
  | nil => rfl
  | cons c rest ih =>
    cases word with
    | nil =>
      obtain ⟨x, hx, -⟩ | ⟨-, hx⟩ := lowercaseAfter_cons_cases before c rest <;> simp [hx]
    | cons t word =>
      obtain ⟨ht, hword⟩ := List.forall_mem_cons.1 hword
      rw [List.map_cons, List.cons.injEq]
      obtain ⟨x, hx, hsole⟩ | ⟨rfl, hx⟩ := lowercaseAfter_cons_cases before c rest
      · rw [hx, List.cons.injEq, hsole t ht, ih _ hword]
      · -- the mark is in no such word, and `İ` is no letter of ASCII
        have hcapital : ('İ' : Char).toLower ≠ t := ht.ne_outside (by decide)
        rw [hx]
        refine iff_of_false ?_ fun h => hcapital h.1
        intro h
        have hmark : '\u0307' ∈ word := by rw [← (List.cons.inj h).2]; exact List.mem_cons_self
        exact (hword _ hmark).ne_outside (by decide) rfl

/-- A text becomes a word of ASCII in lower case only by the case of ASCII letters, unless the word
has a `k`. -/
theorem lowercase_eq_iff (hword : ∀ t ∈ word, Sole t) :
    lowercase cs = word ↔ cs.map Char.toLower = word :=
  lowercaseAfter_eq_iff [] hword

theorem lowercase_eq_nil_iff : lowercase cs = [] ↔ cs = [] :=
  (lowercase_eq_iff (List.forall_mem_nil _)).trans List.map_eq_nil_iff

/-- With a `k` it is otherwise. -/
example : lowercase ['\u212A'] = ['k'] ∧ ['\u212A'].map Char.toLower ≠ ['k'] := by decide +kernel

end KernelArchive.Text
