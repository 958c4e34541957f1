import Mathlib.Data.Bool.AllAny
import KernelArchive.Proofs.Text.Lowercase
import KernelArchive.Text.Blank

/-!
# Texts in lower case

* `Text.Lowered`: a character that lower case leaves as it is, wherever it stands.
* `Text.lowercase_lowercase`: lower case consists of such characters, so putting it in lower case
  again changes nothing.
* `Text.isEdge`: commas and white space. Lower case has one only where the text had it
  (`eq_of_mem_becomes`).
-/

namespace KernelArchive.Text
set_option autoImplicit false

variable {c x : Char} {n : Nat} {before cs rest : List Char}

/-! ## Code points -/

/-- The code point of `İ`, the one letter that becomes two characters. -/
def dotted : CaseRun := ⟨0x130, 0x130, 1, 0x69⟩

/-- No partner of the one run belongs to the other: they lie apart, or they alternate. -/
def CaseRun.misses (r s : CaseRun) : Bool :=
  s.last.blt r.image || (r.image + (r.last - r.first)).blt s.first ||
    s.step == 2 && (r.step == 2 || r.first == r.last) && (r.image + s.first) % 2 == 1

theorem CaseRun.not_holds_lower {r s : CaseRun} (hmiss : r.misses s = true)
    (hn : r.holds n = true) : s.holds (r.lower n) = false := by
  obtain ⟨hfirst, hlast, hstep⟩ := CaseRun.holds_iff.1 hn
  rw [Bool.eq_false_iff, Ne, CaseRun.holds_iff, CaseRun.lower]
  rintro ⟨hfirst', hlast', hstep'⟩
  simp only [CaseRun.misses, Nat.blt_eq, Bool.or_eq_true, Bool.and_eq_true, beq_iff_eq] at hmiss
  obtain (habove | hbelow) | ⟨⟨htwo, hsteps⟩, hodd⟩ := hmiss
  · omega
  · omega
  · have heven : (n - r.first) % 2 = 0 := by
      obtain hsteps | hsingle := hsteps
      · rwa [hsteps] at hstep
      · omega
    rw [htwo] at hstep'
    omega

theorem runs_miss : (caseRuns.all fun r => (dotted :: caseRuns).all (r.misses ·)) = true := by
  decide +kernel

theorem not_holds_partner {r s : CaseRun} (hr : r ∈ caseRuns) (hs : s ∈ dotted :: caseRuns)
    (hn : r.holds n = true) : s.holds (r.lower n) = false := by
  have hall := List.all_eq_true.1 runs_miss r hr
  exact CaseRun.not_holds_lower (List.all_eq_true.1 hall s hs) hn

theorem lowerCode_lowerCode (n : Nat) : lowerCode (lowerCode n) = lowerCode n := by
  obtain hsame | ⟨r, hr, hn, hlower⟩ := lowerCode_cases n
  · rw [hsame, hsame]
  · rw [hlower, lowerCode, List.find?_eq_none.2]
    intro s hs
    rw [not_holds_partner hr (List.mem_cons_of_mem _ hs) hn]
    simp

theorem lowerCode_ne_dotted (h : n ≠ 0x130) : lowerCode n ≠ 0x130 := by
  obtain hsame | ⟨r, hr, hn, hlower⟩ := lowerCode_cases n
  · omega
  · intro heq
    have hmiss := not_holds_partner hr List.mem_cons_self hn
    rw [← hlower, heq] at hmiss
    simp [dotted, CaseRun.holds] at hmiss

/-! ## Characters -/

/-- What a character becomes between these neighbours. -/
def becomes (before : List Char) (c : Char) (rest : List Char) : List Char :=
  if c = 'Σ' then [if endsWord before rest then 'ς' else 'σ'] else lowerChars c

theorem lowercaseAfter_cons (before : List Char) (c : Char) (rest : List Char) :
    lowercaseAfter before (c :: rest) = becomes before c rest ++ lowercaseAfter (c :: before) rest :=
  rfl

theorem becomes_ne_nil (before : List Char) (c : Char) (rest : List Char) :
    becomes before c rest ≠ [] := by
  unfold becomes lowerChars
  split
  · simp
  · split <;> simp

/-- What comes of the two letters with rules of their own, or the partner of the letter. -/
theorem mem_becomes_cases (hx : x ∈ becomes before c rest) :
    x ∈ ['ς', 'σ', 'i', '\u0307'] ∨
      c ≠ 'Σ' ∧ c ≠ 'İ' ∧ x = Char.ofNat (lowerCode c.toNat) := by
  unfold becomes lowerChars at hx
  by_cases hsigma : c = 'Σ'
  · rw [if_pos hsigma] at hx
    left
    split at hx <;> simp_all
  · rw [if_neg hsigma] at hx
    by_cases hdotted : c = 'İ'
    · rw [if_pos hdotted] at hx
      left
      simp_all
    · rw [if_neg hdotted] at hx
      exact .inr ⟨hsigma, hdotted, List.mem_singleton.1 hx⟩

/-- A character that lower case leaves as it is. -/
def Lowered (c : Char) : Prop := c ≠ 'Σ' ∧ lowerChars c = [c]

instance : DecidablePred Lowered := fun c =>
  inferInstanceAs (Decidable (c ≠ 'Σ' ∧ lowerChars c = [c]))

theorem lowered_partner (hdotted : c ≠ 'İ') : Lowered (Char.ofNat (lowerCode c.toNat)) := by
  have hcode := toNat_ofNat (lowerCode_valid c)
  have hfixed := lowerCode_lowerCode c.toNat
  constructor
  · intro hsigma
    have hpoint : 0x3A3 = lowerCode c.toNat := by rw [← hcode, hsigma]; rfl
    rw [← hpoint] at hfixed
    exact absurd hfixed (by decide +kernel)
  · have hne : Char.ofNat (lowerCode c.toNat) ≠ 'İ' := by
      intro heq
      have hpoint : lowerCode c.toNat = 0x130 := by rw [← hcode, heq]; rfl
      refine lowerCode_ne_dotted (fun hn => hdotted ?_) hpoint
      rw [← Char.ofNat_toNat c, hn]
    rw [lowerChars, if_neg hne, hcode, hfixed]

theorem lowered_of_mem_becomes (hx : x ∈ becomes before c rest) : Lowered x := by
  obtain hspecial | ⟨-, hdotted, rfl⟩ := mem_becomes_cases hx
  · have hall : ∀ x ∈ ['ς', 'σ', 'i', '\u0307'], Lowered x :=
      List.all_iff_forall_prop.1 (by decide +kernel)
    exact hall x hspecial
  · exact lowered_partner hdotted

theorem becomes_of_lowered (h : Lowered c) : becomes before c rest = [c] := by
  rw [becomes, if_neg h.1, h.2]

/-! ## Texts -/

theorem lowered_of_mem_lowercase (hx : x ∈ lowercaseAfter before cs) : Lowered x := by
  induction cs generalizing before with
  | nil => simp [lowercaseAfter] at hx
  | cons c rest ih =>
    rw [lowercaseAfter_cons, List.mem_append] at hx
    obtain hhere | hrest := hx
    · exact lowered_of_mem_becomes hhere
    · exact ih hrest

theorem lowercaseAfter_of_lowered (h : ∀ c ∈ cs, Lowered c) : lowercaseAfter before cs = cs := by
  induction cs generalizing before with
  | nil => rfl
  | cons c rest ih =>
    obtain ⟨hc, hrest⟩ := List.forall_mem_cons.1 h
    rw [lowercaseAfter_cons, becomes_of_lowered hc, ih hrest]
    rfl

/-- Lower case stays. -/
theorem lowercase_lowercase (cs : List Char) : lowercase (lowercase cs) = lowercase cs :=
  lowercaseAfter_of_lowered fun _ => lowered_of_mem_lowercase

/-! ## Commas and white space -/

/-- The comma, and the code points of white space. -/
def edgeRanges : List CodeRange := ⟨0x2C, 0x2C⟩ :: blankRanges

/-- A comma or white space. -/
def isEdge (c : Char) : Bool := inRanges edgeRanges c

theorem isEdge_of_isBlank (h : isBlank c = true) : isEdge c = true := by
  rw [isEdge, inRanges, edgeRanges, List.any_cons, Bool.or_eq_true]
  exact .inr h

theorem runs_off_edges : (caseRuns.all fun run => edgeRanges.all fun range =>
    range.last.blt run.image || (run.image + (run.last - run.first)).blt range.first) = true := by
  decide +kernel

theorem lowerCode_of_edge {range : CodeRange} (hrange : range ∈ edgeRanges)
    (h : range.holds (lowerCode n) = true) : lowerCode n = n := by
  obtain hsame | ⟨run, hrun, hn, hlower⟩ := lowerCode_cases n
  · exact hsame
  · obtain ⟨hfirst, hlast, -⟩ := CaseRun.holds_iff.1 hn
    have hall := List.all_eq_true.1 (List.all_eq_true.1 runs_off_edges run hrun) range hrange
    simp only [Bool.or_eq_true, Nat.blt_eq] at hall
    simp only [CodeRange.holds, hlower, CaseRun.lower, Bool.and_eq_true, decide_eq_true_eq] at h
    omega

/-- Lower case makes no comma and no white space of anything else. -/
theorem eq_of_mem_becomes (hx : x ∈ becomes before c rest) (hedge : isEdge x = true) : x = c := by
  obtain hspecial | ⟨-, -, rfl⟩ := mem_becomes_cases hx
  · have hall : ∀ x ∈ ['ς', 'σ', 'i', '\u0307'], isEdge x = false :=
      List.all_iff_forall_prop.1 (by decide)
    rw [hall x hspecial] at hedge
    cases hedge
  · obtain ⟨range, hrange, hholds⟩ := List.any_eq_true.1 hedge
    rw [toNat_ofNat (lowerCode_valid c)] at hholds
    rw [lowerCode_of_edge hrange hholds, Char.ofNat_toNat]

theorem mem_of_mem_lowercase (hx : x ∈ lowercaseAfter before cs) (hedge : isEdge x = true) :
    x ∈ cs := by
  induction cs generalizing before with
  | nil => simp [lowercaseAfter] at hx
  | cons c rest ih =>
    rw [lowercaseAfter_cons, List.mem_append] at hx
    obtain hhere | hrest := hx
    · rw [eq_of_mem_becomes hhere hedge]
      exact List.mem_cons_self
    · exact List.mem_cons_of_mem _ (ih hrest)

end KernelArchive.Text
