import Mathlib.Data.List.DropRight
import KernelArchive.Proofs.Text.Lowered

/-!
# Texts without white space around them

* `Text.Trimmed`: a text that neither starts nor ends with white space. `Text.trim` gives such a
  text (`trimmed_trim`) and takes off just what stands around one (`trim_around`).
* `Text.Trimmed.lowercase`: it stays one in lower case.
-/

namespace KernelArchive.Text
set_option autoImplicit false

variable {c x : Char} {cs left right before : List Char}

/-- No white space stands at either end. -/
structure Trimmed (cs : List Char) : Prop where
  first : ∀ c ∈ cs.head?, isBlank c = false
  last : ∀ c ∈ cs.getLast?, isBlank c = false

theorem trim_eq (cs : List Char) : trim cs = (cs.dropWhile isBlank).rdropWhile isBlank := rfl

theorem trim_beginning (cs : List Char) : trim cs <+: cs.dropWhile isBlank :=
  List.rdropWhile_prefix _ _

theorem mem_of_mem_trim (h : c ∈ trim cs) : c ∈ cs :=
  (List.dropWhile_suffix _).subset ((trim_beginning cs).subset h)

theorem trimmed_trim (cs : List Char) : Trimmed (trim cs) where
  first := by
    intro c hc
    obtain ⟨rest, hrest⟩ := List.head?_eq_some_iff.1 hc
    obtain ⟨more, hmore⟩ := trim_beginning cs
    have hfirst := List.head?_dropWhile_not isBlank cs
    rw [← hmore, hrest] at hfirst
    simpa using hfirst
  last := by
    intro c hc
    obtain ⟨init, hinit⟩ := List.getLast?_eq_some_iff.1 hc
    have hne : (cs.dropWhile isBlank).rdropWhile isBlank ≠ [] := by
      rw [← trim_eq, hinit]
      simp
    have hlast := List.rdropWhile_last_not isBlank _ hne
    simp only [← trim_eq, hinit, List.getLast_concat, Bool.not_eq_true] at hlast
    exact hlast

/-- White space around a trimmed text is all that is taken off. -/
theorem trim_around (h : Trimmed cs) (hleft : ∀ c ∈ left, isBlank c = true)
    (hright : ∀ c ∈ right, isBlank c = true) : trim (left ++ cs ++ right) = cs := by
  have hnone : right.dropWhile isBlank = [] := List.dropWhile_eq_nil_iff.2 hright
  rw [trim_eq, List.append_assoc, List.dropWhile_append_of_pos hleft]
  cases cs with
  | nil =>
    rw [List.nil_append, hnone]
    rfl
  | cons c rest =>
    have hfirst : isBlank c = false := h.first c rfl
    rw [List.cons_append, List.dropWhile_cons_of_neg (by simp [hfirst]), List.rdropWhile,
      ← List.cons_append, List.reverse_append, List.dropWhile_append_of_pos]
    · rw [← List.rdropWhile, List.rdropWhile_eq_self_iff]
      intro hne
      rw [h.last _ (List.getLast?_eq_some_getLast hne)]
      simp
    · intro b hb
      exact hright b (List.mem_reverse.1 hb)

theorem trim_of_blank (h : ∀ c ∈ cs, isBlank c = true) : trim cs = [] := by
  have htrim : trim (cs ++ [] ++ []) = [] := trim_around ⟨nofun, nofun⟩ h (List.forall_mem_nil _)
  rwa [List.append_nil, List.append_nil] at htrim

/-! ## In lower case -/

theorem head?_of_lowercase (hx : x ∈ (lowercaseAfter before cs).head?) (hedge : isEdge x = true) :
    x ∈ cs.head? := by
  cases cs with
  | nil => simp [lowercaseAfter] at hx
  | cons c rest =>
    obtain ⟨y, more, hbecomes⟩ := List.exists_cons_of_ne_nil (becomes_ne_nil before c rest)
    rw [lowercaseAfter_cons, hbecomes, List.cons_append, List.head?_cons] at hx
    have hmem : x ∈ becomes before c rest := by
      rw [hbecomes, Option.some.inj hx]
      exact List.mem_cons_self
    rw [eq_of_mem_becomes hmem hedge]
    rfl

theorem getLast?_of_lowercase (hx : x ∈ (lowercaseAfter before cs).getLast?)
    (hedge : isEdge x = true) : x ∈ cs.getLast? := by
  induction cs generalizing before with
  | nil => simp [lowercaseAfter] at hx
  | cons c rest ih =>
    rw [lowercaseAfter_cons, List.getLast?_append] at hx
    cases rest with
    | nil =>
      have hmem : x ∈ becomes before c [] := List.mem_of_getLast? hx
      rw [eq_of_mem_becomes hmem hedge]
      rfl
    | cons d more =>
      rw [List.getLast?_cons_cons]
      suffices hrest : x ∈ (lowercaseAfter (c :: before) (d :: more)).getLast? from ih hrest
      cases hlast : (lowercaseAfter (c :: before) (d :: more)).getLast? with
      | none =>
        have hnil := List.getLast?_eq_none_iff.1 hlast
        rw [lowercaseAfter_cons, List.append_eq_nil_iff] at hnil
        exact absurd hnil.1 (becomes_ne_nil _ d more)
      | some y =>
        rw [hlast] at hx
        exact hx

theorem Trimmed.lowercase (h : Trimmed cs) : Trimmed (lowercase cs) where
  first := by
    intro c hc
    rw [Bool.eq_false_iff]
    intro hblank
    have hmem := head?_of_lowercase hc (isEdge_of_isBlank hblank)
    rw [h.first c hmem] at hblank
    cases hblank
  last := by
    intro c hc
    rw [Bool.eq_false_iff]
    intro hblank
    have hmem := getLast?_of_lowercase hc (isEdge_of_isBlank hblank)
    rw [h.last c hmem] at hblank
    cases hblank

end KernelArchive.Text
