/-!
# Occurrences of one text in another

* `Text.occurs pattern cs`: the pattern stands somewhere in `cs`.
* `Text.occurs_iff`: this says that `cs` is the pattern with some text before and after it.
-/

namespace KernelArchive.Text
set_option autoImplicit false

/-- Does the pattern stand somewhere in the text? -/
def occurs (pattern : List Char) : List Char → Bool
  | [] => pattern.isEmpty
  | c :: rest => pattern.isPrefixOf (c :: rest) || occurs pattern rest

theorem occurs_nil (cs : List Char) : occurs [] cs = true := by cases cs <;> rfl

theorem occurs_cons (pattern : List Char) (c : Char) (rest : List Char) :
    occurs pattern (c :: rest) = true ↔ pattern <+: c :: rest ∨ occurs pattern rest = true := by
  rw [occurs, Bool.or_eq_true, List.isPrefixOf_iff_prefix]

theorem occurs_iff (pattern cs : List Char) :
    occurs pattern cs = true ↔ ∃ before after, cs = before ++ pattern ++ after := by
  induction cs with
  | nil =>
    simp only [occurs, List.isEmpty_iff]
    constructor
    · rintro rfl; exact ⟨[], [], rfl⟩
    · rintro ⟨b, a, h⟩
      have := congrArg List.length h
      simp only [List.length_nil, List.length_append] at this
      exact List.length_eq_zero_iff.1 (by omega)
  | cons c rest ih =>
    rw [occurs_cons, ih]
    constructor
    · rintro (⟨t, ht⟩ | ⟨b, a, h⟩)
      · exact ⟨[], t, ht.symm⟩
      · exact ⟨c :: b, a, by rw [h]; rfl⟩
    · rintro ⟨b, a, h⟩
      cases b with
      | nil => exact .inl ⟨a, h.symm⟩
      | cons d b =>
        refine .inr ⟨b, a, ?_⟩
        simpa using (List.cons.inj h).2

end KernelArchive.Text
