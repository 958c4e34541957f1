/-!
# Texts cut at a separator

* `Text.cut sep`: the pieces of a text between occurrences of `sep`; a text without it is one
  piece, and there is always at least one.
* `Text.glue sep`: the pieces joined again.
* `Text.glue_cut`: nothing is lost. `Text.cut_append_cons`: a separator ends a piece.
  `Text.cut_glue`: pieces without separators come back.
-/

namespace KernelArchive.Text
set_option autoImplicit false

/-- The pieces of a text between occurrences of `sep`. -/
def cut (sep : Char) : List Char → List (List Char)
  | [] => [[]]
  | c :: rest =>
    if c = sep then [] :: cut sep rest
    else match cut sep rest with
      | [] => [[c]]
      | piece :: pieces => (c :: piece) :: pieces

/-- Joins pieces with `sep` between them. -/
def glue (sep : Char) : List (List Char) → List Char
  | [] => []
  | [piece] => piece
  | piece :: pieces => piece ++ sep :: glue sep pieces

/-- The pieces of a string between occurrences of `sep`. -/
def segments (sep : Char) (s : String) : List String := (cut sep s.toList).map String.ofList

/-- Joins strings with `sep` between them. -/
def joined (sep : Char) (pieces : List String) : String :=
  String.ofList (glue sep (pieces.map String.toList))

/-! ## Laws -/

theorem cut_ne_nil (sep : Char) (cs : List Char) : cut sep cs ≠ [] := by
  cases cs with
  | nil => simp [cut]
  | cons c rest =>
    unfold cut
    split
    · simp
    · split <;> simp

theorem glue_cons_cons (sep : Char) (p q : List Char) (ps : List (List Char)) :
    glue sep (p :: q :: ps) = p ++ sep :: glue sep (q :: ps) := rfl

theorem glue_cons (sep : Char) (p : List Char) {ps : List (List Char)} (h : ps ≠ []) :
    glue sep (p :: ps) = p ++ sep :: glue sep ps := by
  cases ps with
  | nil => exact absurd rfl h
  | cons q qs => rfl

theorem glue_cut (sep : Char) (cs : List Char) : glue sep (cut sep cs) = cs := by
  induction cs with
  | nil => rfl
  | cons c rest ih =>
    unfold cut
    split
    · next h => rw [glue_cons sep [] (cut_ne_nil sep rest), ih, h]; rfl
    · split
      · next h => exact absurd h (cut_ne_nil sep rest)
      · next piece pieces h =>
        rw [h] at ih
        cases pieces with
        | nil => simpa [glue] using ih
        | cons q qs => simpa [glue] using ih

theorem sep_notMem_cut (sep : Char) (cs : List Char) : ∀ p ∈ cut sep cs, sep ∉ p := by
  induction cs with
  | nil => simp [cut]
  | cons c rest ih =>
    unfold cut
    split
    · intro p hp
      rcases List.mem_cons.1 hp with rfl | hp
      · simp
      · exact ih p hp
    · next hc =>
      split
      · next h => exact absurd h (cut_ne_nil sep rest)
      · next piece pieces h =>
        rw [h] at ih
        intro p hp
        rcases List.mem_cons.1 hp with rfl | hp
        · intro hm
          rcases List.mem_cons.1 hm with hm | hm
          · exact hc hm.symm
          · exact ih piece List.mem_cons_self hm
        · exact ih p (List.mem_cons_of_mem _ hp)

theorem cut_of_notMem {sep : Char} {cs : List Char} (h : sep ∉ cs) : cut sep cs = [cs] := by
  induction cs with
  | nil => rfl
  | cons c rest ih =>
    have hc : c ≠ sep := fun e => h (e ▸ List.mem_cons_self)
    have hr : sep ∉ rest := fun hm => h (List.mem_cons_of_mem _ hm)
    simp [cut, hc, ih hr]

/-- A separator ends a piece, whatever stands before it. -/
theorem cut_append_cons (sep : Char) (a b : List Char) :
    cut sep (a ++ sep :: b) = cut sep a ++ cut sep b := by
  induction a with
  | nil => simp [cut]
  | cons c rest ih =>
    simp only [List.cons_append, cut, ih]
    split
    · rfl
    · cases h : cut sep rest with
      | nil => exact absurd h (cut_ne_nil sep rest)
      | cons p ps => rfl

/-- Pieces that hold no separator come back as they were. -/
theorem cut_glue (sep : Char) {ps : List (List Char)} (hne : ps ≠ [])
    (h : ∀ p ∈ ps, sep ∉ p) : cut sep (glue sep ps) = ps := by
  induction ps with
  | nil => exact absurd rfl hne
  | cons p ps ih =>
    have hp : sep ∉ p := h p List.mem_cons_self
    cases ps with
    | nil => exact cut_of_notMem hp
    | cons q qs =>
      rw [glue_cons_cons, cut_append_cons, cut_of_notMem hp,
        ih (by simp) (fun r hr => h r (List.mem_cons_of_mem _ hr))]
      rfl

end KernelArchive.Text
