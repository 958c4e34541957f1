import KernelArchive.Text.Segments

/-!
# Pieces of a string

Cutting a string at a separator and joining pieces undo each other (`Text.joined_segments`,
`Text.segments_joined`), and both go along with putting texts together
(`Text.segments_of_toList_append`, `Text.toList_joined_append`).
-/

namespace KernelArchive
namespace Text
set_option autoImplicit false

theorem glue_append (sep : Char) {ps qs : List (List Char)} (hp : ps ≠ []) (hq : qs ≠ []) :
    glue sep (ps ++ qs) = glue sep ps ++ sep :: glue sep qs := by
  induction ps with
  | nil => exact absurd rfl hp
  | cons p ps ih =>
    cases ps with
    | nil => exact glue_cons sep p hq
    | cons r rs =>
      rw [List.cons_append, glue_cons sep p (by simp), ih (by simp), glue_cons sep p (by simp),
        List.append_assoc, List.cons_append]

theorem segments_ne_nil (sep : Char) (s : String) : segments sep s ≠ [] := by
  intro h
  exact cut_ne_nil sep s.toList (List.map_eq_nil_iff.1 h)

theorem segments_eq_concat (key : String) :
    ∃ into name, segments '/' key = into ++ [name] :=
  ⟨_, _, (List.dropLast_concat_getLast (segments_ne_nil '/' key)).symm⟩

theorem sep_notMem_segments {sep : Char} {s p : String} (h : p ∈ segments sep s) :
    sep ∉ p.toList := by
  obtain ⟨cs, hcs, rfl⟩ := List.mem_map.1 h
  rw [String.toList_ofList]
  exact sep_notMem_cut sep s.toList cs hcs

theorem map_toList_segments (sep : Char) (s : String) :
    (segments sep s).map String.toList = cut sep s.toList := by
  rw [segments, List.map_map, String.toList_comp_ofList, List.map_id]

theorem joined_segments (sep : Char) (s : String) : joined sep (segments sep s) = s := by
  rw [joined, map_toList_segments, glue_cut, String.ofList_toList]

theorem segments_joined {sep : Char} {ps : List String} (hne : ps ≠ [])
    (h : ∀ p ∈ ps, sep ∉ p.toList) : segments sep (joined sep ps) = ps := by
  have hcut : cut sep (glue sep (ps.map String.toList)) = ps.map String.toList := by
    refine cut_glue sep (by simpa using hne) ?_
    intro q hq
    obtain ⟨p, hp, rfl⟩ := List.mem_map.1 hq
    exact h p hp
  rw [segments, joined, String.toList_ofList, hcut, List.map_map, String.ofList_comp_toList,
    List.map_id]

theorem segments_of_toList_append {sep : Char} {s a b : String}
    (h : s.toList = a.toList ++ sep :: b.toList) :
    segments sep s = segments sep a ++ segments sep b := by
  rw [segments, h, cut_append_cons, List.map_append]
  rfl

theorem toList_joined_append (sep : Char) {ps qs : List String} (hp : ps ≠ []) (hq : qs ≠ []) :
    (joined sep (ps ++ qs)).toList = (joined sep ps).toList ++ sep :: (joined sep qs).toList := by
  simp only [joined, String.toList_ofList, List.map_append]
  exact glue_append sep (by simpa using hp) (by simpa using hq)

/-- The last piece is empty behind a closing separator, and for the empty text. -/
theorem getLast?_segments (sep : Char) (s : String) :
    (segments sep s).getLast? = some "" ↔ s = "" ∨ s.toList.getLast? = some sep := by
  constructor
  · intro h
    obtain ⟨ps, hps⟩ := List.getLast?_eq_some_iff.1 h
    have hs := joined_segments sep s
    rw [hps] at hs
    by_cases hne : ps = []
    · subst hne
      exact .inl hs.symm
    · have hl := toList_joined_append sep hne (List.cons_ne_nil "" [])
      rw [hs] at hl
      right
      rw [hl, List.getLast?_append]
      rfl
  · rintro (rfl | h)
    · rfl
    · obtain ⟨cs, hcs⟩ := List.getLast?_eq_some_iff.1 h
      have hseg : segments sep s = segments sep (String.ofList cs) ++ segments sep "" :=
        segments_of_toList_append (by rw [hcs, String.toList_ofList, String.toList_empty])
      rw [hseg, List.getLast?_append]
      rfl

end Text
end KernelArchive
