import KernelArchive.FileSystem.Walk
import KernelArchive.Proofs.Text.Pieces
import Mathlib.Data.List.DropRight

/-!
# Paths by their segments

What joining, parents and lineages do to the segments of a path.

* `Path.leading`: the segments that stand before a name put under a path, with `segments_join`.
* `Path.Heads q p rest`: `q` goes along the segments of `p` as far as `rest`. All paths of a lineage
  do, and those around a path leave a segment that counts (`heads_of_mem_around`).
* `Path.lineage_eq_cons`: a lineage is the path and the lineage of its parent.
* `FileSystem.textFault?_of_shorter`: the text of a path is no worse than that of a longer one.
-/

namespace KernelArchive
set_option autoImplicit false

/-- A list without the elements at its end that are to go, last one first. -/
theorem reverse_dropWhile_eq_cons {α : Type} {goes : α → Bool} {all above : List α} {last : α} :
    all.reverse.dropWhile goes = last :: above ↔ goes last = false ∧
      ∃ gone, (∀ a ∈ gone, goes a = true) ∧ all = above.reverse ++ last :: gone := by
  constructor
  · intro h
    have hhead := List.head?_dropWhile_not goes all.reverse
    rw [h] at hhead
    refine ⟨by simpa using hhead, (all.reverse.takeWhile goes).reverse, ?_, ?_⟩
    · intro a ha
      exact List.mem_takeWhile_imp (List.mem_reverse.1 ha)
    · have hsplit : all.reverse.takeWhile goes ++ all.reverse.dropWhile goes = all.reverse :=
        List.takeWhile_append_dropWhile
      rw [h] at hsplit
      have hrev := congrArg List.reverse hsplit
      simpa using hrev.symm
  · rintro ⟨hlast, gone, hgone, rfl⟩
    rw [List.reverse_append, List.reverse_cons, List.append_assoc, List.reverse_reverse,
      List.dropWhile_append_of_pos]
    · simp [hlast]
    · intro a ha
      exact hgone a (List.mem_reverse.1 ha)

namespace Path

theorem segments_ne_nil (p : Path) : p.segments ≠ [] := Text.segments_ne_nil '/' p.text

/-- A path is determined by its segments. -/
theorem ext_segments {p q : Path} (h : p.segments = q.segments) : p = q := by
  have hp := Text.joined_segments '/' p.text
  have hq := Text.joined_segments '/' q.text
  have htext : p.text = q.text := by
    rw [← hp, ← hq]
    exact congrArg (Text.joined '/') h
  cases p
  cases q
  exact congrArg Path.mk htext

theorem text_eq_empty_iff {p : Path} : p.text = "" ↔ p.segments = [""] := by
  constructor
  · intro h
    rw [segments, h]
    rfl
  · intro h
    exact congrArg Path.text (ext_segments (q := ⟨""⟩) h)

theorem isSilent_iff {s : String} : isSilent s = true ↔ s = "" ∨ s = "." := by
  rw [isSilent, Bool.or_eq_true, beq_iff_eq, beq_iff_eq]

theorem counts_of_ne {s : String} (hempty : s ≠ "") (hhere : s ≠ ".") : isSilent s = false := by
  rw [Bool.eq_false_iff, Ne, isSilent_iff, not_or]
  exact ⟨hempty, hhere⟩

/-! ## Names put under a path -/

/-- The segments that stand before a name put under a path. -/
def leading (p : Path) : List String :=
  if p.segments.getLast? = some "" then p.segments.dropLast else p.segments

/-- At most an empty segment, behind a closing slash, is not passed on. -/
theorem leading_cases (p : Path) :
    (p.segments = p.leading ∧ p.leading ≠ []) ∨ p.segments = p.leading ++ [""] := by
  unfold leading
  split
  · next h =>
    obtain ⟨ps, hps⟩ := List.getLast?_eq_some_iff.1 h
    right
    rw [hps, List.dropLast_concat]
  · exact .inl ⟨rfl, p.segments_ne_nil⟩

theorem leading_prefix (p : Path) : p.leading <+: p.segments := by
  rcases p.leading_cases with ⟨h, -⟩ | h
  · exact ⟨[], by rw [List.append_nil, ← h]⟩
  · exact ⟨[""], h.symm⟩

theorem segments_join (dir : Path) {name : String} (h : name.toList.head? ≠ some '/') :
    (dir.join name).segments = dir.leading ++ Text.segments '/' name := by
  have hlast := Text.getLast?_segments '/' dir.text
  unfold join
  rw [if_neg h]
  split
  · next hnone =>
    have hempty : dir.text = "" := String.toList_eq_nil_iff.1 (List.getLast?_eq_none_iff.1 hnone)
    have hseg := text_eq_empty_iff.1 hempty
    rw [leading, hseg]
    rfl
  · next hslash =>
    obtain ⟨cs, hcs⟩ := List.getLast?_eq_some_iff.1 hslash
    have hseg : dir.segments = Text.segments '/' (String.ofList cs) ++ [""] :=
      Text.segments_of_toList_append (b := "")
        (by rw [hcs, String.toList_ofList, String.toList_empty])
    have hlead : dir.leading = Text.segments '/' (String.ofList cs) := by
      rw [leading, hseg, if_pos (by simp), List.dropLast_concat]
    rw [hlead]
    refine Text.segments_of_toList_append ?_
    rw [String.toList_append, hcs, String.toList_ofList, List.append_assoc]
    rfl
  · next c hc hsome =>
    have hlead : dir.leading = dir.segments := by
      refine if_neg fun he => ?_
      rcases hlast.1 he with hempty | hslash
      · rw [hempty] at hsome
        cases hsome
      · rw [hsome] at hslash
        exact hc (Option.some.inj hslash)
    rw [hlead]
    refine Text.segments_of_toList_append ?_
    rw [String.toList_append, String.toList_append, List.append_assoc]
    rfl

theorem mem_text_join {dir : Path} {key : String} {c : Char}
    (hrel : key.toList.head? ≠ some '/') (hc : c ≠ '/') :
    c ∈ (dir.join key).text.toList ↔ c ∈ dir.text.toList ∨ c ∈ key.toList := by
  unfold join
  rw [if_neg hrel]
  split
  · next hnone => simp [List.getLast?_eq_none_iff.1 hnone]
  · simp
  · simp [hc]

theorem head?_segments {s t : String} {rest : List String}
    (h : Text.segments '/' s = "" :: t :: rest) : s.toList.head? = some '/' := by
  have hs := Text.toList_joined_append '/' (List.cons_ne_nil "" []) (List.cons_ne_nil t rest)
  rw [List.singleton_append, ← h, Text.joined_segments] at hs
  rw [hs]
  rfl

/-! ## Starts -/

/-- The segments of a start. -/
def Anchor.segments : Anchor → List String
  | root => [""]
  | here => ["."]
  | bare => []

theorem segments_of_parts {p : Path} {a : Anchor} {body : List String}
    (h : p.parts = (a, body)) : p.segments = a.segments ++ body := by
  unfold parts at h
  split at h
  · next hs => cases h; exact hs
  · next hs => cases h; exact hs
  · cases h; rfl

theorem isAbsolute_iff (p : Path) : p.isAbsolute = true ↔ p.parts.1 = .root := by
  constructor
  · intro h
    obtain ⟨cs, hcs⟩ := List.head?_eq_some_iff.1 (beq_iff_eq.1 h)
    have hseg : p.segments = "" :: Text.segments '/' (String.ofList cs) :=
      Text.segments_of_toList_append (a := "") (by simp [hcs])
    obtain ⟨s, rest, hrest⟩ := List.exists_cons_of_ne_nil
      (Text.segments_ne_nil '/' (String.ofList cs))
    rw [hrest] at hseg
    rw [parts, hseg]
    rfl
  · intro h
    unfold parts at h
    split at h
    · next hs => exact beq_iff_eq.2 (head?_segments hs)
    · cases h
    · cases h

/-- A start and some of the segments that follow it, put together again. -/
theorem segments_ofParts {p : Path} {a : Anchor} {body taken : List String}
    (hp : p.parts = (a, body)) (ht : taken <+: body) (hne : taken ≠ []) :
    (ofParts a taken).segments = a.segments ++ taken := by
  have hsep : ∀ s ∈ taken, '/' ∉ s.toList := by
    intro s hs
    refine Text.sep_notMem_segments (s := p.text) ?_
    show s ∈ p.segments
    rw [segments_of_parts hp]
    exact List.mem_append_right _ (ht.subset hs)
  have hjoined : Text.segments '/' (Text.joined '/' taken) = taken := Text.segments_joined hne hsep
  cases a with
  | root =>
    have h : (ofParts .root taken).segments = Text.segments '/' "" ++
        Text.segments '/' (Text.joined '/' taken) :=
      Text.segments_of_toList_append (by rw [ofParts, String.toList_append]; rfl)
    rw [h, hjoined]
    rfl
  | here =>
    refine Text.segments_joined (by simp) ?_
    intro s hs
    rcases List.mem_cons.1 hs with rfl | hs
    · decide
    · exact hsep s hs
  | bare => exact hjoined

/-- Putting parts together and taking them apart keeps the start and the segments that count. -/
theorem parts_ofParts {p : Path} {a : Anchor} {body taken : List String}
    (hp : p.parts = (a, body)) (ht : taken <+: body) :
    (ofParts a taken).parts.1 = a ∧
      (ofParts a taken).reversedBody = taken.reverse.dropWhile isSilent := by
  by_cases hne : taken = []
  · subst hne
    cases a <;> exact ⟨rfl, rfl⟩
  have hparts : (ofParts a taken).parts = (a, taken) := by
    have hseg := segments_ofParts hp ht hne
    obtain ⟨s, rest, rfl⟩ := List.exists_cons_of_ne_nil hne
    obtain ⟨more, rfl⟩ := ht
    rw [parts, hseg]
    cases a with
    | root => rfl
    | here => rfl
    | bare =>
      have hbare := segments_of_parts hp
      unfold parts at hp
      rw [hbare] at hp
      simp only [Anchor.segments, List.nil_append, List.cons_append] at hp ⊢
      split at hp
      · cases hp
      · cases hp
      · next h₁ h₂ =>
        split
        · next hs => cases hs; exact absurd rfl (h₁ _ _)
        · next hs => cases hs; exact absurd rfl (h₂ _)
        · rfl
  rw [reversedBody, hparts]
  exact ⟨rfl, rfl⟩

/-! ## Lineages -/

/-- `q` goes along the first segments of `p`, as far as `rest`. The root has an empty segment
behind its slash. -/
structure Heads (q p : Path) (rest : List String) : Prop where
  start : q.isAbsolute = p.isAbsolute
  taken : ∃ taken, taken ≠ [] ∧ taken ++ rest = p.segments ∧
    (q.segments = taken ∨ (taken = [""] ∧ q.segments = ["", ""]))

theorem Heads.refl (p : Path) : p.Heads p [] :=
  ⟨rfl, p.segments, p.segments_ne_nil, List.append_nil _, .inl rfl⟩

theorem heads_ofParts {p : Path} {a : Anchor} {body taken rest : List String}
    (hp : p.parts = (a, body)) (ht : taken ++ rest = body) (hbare : a = .bare → taken ≠ []) :
    (ofParts a taken).Heads p rest where
  start := by
    have htaken : taken <+: body := ⟨rest, ht⟩
    rw [Bool.eq_iff_iff, isAbsolute_iff, isAbsolute_iff, (parts_ofParts hp htaken).1, hp]
  taken := by
    have hseg := segments_of_parts hp
    rw [← ht] at hseg
    by_cases hne : taken = []
    · subst hne
      cases a with
      | root => exact ⟨[""], by simp, hseg.symm, .inr ⟨rfl, rfl⟩⟩
      | here => exact ⟨["."], by simp, hseg.symm, .inl rfl⟩
      | bare => exact absurd rfl (hbare rfl)
    · refine ⟨a.segments ++ taken, by simp [hne], ?_, .inl (segments_ofParts hp ⟨rest, ht⟩ hne)⟩
      rw [hseg, List.append_assoc]

theorem reversedBody_suffix (p : Path) : p.reversedBody <:+ p.parts.2.reverse :=
  List.dropWhile_suffix _

theorem lineageFrom_eq (a : Anchor) (above : List String) :
    lineageFrom a above = match above.dropWhile isSilent with
      | [] => lineageFrom a []
      | s :: rest => ofParts a (s :: rest).reverse :: lineageFrom a rest := by
  induction above with
  | nil => rfl
  | cons s above ih =>
    rw [lineageFrom, List.dropWhile_cons]
    split
    · exact ih
    · rfl

theorem mem_lineageFrom {a : Anchor} {above : List String} {q : Path}
    (h : q ∈ lineageFrom a above) :
    ∃ taken, taken <+: above.reverse ∧ q = ofParts a taken ∧ (a = .bare → taken ≠ []) := by
  induction above with
  | nil =>
    cases a with
    | root => exact ⟨[], List.prefix_rfl, List.mem_singleton.1 h, by simp⟩
    | here => exact ⟨[], List.prefix_rfl, List.mem_singleton.1 h, by simp⟩
    | bare => cases h
  | cons s above ih =>
    have hmore : above.reverse <+: (s :: above).reverse :=
      List.reverse_prefix.2 (List.suffix_cons s above)
    rw [lineageFrom] at h
    split at h
    · obtain ⟨taken, ht, hq⟩ := ih h
      exact ⟨taken, ht.trans hmore, hq⟩
    · rcases List.mem_cons.1 h with h | h
      · exact ⟨(s :: above).reverse, List.prefix_rfl, h, by simp⟩
      · obtain ⟨taken, ht, hq⟩ := ih h
        exact ⟨taken, ht.trans hmore, hq⟩

theorem heads_of_mem_lineageFrom {p q : Path} {s : String} {above : List String}
    (hbody : p.reversedBody = s :: above) (h : q ∈ lineageFrom p.parts.1 above) :
    ∃ rest, q.Heads p rest ∧ s ∈ rest := by
  obtain ⟨taken, ⟨more, hmore⟩, rfl, hbare⟩ := mem_lineageFrom h
  obtain ⟨silent, hsilent⟩ := hbody ▸ p.reversedBody_suffix
  have hparts : p.parts = (p.parts.1, p.parts.2) := rfl
  have hsplit : taken ++ (more ++ s :: silent.reverse) = p.parts.2 := by
    rw [← List.reverse_reverse p.parts.2, ← hsilent, List.reverse_append, List.reverse_cons,
      ← hmore]
    simp
  exact ⟨_, heads_ofParts hparts hsplit hbare, by simp⟩

theorem heads_of_mem_lineage {p q : Path} (h : q ∈ p.lineage) : ∃ rest, q.Heads p rest := by
  unfold lineage at h
  split at h
  · cases h
  · split at h
    · next s above hbody =>
      rcases List.mem_cons.1 h with rfl | h
      · exact ⟨[], Heads.refl q⟩
      · obtain ⟨rest, hheads, -⟩ := heads_of_mem_lineageFrom hbody h
        exact ⟨rest, hheads⟩
    · rw [List.mem_singleton.1 h]
      exact ⟨[], Heads.refl p⟩

/-- The directories around a path, the nearest first. -/
def around (p : Path) : List Path := p.parent?.elim [] lineage

/-- A path, then what is around it. -/
theorem lineage_eq_cons {p : Path} (h : p.text ≠ "") : p.lineage = p :: p.around := by
  unfold lineage around parent?
  rw [if_neg h]
  split
  · next s above hbody =>
    show p :: lineageFrom p.parts.1 above =
      p :: (ofParts p.parts.1 (above.dropWhile isSilent).reverse).lineage
    have hsuffix : above.dropWhile isSilent <:+ p.parts.2.reverse :=
      (List.dropWhile_suffix _).trans
        ((List.suffix_cons s above).trans (hbody ▸ p.reversedBody_suffix))
    have htaken : (above.dropWhile isSilent).reverse <+: p.parts.2 := by
      simpa using List.reverse_prefix.2 hsuffix
    have hparts : p.parts = (p.parts.1, p.parts.2) := rfl
    obtain ⟨hanchor, hrest⟩ := parts_ofParts hparts htaken
    rw [List.reverse_reverse, List.dropWhile_idempotent] at hrest
    rw [lineageFrom_eq]
    cases hab : above.dropWhile isSilent with
    | nil => cases p.parts.1 <;> rfl
    | cons t rest =>
      rw [hab] at hanchor hrest
      have hne : (ofParts p.parts.1 (t :: rest).reverse).text ≠ "" := by
        intro he
        have hnil : (ofParts p.parts.1 (t :: rest).reverse) = ⟨""⟩ := congrArg Path.mk he
        rw [hnil] at hrest
        cases hrest
      rw [lineage, if_neg hne, hrest, hanchor]
  · cases p.parts.1 <;> rfl

/-- Only the root and the empty path have no directory around them. -/
theorem parts_of_no_parent {p : Path} (h : p.parent? = none) (hne : p.text ≠ "") :
    p.parts.1 = .root ∧ ∀ s ∈ p.parts.2, isSilent s = true := by
  unfold parent? at h
  split at h
  · cases h
  · next hbody =>
    have hsilent : ∀ s ∈ p.parts.2, isSilent s = true := by
      simpa [reversedBody, List.dropWhile_eq_nil_iff] using hbody
    refine ⟨?_, hsilent⟩
    obtain ⟨first, rest, hseg⟩ := List.exists_cons_of_ne_nil p.segments_ne_nil
    unfold parts at h hsilent ⊢
    split
    · rfl
    · next hhere => simp [hhere] at h
    · next hroot hhere =>
      -- without a start the first segment would have to count
      have hfirst : isSilent first = true := by
        have hall := hsilent first
        split at hall
        · next hs => exact absurd hs (hroot _ _)
        · next hs => exact absurd hs (hhere _)
        · exact hall (by simp [hseg])
      rcases isSilent_iff.1 hfirst with rfl | rfl
      · cases rest with
        | nil => exact absurd (text_eq_empty_iff.2 hseg) hne
        | cons s more => exact absurd hseg (hroot s more)
      · exact absurd hseg (hhere rest)

/-- What is around a path leaves a segment that counts. -/
theorem heads_of_mem_around {p q : Path} (h : q ∈ p.around) :
    ∃ rest s, q.Heads p rest ∧ s ∈ rest ∧ isSilent s = false := by
  by_cases ht : p.text = ""
  · have hp : p = ⟨""⟩ := congrArg Path.mk ht
    rw [hp] at h
    cases h
  have hline := lineage_eq_cons ht
  rw [lineage, if_neg ht] at hline
  split at hline
  · next s above hbody =>
    have habove : lineageFrom p.parts.1 above = p.around := (List.cons.inj hline).2
    rw [← habove] at h
    obtain ⟨rest, hheads, hs⟩ := heads_of_mem_lineageFrom hbody h
    refine ⟨rest, s, hheads, hs, ?_⟩
    have hfirst := List.head?_dropWhile_not isSilent p.parts.2.reverse
    rw [← reversedBody, hbody] at hfirst
    simpa using hfirst
  · have hnone : [] = p.around := (List.cons.inj hline).2
    rw [← hnone] at h
    cases h

end Path

/-! ## Texts of longer paths -/

namespace Path

/-- A path that goes on behind the leading segments of another has the longer text. -/
theorem text_prefix_of_segments {dir q : Path} {more : List String}
    (h : q.segments = dir.leading ++ more) (hmore : more ≠ []) :
    dir.text.toList <+: q.text.toList := by
  have hdir := Text.joined_segments '/' dir.text
  have hq := Text.joined_segments '/' q.text
  change Text.joined '/' dir.segments = dir.text at hdir
  change Text.joined '/' q.segments = q.text at hq
  rw [← hdir, ← hq, h]
  rcases dir.leading_cases with ⟨hseg, hne⟩ | hseg
  · rw [hseg, Text.toList_joined_append '/' hne hmore]
    exact List.prefix_append _ _
  · by_cases hne : dir.leading = []
    · rw [hseg, hne]
      exact List.nil_prefix
    · rw [hseg, Text.toList_joined_append '/' hne hmore,
        Text.toList_joined_append '/' hne (List.cons_ne_nil "" [])]
      exact (List.prefix_append_right_inj _).2 (List.cons_prefix_cons.2 ⟨rfl, List.nil_prefix⟩)

end Path

namespace FileSystem

theorem textFault?_eq_none_iff {p : Path} :
    textFault? p = none ↔
      '\x00' ∉ p.text.toList ∧ p.text ≠ "" ∧ p.text.utf8ByteSize ≤ pathLimit := by
  unfold textFault?
  simp only [List.contains_iff_mem]
  split
  · next h => simp [h]
  · next h =>
    split
    · next h' => simp [h']
    · next h' =>
      split
      · next h'' => simp only [reduceCtorEq, false_iff]; omega
      · next h'' => simpa [h, h'] using h''

/-- The text of a path is no worse than that of a longer one. -/
theorem textFault?_of_shorter {p q : Path} (h : p.text.toList <+: q.text.toList)
    (hq : textFault? q = none) (hne : p.text ≠ "") : textFault? p = none := by
  obtain ⟨hnul, -, hlen⟩ := textFault?_eq_none_iff.1 hq
  obtain ⟨rest, hrest⟩ := h
  have htext : q.text = p.text ++ String.ofList rest := by
    rw [← String.toList_inj, String.toList_append, String.toList_ofList, hrest]
  rw [htext, String.utf8ByteSize_append] at hlen
  refine textFault?_eq_none_iff.2 ⟨fun hm => hnul ?_, hne, by omega⟩
  rw [← hrest]
  exact List.mem_append_left _ hm

end FileSystem
end KernelArchive
