import Mathlib.Data.Bool.AllAny
import KernelArchive.Proofs.Text.Lowercase
import KernelArchive.SourceKind

/-!
# What a target descriptor speaks of

* `Text.Mentions`: a word stands in a text, but for the case of ASCII letters.
* `Text.occurs_lowercase_iff`: for words that no other character of Unicode takes part in, this is
  what a search in the lower-case form finds.
* `SourceKind.extension_ofTarget`: the extension is decided by the words `metal` and `cuda` in the
  descriptor itself.
-/

namespace KernelArchive
set_option autoImplicit false

namespace Text

variable {word cs before : List Char}

/-- The word stands somewhere in the text, but for the case of ASCII letters. -/
def Mentions (word cs : List Char) : Prop :=
  ∃ before part after, cs = before ++ part ++ after ∧ part.map Char.toLower = word

theorem occurs_map_toLower_iff : occurs word (cs.map Char.toLower) = true ↔ Mentions word cs := by
  rw [occurs_iff]
  constructor
  · rintro ⟨before, after, h⟩
    obtain ⟨most, rest, rfl, hmost, -⟩ := List.map_eq_append_iff.1 h
    obtain ⟨first, part, rfl, -, hpart⟩ := List.map_eq_append_iff.1 hmost
    exact ⟨first, part, rest, rfl, hpart⟩
  · rintro ⟨before, part, after, rfl, rfl⟩
    exact ⟨before.map Char.toLower, after.map Char.toLower, by simp⟩

/-- The dotted capital `İ` starts with `i` in lower case, so the word must not have one. -/
theorem isPrefix_lowercaseAfter_iff (hword : ∀ t ∈ word, Sole t) (hdotless : 'i' ∉ word) :
    word <+: lowercaseAfter before cs ↔ word <+: cs.map Char.toLower := by
  induction cs generalizing before word with
  | nil => rfl
  | cons c rest ih =>
    cases word with
    | nil => exact iff_of_true List.nil_prefix List.nil_prefix
    | cons t word =>
      obtain ⟨ht, hword⟩ := List.forall_mem_cons.1 hword
      obtain ⟨hne, hdotless⟩ := List.ne_and_not_mem_of_not_mem_cons hdotless
      rw [List.map_cons, List.cons_prefix_cons]
      obtain ⟨x, hx, hsole⟩ | ⟨rfl, hx⟩ := lowercaseAfter_cons_cases before c rest
      · rw [hx, List.cons_prefix_cons, ih hword hdotless, eq_comm, hsole t ht, eq_comm]
      · have hcapital : ('İ' : Char).toLower ≠ t := ht.ne_outside (by decide)
        rw [hx, List.cons_prefix_cons]
        exact iff_of_false (fun h => hne h.1.symm) fun h => hcapital h.1.symm

theorem occurs_lowercaseAfter_iff (hword : ∀ t ∈ word, Sole t) (hdotless : 'i' ∉ word) :
    occurs word (lowercaseAfter before cs) = true ↔ occurs word (cs.map Char.toLower) = true := by
  induction cs generalizing before with
  | nil => rfl
  | cons c rest ih =>
    have hhere : word <+: lowercaseAfter before (c :: rest) ↔ _ :=
      isPrefix_lowercaseAfter_iff hword hdotless
    obtain ⟨x, hx, -⟩ | ⟨rfl, hx⟩ := lowercaseAfter_cons_cases before c rest
    · rw [hx] at hhere ⊢
      rw [List.map_cons, occurs_cons, hhere, ih, List.map_cons, occurs_cons]
    · rw [hx] at hhere ⊢
      rw [List.map_cons, occurs_cons, hhere, occurs_cons, ih, List.map_cons, occurs_cons]
      -- no occurrence starts at the mark
      refine or_congr_right (or_iff_right_of_imp fun hmark => ?_)
      cases word with
      | nil => exact occurs_nil _
      | cons t word =>
        have hne : '\u0307' ≠ t := (hword t List.mem_cons_self).ne_outside (by decide)
        exact absurd (List.cons_prefix_cons.1 hmark).1.symm hne

/-- Lower case neither makes nor breaks an occurrence of such a word. -/
theorem occurs_lowercase_iff (hword : ∀ t ∈ word, Sole t) (hdotless : 'i' ∉ word) :
    occurs word (lowercase cs) = true ↔ Mentions word cs :=
  (occurs_lowercaseAfter_iff hword hdotless).trans occurs_map_toLower_iff

end Text

namespace SourceKind

/-- The kind that a target asks for, by the words that it mentions. -/
theorem ofTarget_cases (target : String) :
    let metal := Text.Mentions "metal".toList target.toList
    let cuda := Text.Mentions "cuda".toList target.toList
    (metal ∧ ofTarget (some target) = .metal) ∨ (¬ metal ∧ cuda ∧ ofTarget (some target) = .cuda) ∨
      (¬ metal ∧ ¬ cuda ∧ ofTarget (some target) = .cpp) := by
  intro metal cuda
  have hmetal : Text.occurs "metal".toList (Text.lowercase target.toList) = true ↔ metal :=
    Text.occurs_lowercase_iff (List.all_iff_forall_prop.1 (by decide)) (by decide)
  have hcuda : Text.occurs "cuda".toList (Text.lowercase target.toList) = true ↔ cuda :=
    Text.occurs_lowercase_iff (List.all_iff_forall_prop.1 (by decide)) (by decide)
  simp only [ofTarget]
  by_cases hm : metal
  · exact .inl ⟨hm, if_pos (hmetal.2 hm)⟩
  · rw [if_neg (mt hmetal.1 hm)]
    by_cases hc : cuda
    · exact .inr (.inl ⟨hm, hc, if_pos (hcuda.2 hc)⟩)
    · exact .inr (.inr ⟨hm, hc, if_neg (mt hcuda.1 hc)⟩)

/-- The extension is that of Metal exactly for a descriptor in which the word stands, but for the case
of ASCII letters, else that of CUDA exactly for one in which that word stands, and that of C++ for all
others. So no text around the word hides it. -/
theorem extension_ofTarget (target : String) :
    let extension := (ofTarget (some target)).extension
    let metal := Text.Mentions "metal".toList target.toList
    let cuda := Text.Mentions "cuda".toList target.toList
    (extension = "metal" ↔ metal) ∧ (extension = "cu" ↔ ¬ metal ∧ cuda) ∧
      (extension = "cpp" ↔ ¬ metal ∧ ¬ cuda) ∧
      ∀ before word after : String, word.toList.map Char.toLower = "metal".toList →
        (ofTarget (some (before ++ word ++ after))).extension = "metal" := by
  intro extension metal cuda
  have hthree : (extension = "metal" ↔ metal) ∧ (extension = "cu" ↔ ¬ metal ∧ cuda) ∧
      (extension = "cpp" ↔ ¬ metal ∧ ¬ cuda) := by
    obtain ⟨hm, hkind⟩ | ⟨hm, hc, hkind⟩ | ⟨hm, hc, hkind⟩ := ofTarget_cases target
    · simp [extension, metal, hkind, hm, SourceKind.extension]
    · simp [extension, metal, cuda, hkind, hm, hc, SourceKind.extension]
    · simp [extension, metal, cuda, hkind, hm, hc, SourceKind.extension]
  refine ⟨hthree.1, hthree.2.1, hthree.2.2, fun before word after hword => ?_⟩
  have hmentions : Text.Mentions "metal".toList (before ++ word ++ after).toList :=
    ⟨before.toList, word.toList, after.toList, by simp, hword⟩
  obtain ⟨-, hkind⟩ | ⟨hm, -, -⟩ | ⟨hm, -, -⟩ := ofTarget_cases (before ++ word ++ after)
  · rw [hkind]
    rfl
  · exact absurd hmentions hm
  · exact absurd hmentions hm

/-- Letters around the word that change in length or by their neighbours, and a word that is broken
by one that looks alike. -/
theorem extension_ofTarget_between :
    (ofTarget (some ("İΣ" ++ "mEtAl" ++ "Σİ"))).extension = "metal" ∧
      (ofTarget (some "CUDA-meta\u0131l")).extension = "cu" := by
  obtain ⟨-, -, -, hword⟩ := extension_ofTarget ""
  obtain ⟨-, hcu, -, -⟩ := extension_ofTarget "CUDA-meta\u0131l"
  refine ⟨hword "İΣ" "mEtAl" "Σİ" (by decide), hcu.2 ⟨?_, [], "CUDA".toList, "-meta\u0131l".toList, ?_⟩⟩
  · rw [← Text.occurs_map_toLower_iff]
    decide
  · decide

end SourceKind
end KernelArchive
