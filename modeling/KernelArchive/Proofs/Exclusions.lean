import Mathlib.Data.Bool.AllAny
import KernelArchive.Backend.Basic
import KernelArchive.Exclusions
import KernelArchive.Proofs.Text.Lowercase

/-!
# Which names a list leaves out

* `Exclusions.excludes_ofList_iff`: a list leaves out the lower-case forms of its items.
* `Exclusions.mentions`: one of the items is the name, but for the case of ASCII letters; for the
  built-in backends this is what a list leaves out (`excludes_ofList_backend`).
-/

namespace KernelArchive
namespace Exclusions
set_option autoImplicit false

variable {x : Exclusions} {name key list : String} {names : List String}

theorem excludes_none (key : String) : none.excludes key = false := rfl

theorem excludes_exclude_iff :
    (x.exclude name).excludes key = true ↔
      x.excludes key = true ∨ Text.lowercase name.toList = key.toList := by
  have hkey : key = String.ofList (Text.lowercase name.toList) ↔
      Text.lowercase name.toList = key.toList := by
    constructor
    · rintro rfl
      rw [String.toList_ofList]
    · intro h
      rw [h, String.ofList_toList]
  rw [excludes, exclude, OrderedMap.contains_insert, Bool.or_eq_true, decide_eq_true_iff, hkey,
    or_comm]
  rfl

theorem excludes_excludeAll_iff :
    (x.excludeAll names).excludes key = true ↔
      x.excludes key = true ∨ ∃ name ∈ names, Text.lowercase name.toList = key.toList := by
  induction names generalizing x with
  | nil => simp [excludeAll]
  | cons name rest ih =>
    show ((x.exclude name).excludeAll rest).excludes key = true ↔ _
    rw [ih, excludes_exclude_iff]
    simp [or_assoc]

/-- A list leaves out the lower-case forms of what stands between its commas, but for white space
around it; where nothing else stands, it leaves out nothing. -/
theorem excludes_ofList_iff :
    (ofList list).excludes key = true ↔ ∃ piece ∈ Text.cut ',' list.toList,
      Text.trim piece ≠ [] ∧ Text.lowercase (Text.trim piece) = key.toList := by
  rw [excludes, ofList, OrderedMap.contains_ofList_iff]
  simp only [List.mem_map, List.mem_filter, Bool.not_eq_true', List.isEmpty_eq_false_iff]
  constructor
  · rintro ⟨_, ⟨_, ⟨⟨piece, hpiece, rfl⟩, hne⟩, rfl⟩, rfl⟩
    rw [String.toList_ofList]
    exact ⟨piece, hpiece, mt Text.lowercase_eq_nil_iff.2 hne, rfl⟩
  · rintro ⟨piece, hpiece, hne, hlower⟩
    refine ⟨_, ⟨_, ⟨⟨piece, hpiece, rfl⟩, mt Text.lowercase_eq_nil_iff.1 hne⟩, rfl⟩, ?_⟩
    rw [hlower, String.ofList_toList]

/-- Is one of the comma-separated items the name, but for white space around it and the case of
ASCII letters? -/
def mentions (list name : String) : Bool :=
  (Text.segments ',' list).any fun item =>
    (Text.trim item.toList).map Char.toLower == name.toList.map Char.toLower

theorem mentions_iff :
    mentions list name = true ↔ ∃ piece ∈ Text.cut ',' list.toList,
      (Text.trim piece).map Char.toLower = name.toList.map Char.toLower := by
  simp [mentions, Text.segments]

/-- No character outside of ASCII makes an item a name of this kind. -/
theorem excludes_ofList_of_sole (hsole : ∀ t ∈ name.toList, Text.Sole t) (hne : name.toList ≠ []) :
    (ofList list).excludes name = mentions list name := by
  have hlower : name.toList.map Char.toLower = name.toList :=
    (List.map_congr_left fun t ht => (hsole t ht).2.1).trans (List.map_id _)
  rw [Bool.eq_iff_iff, excludes_ofList_iff, mentions_iff, hlower]
  refine exists_congr fun piece => and_congr_right fun _ => ?_
  rw [Text.lowercase_eq_iff hsole]
  refine and_iff_right_of_imp fun hname htrimmed => hne ?_
  rw [← hname, htrimmed, List.map_nil]

theorem sole_backend (b : Backend) : ∀ t ∈ b.name.toList, Text.Sole t :=
  List.all_iff_forall_prop.1 (by cases b <;> decide)

theorem excludes_ofList_backend (list : String) (b : Backend) :
    (ofList list).excludes b.name = mentions list b.name :=
  excludes_ofList_of_sole (sole_backend b) (by cases b <;> simp [Backend.name])

end Exclusions
end KernelArchive
