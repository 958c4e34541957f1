import KernelArchive.Proofs.Exclusions
import KernelArchive.Proofs.Text.Pieces
import KernelArchive.Proofs.Text.Trimming

/-!
# Lists of names as sets

* `Exclusions.ext_excludes`: exclusions are known by what they leave out.
* `Exclusions.excludes_joined_iff`: pieces with commas between them leave out together what each
  leaves out alone.
* `Exclusions.items`: what stands between the commas of a list, without white space around it,
  unless it is empty.
* `Exclusions.ofList_union`: only the set of pieces counts, and a list says the same as leaving out
  its items one by one.
-/

namespace KernelArchive
namespace Exclusions
set_option autoImplicit false

variable {x y : Exclusions} {key list piece item a b : String} {pieces others : List String}

/-- Exclusions that leave out the same names are equal. -/
theorem ext_excludes (h : ∀ key, x.excludes key = true ↔ y.excludes key = true) : x = y := by
  obtain ⟨m⟩ := x
  obtain ⟨n⟩ := y
  congr 1
  apply OrderedMap.ext_get?
  intro key
  have hkey : (m.get? key).isSome = (n.get? key).isSome := Bool.eq_iff_iff.2 (h key)
  cases hm : m.get? key <;> cases hn : n.get? key <;> simp_all

/-! ## Pieces -/

theorem excludes_ofList_append :
    (ofList (a ++ "," ++ b)).excludes key = true ↔
      (ofList a).excludes key = true ∨ (ofList b).excludes key = true := by
  have hcut : Text.cut ',' (a ++ "," ++ b).toList =
      Text.cut ',' a.toList ++ Text.cut ',' b.toList := by
    rw [String.toList_append, String.toList_append, List.append_assoc]
    exact Text.cut_append_cons ',' a.toList b.toList
  simp only [excludes_ofList_iff, hcut, List.mem_append, or_and_right, exists_or]

theorem joined_cons (h : pieces ≠ []) :
    Text.joined ',' (piece :: pieces) = piece ++ "," ++ Text.joined ',' pieces := by
  have hjoined := Text.toList_joined_append ',' (List.cons_ne_nil piece []) h
  rw [List.singleton_append] at hjoined
  rw [← String.toList_inj, hjoined, String.toList_append, String.toList_append, List.append_assoc]
  simp [Text.joined, Text.glue]

theorem excludes_ofList_of_blank (h : piece.toList.all Text.isBlank = true) :
    (ofList piece).excludes key = false := by
  have hblank : ∀ c ∈ piece.toList, Text.isBlank c = true := List.all_eq_true.1 h
  have hcomma : ',' ∉ piece.toList := fun hmem => absurd (hblank ',' hmem) (by decide)
  rw [Bool.eq_false_iff, Ne, excludes_ofList_iff, Text.cut_of_notMem hcomma]
  simp [Text.trim_of_blank hblank]

theorem excludes_joined_iff :
    (ofList (Text.joined ',' pieces)).excludes key = true ↔
      ∃ piece ∈ pieces, (ofList piece).excludes key = true := by
  induction pieces with
  | nil =>
    have hempty : (ofList (Text.joined ',' [])).excludes key = false :=
      excludes_ofList_of_blank rfl
    simp [hempty]
  | cons piece rest ih =>
    cases rest with
    | nil => simp [Text.joined, Text.glue]
    | cons next more =>
      rw [joined_cons (List.cons_ne_nil next more), excludes_ofList_append, ih]
      simp

/-! ## Items -/

/-- What stands between the commas of a list, without white space around it, unless it is empty. -/
def items (list : String) : List String :=
  ((Text.segments ',' list).map fun piece => String.ofList (Text.trim piece.toList)).filter (· ≠ "")

theorem mem_items_iff :
    item ∈ items list ↔
      ∃ piece ∈ Text.cut ',' list.toList, Text.trim piece ≠ [] ∧ Text.trim piece = item.toList := by
  simp only [items, Text.segments, List.mem_filter, List.mem_map, decide_eq_true_eq,
    exists_exists_and_eq_and, String.toList_ofList]
  constructor
  · rintro ⟨⟨piece, hpiece, rfl⟩, hne⟩
    refine ⟨piece, hpiece, ?_, (String.toList_ofList).symm⟩
    intro hnil
    rw [hnil] at hne
    exact hne rfl
  · rintro ⟨piece, hpiece, hne, htrim⟩
    refine ⟨⟨piece, hpiece, by rw [htrim, String.ofList_toList]⟩, ?_⟩
    rintro rfl
    exact hne htrim

theorem excludes_ofList_iff_items :
    (ofList list).excludes key = true ↔
      ∃ item ∈ items list, Text.lowercase item.toList = key.toList := by
  rw [excludes_ofList_iff]
  constructor
  · rintro ⟨piece, hpiece, hne, hlower⟩
    refine ⟨String.ofList (Text.trim piece), mem_items_iff.2 ⟨piece, hpiece, hne, ?_⟩, ?_⟩
    · rw [String.toList_ofList]
    · rw [String.toList_ofList, hlower]
  · rintro ⟨item, hitem, hlower⟩
    obtain ⟨piece, hpiece, hne, htrim⟩ := mem_items_iff.1 hitem
    exact ⟨piece, hpiece, hne, by rw [htrim, hlower]⟩

/-! ## Lists -/

/-- Two lists with a comma between them leave out what either leaves out. So neither the order of the
pieces counts nor how often each stands there, nor pieces of white space alone; and leaving out the
items of a list one by one, in any order, comes to the same. -/
theorem ofList_union :
    (∀ a b name : String, (ofList (a ++ "," ++ b)).excludes name =
      ((ofList a).excludes name || (ofList b).excludes name)) ∧
    (∀ pieces others : List String,
      (∀ piece, piece.toList.all Text.isBlank = false → (piece ∈ pieces ↔ piece ∈ others)) →
      ofList (Text.joined ',' pieces) = ofList (Text.joined ',' others)) ∧
    ∀ (list : String) (order : List String), order.Perm (items list) →
      none.excludeAll order = ofList list := by
  refine ⟨fun a b name => ?_, fun pieces others hsame => ?_, fun list order hperm => ?_⟩
  · rw [Bool.eq_iff_iff, Bool.or_eq_true, excludes_ofList_append]
  · apply ext_excludes
    intro key
    rw [excludes_joined_iff, excludes_joined_iff]
    apply exists_congr
    intro piece
    -- a blank piece leaves out nothing, any other one stands on both sides
    cases hblank : piece.toList.all Text.isBlank with
    | true => simp [excludes_ofList_of_blank hblank]
    | false => rw [hsame piece hblank]
  · apply ext_excludes
    intro key
    rw [excludes_excludeAll_iff, excludes_ofList_iff_items, excludes_none]
    simp [hperm.mem_iff]

/-- Pieces in another order, one of them twice and with blank ones between. -/
theorem ofList_union_reordered :
    ofList (Text.joined ',' [" Torch", "cutedsl"]) =
        ofList (Text.joined ',' ["cutedsl", "", " Torch", "\u3000", "cutedsl"]) ∧
      none.excludeAll ["cutedsl", "Torch"] = ofList " Torch,cutedsl" := by
  obtain ⟨-, hpieces, hitems⟩ := ofList_union
  refine ⟨hpieces _ _ fun piece hblank => ?_, hitems _ _ ?_⟩
  · simp only [List.mem_cons, List.not_mem_nil, or_false]
    constructor
    · rintro (rfl | rfl) <;> simp
    · rintro (rfl | rfl | rfl | rfl | rfl)
      · exact .inr rfl
      · exact absurd hblank (by decide)
      · exact .inl rfl
      · exact absurd hblank (by decide)
      · exact .inr rfl
  · have hlist : items " Torch,cutedsl" = ["Torch", "cutedsl"] := by decide +kernel
    rw [hlist]
    exact List.Perm.swap _ _ _

end Exclusions
end KernelArchive
