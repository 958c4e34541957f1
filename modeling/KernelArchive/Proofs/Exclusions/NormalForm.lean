import KernelArchive.Proofs.Exclusions.Lists
import KernelArchive.Proofs.Text.ByteOrder

/-!
# What a list is read as

* `Exclusions.Normal`: a name as it comes out of a list.
* `Exclusions.Around`: a piece of a list that is a name with white space around it.
* `Exclusions.ofList_normal`: all names are normal and in increasing order of their bytes, a list
  made of them is read as the same exclusions, and names with capitals are never left out.
-/

namespace KernelArchive
namespace Exclusions
set_option autoImplicit false

variable {x : Exclusions} {name key list piece : String} {names pieces : List String}

/-- A name as it comes out of a list. -/
structure Normal (name : String) : Prop where
  nonempty : name ≠ ""
  single : ',' ∉ name.toList
  trimmed : Text.Trimmed name.toList
  lowered : Text.lowercase name.toList = name.toList

/-- The piece is the name with white space around it. -/
def Around (piece name : String) : Prop :=
  ∃ before after : String, piece = before ++ name ++ after ∧
    before.toList.all Text.isBlank = true ∧ after.toList.all Text.isBlank = true

theorem mem_toList_iff : name ∈ x.toList ↔ x.excludes name = true :=
  (x.names.contains_iff name).symm

theorem normal_of_excludes (h : (ofList list).excludes name = true) : Normal name := by
  obtain ⟨piece, hpiece, hne, hlower⟩ := excludes_ofList_iff.1 h
  have hsingle : ',' ∉ Text.trim piece :=
    fun hmem => Text.sep_notMem_cut ',' list.toList piece hpiece (Text.mem_of_mem_trim hmem)
  constructor
  · rintro rfl
    exact hne (Text.lowercase_eq_nil_iff.1 hlower)
  · rw [← hlower]
    intro hmem
    exact hsingle (Text.mem_of_mem_lowercase hmem (by decide))
  · rw [← hlower]
    exact (Text.trimmed_trim piece).lowercase
  · rw [← hlower, Text.lowercase_lowercase]

theorem increasing (x : Exclusions) :
    x.toList.Pairwise fun a b => Text.bytes a < Text.bytes b := by
  apply List.Pairwise.imp _ x.names.keys_increasing
  intro a b hbefore
  exact Text.lt_iff_bytes_lt.1 (KeyOrder.before_string_iff.1 hbefore)

/-! ## Read again -/

theorem excludes_ofList_around (hname : Normal name) (h : Around piece name) :
    (ofList piece).excludes key = true ↔ key = name := by
  obtain ⟨before, after, rfl, hbefore, hafter⟩ := h
  have hbefore := List.all_eq_true.1 hbefore
  have hafter := List.all_eq_true.1 hafter
  have hpiece : (before ++ name ++ after).toList = before.toList ++ name.toList ++ after.toList := by
    simp
  have hcomma : ',' ∉ before.toList ++ name.toList ++ after.toList := by
    simp only [List.mem_append, not_or]
    exact ⟨⟨fun hmem => absurd (hbefore ',' hmem) (by decide), hname.single⟩,
      fun hmem => absurd (hafter ',' hmem) (by decide)⟩
  rw [excludes_ofList_iff, hpiece, Text.cut_of_notMem hcomma]
  simp only [List.mem_singleton, exists_eq_left, Text.trim_around hname.trimmed hbefore hafter,
    hname.lowered, String.toList_inj]
  constructor
  · intro h
    exact h.2.symm
  · rintro rfl
    exact ⟨fun hnil => hname.nonempty (String.toList_eq_nil_iff.1 hnil), rfl⟩

theorem excludes_joined_around (hnames : ∀ name ∈ names, Normal name)
    (h : List.Forall₂ Around pieces names) :
    (ofList (Text.joined ',' pieces)).excludes key = true ↔ key ∈ names := by
  rw [excludes_joined_iff]
  induction h with
  | nil => simp
  | cons haround _ ih =>
    obtain ⟨hname, hnames⟩ := List.forall_mem_cons.1 hnames
    simp only [List.mem_cons, exists_eq_or_imp, excludes_ofList_around hname haround, ih hnames]

/-! ## Normal form -/

theorem not_excludes_of_capitals (hx : ∀ key, x.excludes key = true →
      Text.lowercase key.toList = key.toList) (h : Text.lowercase name.toList ≠ name.toList) :
    (x.excludeAll names).excludes name = false := by
  rw [Bool.eq_false_iff, Ne, excludes_excludeAll_iff]
  rintro (hexcluded | ⟨other, -, hlower⟩)
  · exact h (hx name hexcluded)
  · apply h
    rw [← hlower, Text.lowercase_lowercase]

/-- Every name that a list leaves out is normal: not empty, without commas, without white space at
either end and in lower case. The names stand in increasing order of their bytes. A list of these
names, with any white space around each, is read as the same exclusions. And whatever is left out
besides, a name that is not in lower case never is. -/
theorem ofList_normal (list : String) :
    let exclusions := ofList list
    (∀ name ∈ exclusions.toList, Normal name) ∧
    exclusions.toList.Pairwise (fun a b => Text.bytes a < Text.bytes b) ∧
    (∀ pieces, List.Forall₂ Around pieces exclusions.toList →
      ofList (Text.joined ',' pieces) = exclusions) ∧
    ∀ (names : List String) (name : String), Text.lowercase name.toList ≠ name.toList →
      (exclusions.excludeAll names).excludes name = false := by
  intro exclusions
  have hnormal : ∀ name, exclusions.excludes name = true → Normal name :=
    fun name => normal_of_excludes
  have hnames : ∀ name ∈ exclusions.toList, Normal name :=
    fun name hname => hnormal name (mem_toList_iff.1 hname)
  refine ⟨hnames, increasing exclusions, fun pieces haround => ?_, fun names name hname => ?_⟩
  · apply ext_excludes
    intro key
    rw [excludes_joined_around hnames haround, mem_toList_iff]
  · exact not_excludes_of_capitals (fun key hkey => (hnormal key hkey).lowered) hname

/-- Capitals with rules of their own, and the names that come of them with white space around. -/
theorem ofList_normal_capitals :
    let exclusions := ofList "ΝΟΣ,\u3000İ ,,"
    exclusions.toList = ["i\u0307", "νος"] ∧ Normal "νος" ∧
      ofList "\u00a0i\u0307,νος " = exclusions ∧
      (exclusions.excludeAll ["ΝΟΣ"]).excludes "ΝΟΣ" = false := by
  intro exclusions
  obtain ⟨hnames, -, hagain, hcapitals⟩ := ofList_normal "ΝΟΣ,\u3000İ ,,"
  have hlist : exclusions.toList = ["i\u0307", "νος"] := by decide +kernel
  refine ⟨hlist, hnames _ (by rw [hlist]; simp), ?_, hcapitals _ _ (by decide +kernel)⟩
  refine hagain ["\u00a0i\u0307", "νος "] ?_
  rw [hlist]
  exact .cons ⟨"\u00a0", "", by decide +kernel⟩ (.cons ⟨"", " ", by decide +kernel⟩ .nil)

end Exclusions
end KernelArchive
