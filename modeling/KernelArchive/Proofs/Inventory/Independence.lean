import KernelArchive.Proofs.Inventory.Laying

/-!
# Inventories saved side by side

* `Inventory.lays_partition`: entries at different locations may be taken in another order.
* `Inventory.save_beside`: of two inventories without a common location either can be saved first,
  or both at once.
-/

namespace KernelArchive
set_option autoImplicit false

/-! ## Maps without a common key -/

namespace OrderedMap

variable {κ α : Type} [KeyOrder κ] [DecidableEq κ] {m n : OrderedMap κ α}

/-- No key is bound in both maps. -/
def Disjoint (m n : OrderedMap κ α) : Prop := ∀ k, k ∈ m.keys → k ∉ n.keys

theorem get?_eq_none_of_not_mem {k : κ} (h : k ∉ m.keys) : m.get? k = none := by
  rw [← contains_iff, contains] at h
  simpa using h

theorem overlay_comm (h : Disjoint m n) : m.overlay n = n.overlay m := by
  refine ext_get? fun k => ?_
  rw [get?_overlay, get?_overlay]
  by_cases hk : k ∈ m.keys
  · rw [get?_eq_none_of_not_mem (h k hk), Option.none_or, Option.or_none]
  · rw [get?_eq_none_of_not_mem hk, Option.none_or, Option.or_none]

theorem entries_overlay_filter_contains (h : Disjoint m n) :
    (m.overlay n).entries.filter (m.contains ·.1) = m.entries := by
  have hpart : (m.overlay n).filter m.contains = m := by
    refine ext_get? fun k => ?_
    rw [get?_filter, get?_overlay]
    by_cases hk : k ∈ m.keys
    · rw [if_pos ((contains_iff m k).2 hk), get?_eq_none_of_not_mem (h k hk), Option.none_or]
    · rw [if_neg (mt (contains_iff m k).1 hk), get?_eq_none_of_not_mem hk]
  exact congrArg entries hpart

theorem entries_overlay_filter_not_contains (h : Disjoint m n) :
    (m.overlay n).entries.filter (!m.contains ·.1) = n.entries := by
  have hpart : (m.overlay n).filter (!m.contains ·) = n := by
    refine ext_get? fun k => ?_
    rw [get?_filter, get?_overlay]
    by_cases hk : k ∈ m.keys
    · rw [(contains_iff m k).2 hk, get?_eq_none_of_not_mem (h k hk)]
      rfl
    · rw [Bool.eq_false_iff.2 (mt (contains_iff m k).1 hk), get?_eq_none_of_not_mem hk,
        Option.or_none]
      rfl
  exact congrArg entries hpart

end OrderedMap

namespace Inventory

variable {ε : Type} {dir : Path} {exporter : Option (Exporter ε)} {key : String}
  {entries a b rest : List (String × Entry ε)} {x y : String × Entry ε}
  {fs mid after : FileSystem} {first second : Inventory ε}

/-! ## Entries at different locations -/

/-- Two keys name different locations, told from the same start. -/
structure Apart (fs : FileSystem) (dir : Path) (key other : String) : Prop where
  start : fs.start (dir.join key) = fs.start (dir.join other)
  locate : fs.locate (dir.join key) ≠ fs.locate (dir.join other)

theorem Apart.symm {other : String} (h : Apart fs dir key other) : Apart fs dir other key :=
  ⟨h.start.symm, h.locate.symm⟩

theorem Apart.of_working {other : String} (h : Apart fs dir key other)
    (hworking : after.working = fs.working) : Apart after dir key other where
  start := by
    rw [FileSystem.start_of_working hworking, FileSystem.start_of_working hworking, h.start]
  locate := by
    rw [FileSystem.locate_of_working hworking, FileSystem.locate_of_working hworking]
    exact h.locate

theorem lays_swap (hapart : Apart fs dir x.1 y.1) (h : Lays dir (x :: y :: rest) fs after) :
    Lays dir (y :: x :: rest) fs after := by
  obtain ⟨bytes, mid, hbytes, hfirst, htail⟩ := lays_cons.1 h
  obtain ⟨bytes', next, hbytes', hsecond, hrest⟩ := lays_cons.1 htail
  obtain ⟨mid', hfirst', hsecond'⟩ :=
    FileSystem.places_comm hapart.locate hapart.start hfirst hsecond
  exact lays_cons.2 ⟨bytes', mid', hbytes', hfirst',
    lays_cons.2 ⟨bytes, next, hbytes, hsecond', hrest⟩⟩

theorem lays_cons_congr (h : ∀ mid : FileSystem, mid.working = fs.working →
      (Lays dir a mid after ↔ Lays dir b mid after)) :
    Lays dir (x :: a) fs after ↔ Lays dir (x :: b) fs after := by
  simp only [lays_cons]
  refine exists_congr fun bytes => exists_congr fun mid => and_congr_right fun _ =>
    and_congr_right fun hfirst => h mid (FileSystem.places_iff.1 hfirst).2.working

/-- An entry may be taken after others at other locations. -/
theorem lays_move (hapart : ∀ y ∈ a, Apart fs dir x.1 y.1) :
    Lays dir (x :: (a ++ b)) fs after ↔ Lays dir (a ++ x :: b) fs after := by
  induction a generalizing fs with
  | nil => exact Iff.rfl
  | cons y rest ih =>
    obtain ⟨hfirst, hrest⟩ := List.forall_mem_cons.1 hapart
    have hswap : Lays dir (x :: y :: (rest ++ b)) fs after ↔
        Lays dir (y :: x :: (rest ++ b)) fs after :=
      ⟨lays_swap hfirst, lays_swap hfirst.symm⟩
    refine hswap.trans (lays_cons_congr fun mid hworking => ih fun z hz => ?_)
    exact (hrest z hz).of_working hworking

/-- Where the entries of one kind are all at other locations than those of the other kind, those of
one kind may be taken first. -/
theorem lays_partition {keep : String → Bool} (hapart : ∀ x ∈ entries, ∀ y ∈ entries,
      keep x.1 = true → keep y.1 = false → Apart fs dir x.1 y.1) :
    Lays dir entries fs after ↔
      Lays dir (entries.filter (keep ·.1) ++ entries.filter (!keep ·.1)) fs after := by
  induction entries generalizing fs with
  | nil => exact Iff.rfl
  | cons x rest ih =>
    have hrest : ∀ mid : FileSystem, mid.working = fs.working → (Lays dir rest mid after ↔
        Lays dir (rest.filter (keep ·.1) ++ rest.filter (!keep ·.1)) mid after) := by
      intro mid hworking
      refine ih fun y hy z hz hkeep hdrop => ?_
      exact (hapart y (List.mem_cons_of_mem x hy) z (List.mem_cons_of_mem x hz) hkeep
        hdrop).of_working hworking
    refine (lays_cons_congr hrest).trans ?_
    cases hx : keep x.1 with
    | true => simp [hx]
    | false =>
      have hmove : ∀ y ∈ rest.filter (keep ·.1), Apart fs dir x.1 y.1 := by
        intro y hy
        obtain ⟨hmem, hkeep⟩ := List.mem_filter.1 hy
        exact (hapart y (List.mem_cons_of_mem x hmem) x List.mem_cons_self hkeep hx).symm
      simpa [hx] using lays_move hmove

theorem disjoint_of_locate (hapart : ∀ key ∈ first.keys, ∀ other ∈ second.keys,
    fs.locate (dir.join key) ≠ fs.locate (dir.join other)) : first.Disjoint second :=
  fun key hkey hother => hapart key hkey key hother rfl

/-- Entries of two inventories at different locations are placed at once, or those of one inventory
before those of the other. -/
theorem lays_overlay
    (hapart : ∀ key ∈ first.keys, ∀ other ∈ second.keys, Apart fs dir key other) :
    Lays dir (first.overlay second).entries fs after ↔
      ∃ mid, Lays dir first.entries fs mid ∧ Lays dir second.entries mid after := by
  have hdisjoint : first.Disjoint second :=
    disjoint_of_locate fun key hkey other hother => (hapart key hkey other hother).locate
  have hparted : ∀ x ∈ (first.overlay second).entries, ∀ y ∈ (first.overlay second).entries,
      first.contains x.1 = true → first.contains y.1 = false → Apart fs dir x.1 y.1 := by
    intro x _ y hy hin hout
    have hother : y.1 ∉ first.keys := by
      rw [← OrderedMap.contains_iff, hout]
      exact Bool.false_ne_true
    have hmem := OrderedMap.mem_keys_overlay.1 (OrderedMap.mem_keys_of_mem hy)
    exact hapart _ ((OrderedMap.contains_iff first x.1).1 hin) _ (hmem.resolve_left hother)
  rw [lays_partition hparted, OrderedMap.entries_overlay_filter_contains hdisjoint,
    OrderedMap.entries_overlay_filter_not_contains hdisjoint, lays_append]

/-! ## Two inventories -/

theorem bytesWritten_overlay (h : first.Disjoint second) :
    (Summary.of dir (first.overlay second).entries).bytesWritten =
      (Summary.of dir first.entries).bytesWritten +
        (Summary.of dir second.entries).bytesWritten := by
  have hperm : ((first.overlay second).entries.filter (first.contains ·.1) ++
      (first.overlay second).entries.filter (!first.contains ·.1)).Perm
        (first.overlay second).entries := List.filter_append_perm _ _
  rw [OrderedMap.entries_overlay_filter_contains h,
    OrderedMap.entries_overlay_filter_not_contains h] at hperm
  simp only [Summary.of, ← List.sum_eq_foldl]
  rw [← (hperm.filterMap _).sum_nat, List.filterMap_append, List.sum_append]

section Two

variable (hfirst : ∀ e ∈ first.entries, e.2.isExecutable = false)
  (hsecond : ∀ e ∈ second.entries, e.2.isExecutable = false)
  (hapart : ∀ key ∈ first.keys, ∀ other ∈ second.keys,
    fs.locate (dir.join key) ≠ fs.locate (dir.join other))
include hfirst hsecond hapart

/-- Saving both at once comes to what saving one after the other comes to. -/
theorem save_overlay_iff :
    (∃ u, (save fs dir (first.overlay second) exporter).answer = .ok u) ∧
        (save fs dir (first.overlay second) exporter).files = after ↔
      (∃ s, (save fs dir first exporter).answer = .ok s) ∧
        (∃ t, (save (save fs dir first exporter).files dir second exporter).answer = .ok t) ∧
        (save (save fs dir first exporter).files dir second exporter).files = after := by
  have hplain : ∀ e ∈ (first.overlay second).entries, e.2.isExecutable = false := by
    rintro ⟨key, entry⟩ he
    rw [OrderedMap.mem_entries_iff, OrderedMap.get?_overlay, Option.or_eq_some_iff] at he
    rcases he with hlater | ⟨-, hearlier⟩
    · exact hsecond _ ((OrderedMap.mem_entries_iff ..).2 hlater)
    · exact hfirst _ ((OrderedMap.mem_entries_iff ..).2 hearlier)
  have hkeys : (∀ key ∈ (first.overlay second).keys, PathFault.of? key = none) ↔
      (∀ key ∈ first.keys, PathFault.of? key = none) ∧
        ∀ key ∈ second.keys, PathFault.of? key = none := by
    simp only [OrderedMap.mem_keys_overlay, or_imp, forall_and]
  have hstarts : (∀ key ∈ first.keys, PathFault.of? key = none) →
      (∀ key ∈ second.keys, PathFault.of? key = none) →
      ∀ key ∈ first.keys, ∀ other ∈ second.keys, Apart fs dir key other := by
    intro hfine hfine' key hkey other hother
    exact ⟨start_join_eq fs dir (PathFault.of?_eq_none (hfine key hkey)).1
      (PathFault.of?_eq_none (hfine' other hother)).1, hapart key hkey other hother⟩
  rw [save_ok_iff hplain, hkeys, save_ok_iff hsecond]
  constructor
  · rintro ⟨⟨hfine, hfine'⟩, hlays⟩
    obtain ⟨mid, hlower, hupper⟩ := (lays_overlay (hstarts hfine hfine')).1 hlays
    have hsaved : (∃ s, (save fs dir first exporter).answer = .ok s) ∧
        (save fs dir first exporter).files = mid := (save_ok_iff hfirst).2 ⟨hfine, hlower⟩
    obtain ⟨hok, rfl⟩ := hsaved
    exact ⟨hok, hfine', hupper⟩
  · rintro ⟨hok, hfine', hupper⟩
    obtain ⟨hfine, hlower⟩ := (save_ok_iff hfirst).1 ⟨hok, rfl⟩
    exact ⟨⟨hfine, hfine'⟩, (lays_overlay (hstarts hfine hfine')).2 ⟨_, hlower, hupper⟩⟩

/-- Both at once can be saved where one can be saved after the other. -/
theorem save_overlay_ok_iff :
    (∃ u, (save fs dir (first.overlay second) exporter).answer = .ok u) ↔
      (∃ s, (save fs dir first exporter).answer = .ok s) ∧
        ∃ t, (save (save fs dir first exporter).files dir second exporter).answer = .ok t := by
  constructor
  · intro h
    obtain ⟨hs, ht, -⟩ := (save_overlay_iff hfirst hsecond hapart).1 ⟨h, rfl⟩
    exact ⟨hs, ht⟩
  · rintro ⟨hs, ht⟩
    exact ((save_overlay_iff hfirst hsecond hapart).2 ⟨hs, ht, rfl⟩).1

theorem files_save_overlay
    (h : ∃ u, (save fs dir (first.overlay second) exporter).answer = .ok u) :
    (save fs dir (first.overlay second) exporter).files =
      (save (save fs dir first exporter).files dir second exporter).files :=
  ((save_overlay_iff hfirst hsecond hapart).1 ⟨h, rfl⟩).2.2.symm

end Two

/-- Of two inventories without executables, whose keys name different locations, either may be saved
first, or both at once. It does not matter to whether saving succeeds; and where it does, it does
not matter to the file system or to the number of bytes. (A location may lie above one of the other
inventory: then saving fails in each of the three ways.) -/
theorem save_beside (fs : FileSystem) (dir : Path) (first second : Inventory ε)
    (exporter : Option (Exporter ε))
    (hfirst : ∀ e ∈ first.entries, e.2.isExecutable = false)
    (hsecond : ∀ e ∈ second.entries, e.2.isExecutable = false)
    (hapart : ∀ key ∈ first.keys, ∀ other ∈ second.keys,
      fs.locate (dir.join key) ≠ fs.locate (dir.join other)) :
    let early := save fs dir first exporter
    let late := save early.files dir second exporter
    let early' := save fs dir second exporter
    let late' := save early'.files dir first exporter
    let whole := save fs dir (first.overlay second) exporter
    (((∃ s, early.answer = .ok s) ∧ ∃ t, late.answer = .ok t) ↔
      (∃ t, early'.answer = .ok t) ∧ ∃ s, late'.answer = .ok s) ∧
    (((∃ s, early.answer = .ok s) ∧ ∃ t, late.answer = .ok t) ↔ ∃ u, whole.answer = .ok u) ∧
    ∀ s t, early.answer = .ok s → late.answer = .ok t →
      (early'.answer = .ok t ∧ late'.answer = .ok s ∧ late'.files = late.files) ∧
      whole.files = late.files ∧
      ∃ u, whole.answer = .ok u ∧ u.bytesWritten = s.bytesWritten + t.bytesWritten := by
  intro early late early' late' whole
  have hdisjoint : first.Disjoint second := disjoint_of_locate hapart
  have hapart' : ∀ key ∈ second.keys, ∀ other ∈ first.keys,
      fs.locate (dir.join key) ≠ fs.locate (dir.join other) :=
    fun key hkey other hother => (hapart other hother key hkey).symm
  have hwhole : save fs dir (second.overlay first) exporter = whole :=
    congrArg (save fs dir · exporter) (OrderedMap.overlay_comm hdisjoint).symm
  have hforth : (∃ u, whole.answer = .ok u) ↔ (∃ s, early.answer = .ok s) ∧
      ∃ t, late.answer = .ok t := save_overlay_ok_iff hfirst hsecond hapart
  have hback : (∃ u, whole.answer = .ok u) ↔ (∃ t, early'.answer = .ok t) ∧
      ∃ s, late'.answer = .ok s := hwhole ▸ save_overlay_ok_iff hsecond hfirst hapart'
  refine ⟨hforth.symm.trans hback, hforth.symm, fun s t hs ht => ?_⟩
  obtain ⟨u, hu⟩ := hforth.2 ⟨⟨s, hs⟩, t, ht⟩
  obtain ⟨⟨t', ht'⟩, s', hs'⟩ := hback.1 ⟨u, hu⟩
  have hfiles : whole.files = late.files := files_save_overlay hfirst hsecond hapart ⟨u, hu⟩
  have hfiles' : whole.files = late'.files :=
    hwhole ▸ files_save_overlay hsecond hfirst hapart' ⟨u, hwhole ▸ hu⟩
  -- what is reported depends on the inventory alone
  have hsame : s' = s := (summary_of_save hs').trans (summary_of_save hs).symm
  have hsame' : t' = t := (summary_of_save ht').trans (summary_of_save ht).symm
  refine ⟨⟨hsame' ▸ ht', hsame ▸ hs', hfiles'.symm.trans hfiles⟩, hfiles, u, hu, ?_⟩
  rw [summary_of_save hu, summary_of_save hs, summary_of_save ht]
  exact bytesWritten_overlay hdisjoint

/-- Two inventories that share a directory, with keys between those of the other. -/
theorem save_beside_interleaved :
    let fs : FileSystem := ⟨FileTree.empty.put [] "c" (.file "old".toUTF8), []⟩
    let first : Inventory ByteArray := Inventory.ofEntries [.ofText "a/x" "1", .ofText "c" "22"]
    let second : Inventory ByteArray := Inventory.ofEntries [.ofText "a/y" "333", .ofText "b/z" ""]
    let late := save (save fs ⟨"."⟩ first none).files ⟨"."⟩ second none
    (save (save fs ⟨"."⟩ second none).files ⟨"."⟩ first none).files = late.files ∧
      (save fs ⟨"."⟩ (first.overlay second) none).files = late.files ∧
      ∃ u, (save fs ⟨"."⟩ (first.overlay second) none).answer = .ok u ∧ u.bytesWritten = 6 := by
  intro fs first second late
  have hapart : ∀ key ∈ first.keys, ∀ other ∈ second.keys,
      fs.locate ((⟨"."⟩ : Path).join key) ≠ fs.locate ((⟨"."⟩ : Path).join other) := by
    decide +kernel
  have hearly : (save fs ⟨"."⟩ first none).answer = .ok ⟨[⟨"./a/x"⟩, ⟨"./c"⟩], [], 3⟩ := by
    decide +kernel
  have hlate : late.answer = .ok ⟨[⟨"./a/y"⟩, ⟨"./b/z"⟩], [], 3⟩ := by decide +kernel
  obtain ⟨-, -, h⟩ :=
    save_beside fs ⟨"."⟩ first second none (by decide +kernel) (by decide +kernel) hapart
  obtain ⟨⟨-, -, hback⟩, hwhole, u, hu, hbytes⟩ := h _ _ hearly hlate
  exact ⟨hback, hwhole, u, hu, hbytes⟩

end Inventory
end KernelArchive
