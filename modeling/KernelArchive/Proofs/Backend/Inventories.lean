import KernelArchive.Proofs.Backend.Entries
import KernelArchive.Proofs.Inventory.Checks
import KernelArchive.Proofs.Inventory.ExportCalls

/-!
# The inventory of a kernel

* `OrderedMap.entries_ofList_perm`: a map made of bindings with different keys has just these.
* `Backend.entries_inventory_perm`: the inventory of a kernel has all entries that were asked for.
* `Backend.executables_tvmFfi`, `Backend.executables_of_ne`: the executables among them.
* `Backend.inventory_wellFormed`: every entry is as the backend keeps it, none that was asked for is
  lost, and no key is refused when they are saved.
-/

namespace KernelArchive
set_option autoImplicit false

variable {ε : Type}

/-! ## Maps of different keys -/

namespace OrderedMap

variable {κ : Type} {α : Type} [KeyOrder κ]

theorem entries_nodup (m : OrderedMap κ α) : m.entries.Nodup :=
  m.increasing.imp fun hbefore hsame => KeyOrder.ne_of_before hbefore (congrArg Prod.fst hsame)

theorem entries_ofList_perm [DecidableEq κ] {pairs : List (κ × α)} (h : (pairs.map (·.1)).Nodup) :
    (ofList pairs).entries.Perm pairs := by
  refine (List.perm_ext_iff_of_nodup (entries_nodup _) (List.Nodup.of_map _ h)).2 fun p => ?_
  obtain ⟨k, a⟩ := p
  have honly : ∀ b, (k, b) ∈ pairs → (ofList pairs).get? k = some b := by
    intro b hmem
    refine get?_ofList_of_mem hmem fun q hq hkey => ?_
    rw [List.inj_on_of_nodup_map h hq hmem hkey]
  rw [mem_entries_iff]
  constructor
  · intro hget
    by_cases hkey : ∃ b, (k, b) ∈ pairs
    · obtain ⟨b, hmem⟩ := hkey
      rw [honly b hmem] at hget
      rwa [← Option.some.inj hget]
    · rw [get?_ofList_of_ne fun q hq hsame => hkey ⟨q.2, hsame ▸ hq⟩] at hget
      cases hget
  · exact honly a

end OrderedMap

/-! ## Entries of an inventory -/

namespace Inventory

theorem entries_ofEntries_perm {entries : List (Entry ε)} (h : (entries.map (·.path)).Nodup) :
    (ofEntries entries).entries.Perm (entries.map fun entry => (entry.path, entry)) := by
  refine OrderedMap.entries_ofList_perm ?_
  rw [List.map_map]
  exact h

theorem save_ne_unsafeKey {inventory : Inventory ε}
    (h : ∀ key ∈ inventory.keys, PathFault.of? key = none) (fs : FileSystem) (dir : Path)
    (exporter : Option (Exporter ε)) (key : String) (fault : PathFault) :
    (inventory.save fs dir exporter).answer ≠ .error (.unsafeKey key fault) := by
  intro hanswer
  have hearly : (SaveError.unsafeKey key fault).Early := trivial
  obtain ⟨least, ⟨⟨entry, hget, -⟩, -⟩, hrefusal⟩ :=
    fault?_eq_some_iff.1 (save_early_iff.1 ⟨hanswer, hearly⟩)
  have hmem := OrderedMap.mem_keys_of_mem ((inventory.mem_entries_iff least entry).2 hget)
  rw [refusal, h least hmem] at hrefusal
  cases hrefusal

end Inventory

namespace Backend

variable {b : Backend} {fs : FileSystem} {kernel : CompiledKernel ε}
  {table : List (String × Option (Entry ε))}

/-! ### None is lost -/

/-- The paths of named entries are some of the names, in their order. -/
theorem paths_sublist (hnamed : ∀ x ∈ table, ∀ entry ∈ x.2, entry.path = x.1) :
    (((table.map (·.2)).filterMap id).map (·.path)).Sublist (table.map (·.1)) := by
  induction table with
  | nil => exact List.Sublist.refl _
  | cons row rest ih =>
    obtain ⟨name, o⟩ := row
    obtain ⟨hrow, hrest⟩ := List.forall_mem_cons.1 hnamed
    cases o with
    | none => exact (ih hrest).cons name
    | some entry =>
      obtain rfl : entry.path = name := hrow entry rfl
      exact (ih hrest).cons_cons entry.path

theorem asked_nodup (b : Backend) (fs : FileSystem) (kernel : CompiledKernel ε) :
    (((b.entries fs kernel).value.filterMap id).map (·.path)).Nodup := by
  rw [entries_eq_table]
  refine (paths_sublist table_named).nodup ?_
  rw [table_names]
  exact names_nodup b _

theorem entries_inventory_perm (b : Backend) (fs : FileSystem) (kernel : CompiledKernel ε) :
    (b.inventory fs kernel).value.entries.Perm
      (((b.entries fs kernel).value.filterMap id).map fun entry => (entry.path, entry)) :=
  Inventory.entries_ofEntries_perm (asked_nodup b fs kernel)

/-! ### Executables -/

theorem executables_of_ne (hb : b ≠ .tvmFfi) :
    (b.inventory fs kernel).value.executables = [] := by
  refine List.filterMap_eq_nil_iff.2 fun ⟨key, entry⟩ hmem => ?_
  have hget := ((b.inventory fs kernel).value.mem_entries_iff key entry).1 hmem
  cases hcontent : entry.content with
  | executable e =>
    have hexec : entry.isExecutable = true := by
      rw [Entry.isExecutable, hcontent]
      rfl
    exact absurd (isExecutable_inventory hget hexec) hb
  | text s => rfl
  | binary bytes => rfl

theorem executables_tvmFfi (fs : FileSystem) (kernel : CompiledKernel ε) :
    (tvmFfi.inventory fs kernel).value.executables =
      kernel.executable.toList.map (FileName.executable, ·) := by
  have hperm := (entries_inventory_perm tvmFfi fs kernel).filterMap
    fun e => e.2.content.executable?.map (e.1, ·)
  have hasked : ((((tvmFfi.entries fs kernel).value.filterMap id).map
      fun entry => (entry.path, entry)).filterMap fun e => e.2.content.executable?.map (e.1, ·)) =
      kernel.executable.toList.map (FileName.executable, ·) := by
    show (([deviceEntry kernel .cuda deviceDescription, hostEntry kernel,
      executableEntry kernel].filterMap id).map _).filterMap _ = _
    unfold deviceEntry hostEntry executableEntry
    cases kernel.deviceSource <;> cases nonEmpty kernel.hostSource <;> cases kernel.executable <;> rfl
  rw [hasked] at hperm
  cases hexecutable : kernel.executable with
  | none =>
    rw [hexecutable] at hperm
    exact List.perm_nil.1 hperm
  | some executable =>
    rw [hexecutable] at hperm
    exact List.perm_singleton.1 hperm

/-! ## Well-formed inventories -/

/-- In the inventory of a kernel every entry stands under its own path, which is a safe one, is
marked as required if the backend requires that name, and is opened as its content asks. No two
entries that are asked for have one path, so that none is lost. There is an executable only for the
one backend that exports it, and then it is that of the kernel. No key is ever refused. -/
theorem inventory_wellFormed (b : Backend) (origin : FileSystem) (kernel : CompiledKernel ε) :
    let asked := (b.entries origin kernel).value.filterMap id
    let inventory := (b.inventory origin kernel).value
    (∀ key entry, inventory.get? key = some entry →
      entry.path = key ∧ PathFault.of? key = none ∧
      (entry.required = true ↔ key ∈ b.requiredFiles) ∧ entry.mode = entry.content.mode) ∧
    (asked.map (·.path)).Nodup ∧
    inventory.entries.Perm (asked.map fun entry => (entry.path, entry)) ∧
    inventory.executables =
      (if b = .tvmFfi then kernel.executable.toList.map (FileName.executable, ·) else []) ∧
    ∀ fs dir exporter key fault,
      (inventory.save fs dir exporter).answer ≠ .error (.unsafeKey key fault) := by
  intro asked inventory
  have hsafe : ∀ key ∈ inventory.keys, PathFault.of? key = none :=
    fun key hkey => fault?_of_mem_names b _ key (mem_names_of_inventory hkey)
  refine ⟨fun key entry hget => ?_, asked_nodup b origin kernel,
    entries_inventory_perm b origin kernel, ?_, Inventory.save_ne_unsafeKey hsafe⟩
  · have hkey := OrderedMap.mem_keys_of_mem ((inventory.mem_entries_iff key entry).2 hget)
    have hfiled := filed_inventory hget
    refine ⟨hfiled.path, hsafe key hkey, ?_, hfiled.mode⟩
    rw [hfiled.required, decide_eq_true_iff]
  · split
    · next hb =>
      subst hb
      exact executables_tvmFfi origin kernel
    · next hb => exact executables_of_ne hb

/-- Beside the compiled binary, which is required, stands the wrapper, which is not. -/
theorem inventory_wellFormed_wrapper :
    let origin : FileSystem :=
      ⟨(FileTree.empty.put [] "k.cubin" (.file "b".toUTF8)).put [] "k.py" (.file "w".toUTF8), []⟩
    let kernel : CompiledKernel ByteArray :=
      ⟨some "", none, none, some ⟨"k.cubin"⟩, none, none, some "e".toUTF8⟩
    let inventory := (nvrtc.inventory origin kernel).value
    inventory.keys = ["device_kernel.cu", "kernel.cubin", "kernel.py"] ∧
      inventory.executables = [] ∧
      ∃ cubin wrapper, inventory.get? "kernel.cubin" = some cubin ∧ cubin.required = true ∧
        inventory.get? "kernel.py" = some wrapper ∧ wrapper.required = false ∧
          wrapper.mode = .binary := by
  intro origin kernel inventory
  obtain ⟨hentries, -, -, hexecutables, -⟩ := inventory_wellFormed nvrtc origin kernel
  have hcubin : inventory.get? "kernel.cubin" =
      some ((Entry.ofBytes "kernel.cubin" "b".toUTF8).describedAs "Compiled CUBIN") := by rfl
  have hwrapper : inventory.get? "kernel.py" =
      some (((Entry.ofBytes "kernel.py" "w".toUTF8).optional).describedAs "Python wrapper code") := by
    rfl
  obtain ⟨-, -, hrequired, -⟩ := hentries _ _ hcubin
  obtain ⟨-, -, hoptional, hmode⟩ := hentries _ _ hwrapper
  exact ⟨by decide +kernel, hexecutables, _, _, hcubin, hrequired.2 (by decide), hwrapper,
    Bool.eq_false_iff.2 fun h => absurd (hoptional.1 h) (by decide), hmode⟩

end Backend
end KernelArchive
