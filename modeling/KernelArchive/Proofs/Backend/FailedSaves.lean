import KernelArchive.Proofs.Backend.Entries
import KernelArchive.Proofs.Backend.Readings
import KernelArchive.Proofs.Inventory.Leftovers

/-!
# Kernels whose save failed

* `Backend.fetch_failed`: after a save that failed, the kernel is found if the required files were
  all saved before the failure. For most backends the last file to be saved is a required one, and
  the kernel is never found.
-/

namespace KernelArchive
namespace Backend
set_option autoImplicit false

variable {ε : Type} {b : Backend}

/-- No name comes after all the required ones. -/
theorem exists_required_not_before (hb : b = .cutedsl ∨ b = .cython ∨ b = .torch)
    (kind : SourceKind) : ∀ key ∈ b.names kind,
      ∃ name ∈ b.requiredFiles, KeyOrder.before name key = false := by
  rcases hb with rfl | rfl | rfl <;> cases kind <;> decide

/-- After a failed save into a directory without the required files, a kernel is found if the keys
of all of them are smaller than the one that the error is about. -/
theorem fetch_failed (b : Backend) (origin fs : FileSystem) (kernel : CompiledKernel ε) (dir : Path)
    (exporter : Option (Exporter ε)) {e : SaveError} (hb : b ≠ .legacy)
    (hdir : ".." ∉ dir.segments)
    (hfree : ∀ name ∈ b.requiredFiles, fs.present (dir.join name) = false)
    (hx : b = .tvmFfi → ∀ x ∈ exporter, x.Faithful)
    (herror : ((b.inventory origin kernel).value.save fs dir exporter).answer = .error e) :
    let inventory := (b.inventory origin kernel).value
    let after := (inventory.save fs dir exporter).files
    let fetched := ((b.scheme : Scheme ε).fetch after dir).value
    ∃ key ∈ inventory.keys, Inventory.StopsAt fs dir inventory exporter key e ∧
      (∀ other, Inventory.StopsAt fs dir inventory exporter other e → other = key) ∧
      (fetched.isSome = true ↔ ∀ name ∈ b.requiredFiles,
        name ∈ inventory.keys ∧ KeyOrder.before name key = true) ∧
      (b = .cutedsl ∨ b = .cython ∨ b = .torch → fetched = none) := by
  intro inventory after fetched
  obtain ⟨key, hfailed, hstops⟩ := Inventory.failed_of_save herror
  have hkey : key ∈ inventory.keys := hfailed.mem_keys
  have hpresent : ∀ name ∈ b.requiredFiles, after.present (dir.join name) = true ↔
      name ∈ inventory.keys ∧ KeyOrder.before name key = true := by
    intro name hname
    have hexports : inventory.Exports exporter name := by
      refine ⟨fun key hkey => plain_of_inventory hkey,
        fun key hkey => fault?_of_mem_names b _ key (mem_names_of_inventory hkey), ?_⟩
      intro key entry hmem hexec
      have hget := (inventory.mem_entries_iff key entry).1 hmem
      rw [name_of_executable hget hexec, List.mem_singleton] at hname
      exact ⟨hname.symm, hx (isExecutable_inventory hget hexec)⟩
    have hnone : fs.node? (dir.join name) = none :=
      Option.not_isSome_iff_eq_none.1 (Bool.eq_false_iff.1 (hfree name hname))
    exact Inventory.present_of_failed hexports (.inr hdir) (plain_of_required hname) hnone hfailed
  have hfound : fetched.isSome = true ↔ ∀ name ∈ b.requiredFiles,
      name ∈ inventory.keys ∧ KeyOrder.before name key = true := by
    rw [isSome_fetch hb]
    exact forall₂_congr hpresent
  refine ⟨key, hkey, hstops, fun other hother => hstops.unique hother, hfound, fun hthree => ?_⟩
  obtain ⟨name, hname, hbefore⟩ :=
    exists_required_not_before hthree _ key (mem_names_of_inventory hkey)
  refine Option.not_isSome_iff_eq_none.1 fun hsome => ?_
  rw [((hfound.1 hsome) name hname).2] at hbefore
  cases hbefore

/-- An executable is found though the host source behind it could not be saved. -/
theorem fetch_failed_behind :
    let fs : FileSystem :=
      ⟨(FileTree.empty.put [] "c" .directory).put ["c"] "host_kernel.cu" .directory, []⟩
    let kernel : CompiledKernel ByteArray :=
      ⟨none, some "h", none, none, none, none, some "e".toUTF8⟩
    let exporter : Exporter ByteArray := Exporter.writing .ok
    let out := (tvmFfi.inventory fs kernel).value.save fs ⟨"c"⟩ (some exporter)
    out.answer = .error (.writeFailed ⟨"c/host_kernel.cu"⟩ .isADirectory) ∧
      ((tvmFfi.scheme : Scheme ByteArray).fetch out.files ⟨"c"⟩).value.isSome = true := by
  intro fs kernel exporter out
  have hx : exporter.Faithful := Exporter.faithful_writing _
  have herror : out.answer = .error (.writeFailed ⟨"c/host_kernel.cu"⟩ .isADirectory) := by
    decide +kernel
  obtain ⟨key, -, -, hunique, hfound, -⟩ := fetch_failed tvmFfi fs fs kernel ⟨"c"⟩ (some exporter)
    (by decide) (by decide) (by decide +kernel) (fun _ x h => Option.some.inj h ▸ hx) herror
  have hat : Inventory.FailsAt fs ⟨"c"⟩ (tvmFfi.inventory fs kernel).value (some exporter)
      FileName.host :=
    ⟨by decide +kernel, ⟨⟨[], [⟨"c/executable.so"⟩], 0⟩, by decide +kernel⟩,
      ⟨.writeFailed ⟨"c/host_kernel.cu"⟩ .isADirectory, by decide +kernel⟩⟩
  refine ⟨herror, hfound.2 ?_⟩
  rw [← hunique FileName.host hat]
  decide +kernel

end Backend
end KernelArchive
