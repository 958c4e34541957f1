import KernelArchive.Proofs.Backend.Readings

/-!
# Complete directories

* `Backend.restored_iff_complete`: a kernel is restored exactly where every required file exists,
  and the check before a fetch is for just that.
* `Backend.artifacts_restored`: the paths in a restored kernel are those of the required files, in
  their order, and that of a Python wrapper beside them. All of them exist.
-/

namespace KernelArchive
namespace Backend
set_option autoImplicit false

variable {ε : Type} {b : Backend} {fs : FileSystem} {dir : Path} {restored : RestoredKernel}

/-- Whatever a path leads to, a kernel is restored from there if and only if the directory is
complete, which it is if every required file exists, be it a file or a directory. So checking first
never changes what comes back, also not for the backend that keeps nothing. -/
theorem restored_iff_complete (fs : FileSystem) (dir : Path) :
    (∀ b : Backend, b ≠ .legacy →
      (((b.scheme : Scheme ε).restore fs dir).value.isSome = true ↔
        (b.scheme : Scheme ε).isComplete fs dir = true) ∧
      ((b.scheme : Scheme ε).isComplete fs dir = true ↔
        ∀ name ∈ b.requiredFiles, fs.present (dir.join name) = true)) ∧
    ∀ b : Backend, ((b.scheme : Scheme ε).fetch fs dir).value =
      ((b.scheme : Scheme ε).restore fs dir).value := by
  refine ⟨fun b hb => ⟨?_, isComplete_iff⟩, fun b => value_fetch_eq_restore b fs dir⟩
  rw [isComplete_iff]
  exact isSome_restore hb fs dir

/-- A directory in the place of the module is as good, and a launcher source that is no text does
no harm. -/
theorem restored_iff_complete_unreadable :
    let fs : FileSystem :=
      ⟨(((FileTree.empty.put [] "c" .directory).put ["c"] "kernel.py" .directory).put ["c"]
        "launcher_lib.so" (.file .empty)).put ["c"] "launcher.cpp" (.file ⟨#[0xff]⟩), []⟩
    cutedsl ≠ legacy ∧ ((cutedsl.scheme : Scheme ByteArray).restore fs ⟨"c"⟩).value.isSome = true ∧
      ((cutedsl.scheme : Scheme ByteArray).fetch fs ⟨"c"⟩).value =
        ((cutedsl.scheme : Scheme ByteArray).restore fs ⟨"c"⟩).value := by
  intro fs
  have hpersists : cutedsl ≠ legacy := by decide
  obtain ⟨hrestored, hfetched⟩ := restored_iff_complete fs ⟨"c"⟩
  obtain ⟨hiff, hcomplete⟩ := hrestored cutedsl hpersists
  exact ⟨hpersists, hiff.2 (hcomplete.2 (by decide +kernel)), hfetched cutedsl⟩

/-! ## Artifacts -/

/-- The paths in a restored kernel are those of the required files in their order, then that of the
Python wrapper where the backend keeps one and it exists. -/
theorem artifacts_restored (b : Backend) (fs : FileSystem) (dir : Path)
    (h : ((b.scheme : Scheme ε).restore fs dir).value = some restored) :
    restored.artifacts = b.requiredFiles.map dir.join ++
      (if b = .nvrtc ∧ fs.present (dir.join FileName.python) = true then
        [dir.join FileName.python] else []) ∧
    ∀ path ∈ restored.artifacts, fs.present path = true := by
  have hassembled := assembled_of_restore h
  refine ⟨artifacts_of_assembled hassembled, fun path hpath => ?_⟩
  obtain ⟨name, rfl, hname | ⟨rfl, hwrapped⟩⟩ := mem_artifacts hassembled hpath
  · exact present_of_restore h name hname
  · exact hwrapped

/-- The wrapper comes behind the compiled binary, also where both are directories. -/
theorem artifacts_restored_wrapper :
    let fs : FileSystem :=
      ⟨((FileTree.empty.put [] "c" .directory).put ["c"] "kernel.cubin" .directory).put ["c"]
        "kernel.py" .directory, []⟩
    ∃ restored, ((nvrtc.scheme : Scheme ByteArray).restore fs ⟨"c"⟩).value = some restored ∧
      restored.artifacts = [⟨"c/kernel.cubin"⟩, ⟨"c/kernel.py"⟩] := by
  intro fs
  have hrestored : ((nvrtc.scheme : Scheme ByteArray).restore fs ⟨"c"⟩).value =
      some ⟨none, none, ⟨"c/kernel.cubin"⟩, some ⟨"c/kernel.py"⟩, none, none⟩ := by decide +kernel
  refine ⟨_, hrestored, (artifacts_restored nvrtc fs ⟨"c"⟩ hrestored).1.trans ?_⟩
  decide +kernel

end Backend
end KernelArchive
