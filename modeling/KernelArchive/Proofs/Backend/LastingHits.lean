import KernelArchive.Proofs.Backend.Entries
import KernelArchive.Proofs.Backend.Readings
import KernelArchive.Proofs.Inventory.Succession

/-!
# Kernels stay found

* `Backend.fetch_retained`: after any saves, whatever they came to, a kernel that was found before
  is found still, in the same files.
-/

namespace KernelArchive
namespace Backend
set_option autoImplicit false

variable {ε : Type} {b : Backend} {fs after : FileSystem} {dir : Path} {name : String}
  {kernel : RestoredKernel}

/-- The files of a kernel are the same whatever can be read, but for the wrapper. -/
theorem artifacts_assembled {text text' : String → Option String} {wrapped wrapped' : Bool}
    (h : b.assembled dir text wrapped = some kernel) (hwrapped : wrapped = true → wrapped' = true) :
    ∃ kernel', b.assembled dir text' wrapped' = some kernel' ∧ kernel'.library = kernel.library ∧
      kernel'.launcherLibrary = kernel.launcherLibrary ∧
      (kernel.pythonWrapper.isSome = true → kernel'.pythonWrapper.isSome = true) := by
  cases b with
  | legacy => cases h
  | tvmFfi | cutedsl | cython | torch =>
    obtain rfl := Option.some.inj h
    exact ⟨_, rfl, rfl, rfl, id⟩
  | nvrtc =>
    obtain rfl := Option.some.inj h
    refine ⟨_, rfl, rfl, rfl, fun hsome => ?_⟩
    cases wrapped with
    | false => cases hsome
    | true => rw [hwrapped rfl]; rfl

section Retained

variable (hstart : after.start dir = fs.start dir) (hretains : fs.tree.Retains after.tree)
include hstart hretains

theorem present_join_of_retains (hname : Path.Plain name)
    (h : fs.present (dir.join name) = true) : after.present (dir.join name) = true := by
  have hrel := FileSystem.relative_of_plain hname
  refine FileSystem.present_of_retains ?_ hretains h
  rw [FileSystem.start_join after hrel, FileSystem.start_join fs hrel, hstart]

theorem isComplete_of_retains (h : (b.scheme : Scheme ε).isComplete fs dir = true) :
    (b.scheme : Scheme ε).isComplete after dir = true := by
  rw [isComplete_iff] at h ⊢
  intro name hname
  exact present_join_of_retains hstart hretains (plain_of_required hname) (h name hname)

theorem fetch_of_retains (h : ((b.scheme : Scheme ε).fetch fs dir).value = some kernel) :
    ∃ kernel', ((b.scheme : Scheme ε).fetch after dir).value = some kernel' ∧
      kernel'.library = kernel.library ∧ kernel'.launcherLibrary = kernel.launcherLibrary ∧
      (kernel.pythonWrapper.isSome = true → kernel'.pythonWrapper.isSome = true) := by
  rw [value_fetch] at h ⊢
  split at h
  · next hcomplete =>
    rw [if_pos (isComplete_of_retains hstart hretains hcomplete)]
    exact artifacts_assembled h (present_join_of_retains hstart hretains plain_python)
  · cases h

end Retained

/-- Whatever saves are made and whatever they come to, every node is still there afterwards, and of
its kind, if no exporter takes a node away or changes its kind. So a directory that was complete is
complete, and a kernel that was found is found in the same files. A relative path means the same
directory as long as no exporter goes to another working directory. -/
theorem fetch_retained (fs : FileSystem) (requests : List (Inventory.Request ε))
    (hx : ∀ r ∈ requests, ∀ x ∈ r.exporter,
      x.Respects fun found left => found.tree.Retains left.tree) :
    let after := (Inventory.saveInTurn fs requests).1
    (∀ loc n, fs.tree.lookup loc = some n →
      ∃ m, after.tree.lookup loc = some m ∧ m.isFile = n.isFile) ∧
    ((∀ r ∈ requests, ∀ x ∈ r.exporter, x.Respects fun found left => left.working = found.working) →
      ∀ dir, after.start dir = fs.start dir) ∧
    ∀ (b : Backend) (dir : Path), after.start dir = fs.start dir →
      ((b.scheme : Scheme ε).isComplete fs dir = true →
        (b.scheme : Scheme ε).isComplete after dir = true) ∧
      ∀ kernel, ((b.scheme : Scheme ε).fetch fs dir).value = some kernel →
        ∃ kernel', ((b.scheme : Scheme ε).fetch after dir).value = some kernel' ∧
          kernel'.library = kernel.library ∧ kernel'.launcherLibrary = kernel.launcherLibrary ∧
          (kernel.pythonWrapper.isSome = true → kernel'.pythonWrapper.isSome = true) := by
  intro after
  have hretains : fs.tree.Retains after.tree :=
    Inventory.lasting_saveInTurn FileSystem.lasting_tree hx fs
  refine ⟨hretains, fun hstays dir => ?_, fun b dir hstart => ⟨?_, fun kernel hkernel => ?_⟩⟩
  · have hworking : after.working = fs.working :=
      Inventory.lasting_saveInTurn FileSystem.lasting_working hstays fs
    exact FileSystem.start_of_working hworking dir
  · exact isComplete_of_retains hstart hretains
  · exact fetch_of_retains hstart hretains hkernel

/-- A kernel stays found where one save replaces its library and the next one fails. -/
theorem fetch_retained_replaced :
    let fs : FileSystem := ⟨(FileTree.empty.put [] "c" .directory).put ["c"] "kernel.cubin"
      (.file "old".toUTF8), []⟩
    let exporter : Exporter ByteArray := Exporter.writing .ok
    let requests : List (Inventory.Request ByteArray) :=
      [⟨⟨"c"⟩, Inventory.ofEntries [.ofExecutable "kernel.cubin" "new".toUTF8], some exporter⟩,
        ⟨⟨"c/kernel.cubin"⟩, Inventory.ofEntries [.ofText "x" "y"], none⟩]
    let out := Inventory.saveInTurn fs requests
    out.2 = [.ok ⟨[], [⟨"c/kernel.cubin"⟩], 0⟩,
        .error (.writeFailed ⟨"c/kernel.cubin"⟩ .alreadyExists)] ∧
      ∃ kernel, ((nvrtc.scheme : Scheme ByteArray).fetch out.1 ⟨"c"⟩).value = some kernel ∧
        kernel.library = ⟨"c/kernel.cubin"⟩ := by
  intro fs exporter requests out
  have hwriting : ∀ r ∈ requests, ∀ x ∈ r.exporter, x = exporter := by
    intro r hr x hx
    rcases List.mem_cons.1 hr with rfl | hr
    · exact (Option.some.inj hx).symm
    · rw [List.mem_singleton.1 hr] at hx
      cases hx
  obtain ⟨-, hstart, hkept⟩ := fetch_retained fs requests fun r hr x hx =>
    hwriting r hr x hx ▸ Exporter.respects_writing FileSystem.lasting_tree _
  have hstays := hstart (fun r hr x hx =>
    hwriting r hr x hx ▸ Exporter.respects_writing FileSystem.lasting_working _) ⟨"c"⟩
  have hfound : ((nvrtc.scheme : Scheme ByteArray).fetch fs ⟨"c"⟩).value =
      some (RestoredKernel.ofLibrary ⟨"c/kernel.cubin"⟩) := by decide +kernel
  obtain ⟨kernel, hkernel, hlibrary, -⟩ := (hkept nvrtc ⟨"c"⟩ hstays).2 _ hfound
  exact ⟨by decide +kernel, kernel, hkernel, hlibrary⟩

end Backend
end KernelArchive
