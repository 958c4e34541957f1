import KernelArchive.Proofs.Backend.Entries
import KernelArchive.Proofs.Backend.Readings
import KernelArchive.RestoredKernel.Data

/-!
# Files that a backend can do without

* `FileSystem.AlikeBeside`: two file systems that differ at one name in a directory.
* `Backend.optionalFiles`, `Backend.part?`: the files that are read where they can be, each with the
  part of the restored kernel that it gives.
* `Backend.get_assembled_congr`: a part depends on the files that give it, and on no others.
* `Backend.restored_apart`: whatever becomes of a file that is not required, the kernel is restored
  with all its other parts.
-/

namespace KernelArchive
set_option autoImplicit false

variable {ε : Type}

/-! ## One name of a directory -/

namespace FileSystem

variable {fs after : FileSystem} {dir : Path} {name other : String}

/-- The path leads to a directory in both file systems, and they differ at most at one name in it
and below that. -/
structure AlikeBeside (fs after : FileSystem) (dir : Path) (name : String) : Prop where
  working : after.working = fs.working
  found : fs.isDirectory dir = true
  kept : after.isDirectory dir = true
  elsewhere : ∀ loc, ¬(fs.locate dir ++ [name] <+: loc) →
    after.tree.lookup loc = fs.tree.lookup loc

theorem opens_of_isDirectory (h : fs.isDirectory dir = true) : fs.Opens dir (fs.locate dir) := by
  unfold isDirectory node? at h
  cases hres : fs.resolve dir with
  | error e =>
    rw [hres] at h
    cases h
  | ok loc =>
    rw [hres] at h
    have hloc := resolve_eq_locate hres
    have hdir : fs.tree.lookup loc = some .directory := FileTree.hasDirectory_iff.1 h
    have htext : dir.text ≠ "" := (textFault?_eq_none_iff.1 (resolve_eq_ok_iff.1 hres).1).2.1
    rw [← hloc]
    exact ⟨by rw [Path.orHere, if_neg htext, hres], hdir⟩

theorem AlikeBeside.alikeAt (h : fs.AlikeBeside after dir name) (hother : Path.Plain other)
    (hne : other ≠ name) : fs.AlikeAt after (dir.join other) := by
  have hroot := opens_of_isDirectory h.found
  have hroot' := opens_of_isDirectory h.kept
  rw [locate_of_working h.working] at hroot'
  apply hroot.alikeAt_apart hroot' hother (mt List.mem_singleton.1 hne)
  exact fun loc hloc => h.elsewhere loc (hloc name List.mem_cons_self)

end FileSystem

/-! ## Parts and their files -/

namespace Backend

open RestoredKernel (Field)

variable {b : Backend} {fs after : FileSystem} {dir : Path} {name : String} {field : Field}
  {text text' : String → Option String} {wrapped wrapped' : Bool}
  {restored again : RestoredKernel}

/-- The files that a backend reads where it can, each with the part that it gives. -/
def optionalFiles : Backend → List (String × Field)
  | tvmFfi | cython => [(FileName.device .cuda, .deviceSource), (FileName.host, .hostSource)]
  | nvrtc => [(FileName.device .cuda, .deviceSource), (FileName.host, .hostSource),
      (FileName.python, .pythonWrapper)]
  | cutedsl => [(FileName.launcherSource, .launcherSource)]
  | torch => (SourceKind.probeOrder.map fun kind => (FileName.device kind, .deviceSource)) ++
      [(FileName.host, .hostSource)]
  | legacy => []

/-- The part that a file gives, if it is one of these. -/
def part? (b : Backend) (name : String) : Option Field := b.optionalFiles.lookup name

theorem part?_eq_some_iff : b.part? name = some field ↔ (name, field) ∈ b.optionalFiles := by
  constructor
  · intro h
    obtain ⟨before, behind, hsplit, -⟩ := List.lookup_eq_some_iff.1 h
    rw [hsplit]
    exact List.mem_append_right _ List.mem_cons_self
  · have hall : ∀ x ∈ b.optionalFiles, b.part? x.1 = some x.2 := by cases b <;> decide
    exact hall (name, field)

theorem plain_of_part? (h : b.part? name = some field) : Path.Plain name := by
  have hall : ∀ x ∈ b.optionalFiles, ∃ kind ∈ SourceKind.probeOrder,
      x.1 ∈ torch.names kind ∨ x.1 ∈ nvrtc.names kind ∨ x.1 ∈ cutedsl.names kind := by
    cases b <;> decide
  obtain ⟨kind, -, hname | hname | hname⟩ := hall _ (part?_eq_some_iff.1 h)
  · exact plain_of_mem_names _ kind hname
  · exact plain_of_mem_names _ kind hname
  · exact plain_of_mem_names _ kind hname

theorem get_assembled_congr (h : b.assembled dir text wrapped = some restored)
    (h' : b.assembled dir text' wrapped' = some again)
    (htext : ∀ name, b.part? name = some field → text' name = text name)
    (hwrapped : b.part? FileName.python = some field → wrapped' = wrapped) :
    again.get field = restored.get field := by
  cases b with
  | legacy => cases h
  | tvmFfi | cython =>
    obtain rfl := Option.some.inj h
    obtain rfl := Option.some.inj h'
    cases field with
    | deviceSource => exact htext _ (by decide)
    | hostSource => exact htext _ (by decide)
    | _ => rfl
  | nvrtc =>
    obtain rfl := Option.some.inj h
    obtain rfl := Option.some.inj h'
    cases field with
    | deviceSource => exact htext _ (by decide)
    | hostSource => exact htext _ (by decide)
    | pythonWrapper =>
      rw [hwrapped (by decide)]
      rfl
    | _ => rfl
  | cutedsl =>
    obtain rfl := Option.some.inj h
    obtain rfl := Option.some.inj h'
    cases field with
    | launcherSource => exact htext _ (by decide)
    | _ => rfl
  | torch =>
    obtain rfl := Option.some.inj h
    obtain rfl := Option.some.inj h'
    cases field with
    | deviceSource =>
      have hkinds : (fun kind => text' (FileName.device kind)) =
          fun kind => text (FileName.device kind) := by
        funext kind
        exact htext _ (by cases kind <;> decide)
      exact congrArg SourceKind.probeOrder.findSome? hkinds
    | hostSource => exact htext _ (by decide)
    | _ => rfl

/-- A text that one file alone can give is the text of that file. -/
theorem get_assembled_of_sole (h : b.assembled dir text wrapped = some restored)
    (hpart : b.part? name = some field) (hfield : field ≠ .pythonWrapper)
    (hsole : ∀ other, b.part? other = some field → other = name) :
    restored.get field = text name := by
  have hmem := part?_eq_some_iff.1 hpart
  cases b with
  | legacy => cases h
  | tvmFfi | cython =>
    obtain rfl := Option.some.inj h
    simp only [optionalFiles, List.mem_cons, List.not_mem_nil, or_false, Prod.mk.injEq] at hmem
    rcases hmem with ⟨rfl, rfl⟩ | ⟨rfl, rfl⟩
    · rfl
    · rfl
  | nvrtc =>
    obtain rfl := Option.some.inj h
    simp only [optionalFiles, List.mem_cons, List.not_mem_nil, or_false, Prod.mk.injEq] at hmem
    rcases hmem with ⟨rfl, rfl⟩ | ⟨rfl, rfl⟩ | ⟨rfl, rfl⟩
    · rfl
    · rfl
    · exact absurd rfl hfield
  | cutedsl =>
    obtain rfl := Option.some.inj h
    obtain ⟨rfl, rfl⟩ := Prod.mk.inj (List.mem_singleton.1 hmem)
    rfl
  | torch =>
    obtain rfl := Option.some.inj h
    -- several files can give the device source
    have hdevice : field ≠ .deviceSource := by
      rintro rfl
      have hcuda := hsole (FileName.device .cuda) (by decide)
      have hmetal := hsole (FileName.device .metal) (by decide)
      exact absurd (hcuda.trans hmetal.symm) (by decide)
    rcases List.mem_append.1 hmem with hmem | hmem
    · obtain ⟨kind, -, hkind⟩ := List.mem_map.1 hmem
      exact absurd (Prod.mk.inj hkind).2.symm hdevice
    · obtain ⟨rfl, rfl⟩ := Prod.mk.inj (List.mem_singleton.1 hmem)
      rfl

/-! ## Restored kernels -/

theorem isSome_restore_of_alike (hname : name ∉ b.requiredFiles)
    (h : fs.AlikeBeside after dir name) :
    (b.restore after dir).value.isSome = (b.restore fs dir).value.isSome := by
  by_cases hb : b = .legacy
  · subst hb
    rfl
  · rw [Bool.eq_iff_iff, isSome_restore hb, isSome_restore hb]
    refine forall₂_congr fun other hother => ?_
    have hne : other ≠ name := fun hsame => hname (hsame ▸ hother)
    rw [(h.alikeAt (plain_of_required hother) hne).present]

theorem get_restored_of_alike (hpart : b.part? name ≠ some field)
    (h : fs.AlikeBeside after dir name) (hrestored : (b.restore fs dir).value = some restored)
    (hagain : (b.restore after dir).value = some again) :
    again.get field = restored.get field := by
  -- the file that differs is none of those that give this part
  have hne : ∀ file, b.part? file = some field → file ≠ name := by
    rintro file hfile rfl
    exact hpart hfile
  refine get_assembled_congr (assembled_of_restore hrestored) (assembled_of_restore hagain) ?_ ?_
  · intro file hfile
    exact congrArg Logged.value (h.alikeAt (plain_of_part? hfile) (hne file hfile)).tryText
  · intro hpython
    exact (h.alikeAt plain_python (hne _ hpython)).present

/-- Whatever becomes of a file that is not required, be it absent, a directory or no text, a kernel
is restored if it was, and no part changes but the one that the file gives. A text that is read from
one file alone is there exactly if that file has the bytes of the text. -/
theorem restored_apart (b : Backend) (fs : FileSystem) (dir : Path) :
    (∀ after name, name ∉ b.requiredFiles → fs.AlikeBeside after dir name →
      ((b.scheme : Scheme ε).restore after dir).value.isSome =
        ((b.scheme : Scheme ε).restore fs dir).value.isSome ∧
      ∀ restored again, ((b.scheme : Scheme ε).restore fs dir).value = some restored →
        ((b.scheme : Scheme ε).restore after dir).value = some again →
        ∀ field, b.part? name ≠ some field → again.get field = restored.get field) ∧
    ∀ restored, ((b.scheme : Scheme ε).restore fs dir).value = some restored →
      ∀ name field, b.part? name = some field → field ≠ .pythonWrapper →
        (∀ other, b.part? other = some field → other = name) →
        ∀ text, restored.get field = some text ↔
          fs.node? (dir.join name) = some (.file text.toUTF8) := by
  refine ⟨fun after name hname halike => ⟨isSome_restore_of_alike hname halike, ?_⟩, ?_⟩
  · intro restored again hrestored hagain field hpart
    exact get_restored_of_alike hpart halike hrestored hagain
  · intro restored hrestored name field hpart hfield hsole text
    rw [get_assembled_of_sole (assembled_of_restore hrestored) hpart hfield hsole]
    exact FileSystem.tryText_eq_some_iff

theorem restored_apart_unreadable :
    let common := ((FileTree.empty.put [] "c" .directory).put ["c"] "kernel_lib.so"
      (.file .empty)).put ["c"] "host_kernel.cu" (.file "h".toUTF8)
    let fs : FileSystem := ⟨common.put ["c"] "device_kernel.cu" (.file ⟨#[0xff]⟩), []⟩
    let after : FileSystem := ⟨common.put ["c"] "device_kernel.cu" .directory, []⟩
    FileName.device .cuda ∉ torch.requiredFiles ∧
      fs.AlikeBeside after ⟨"c"⟩ (FileName.device .cuda) ∧
      ∃ restored again,
        ((torch.scheme : Scheme ByteArray).restore fs ⟨"c"⟩).value = some restored ∧
        ((torch.scheme : Scheme ByteArray).restore after ⟨"c"⟩).value = some again ∧
        restored.get .hostSource = some "h" ∧
        again.get .hostSource = restored.get .hostSource := by
  intro common fs after
  -- neither device source gives a text, and the host source beside it is read all the same
  have hoptional : FileName.device .cuda ∉ torch.requiredFiles := by decide
  have hfile : common.admits ["c"] "device_kernel.cu" (.file ⟨#[0xff]⟩) = true := by decide +kernel
  have hdirectory : common.admits ["c"] "device_kernel.cu" .directory = true := by decide +kernel
  have hlocate : fs.locate ⟨"c"⟩ = ["c"] := by decide +kernel
  have halike : fs.AlikeBeside after ⟨"c"⟩ (FileName.device .cuda) := by
    refine ⟨rfl, by decide +kernel, by decide +kernel, fun loc hloc => ?_⟩
    rw [hlocate] at hloc
    have hne : loc ≠ ["c"] ++ ["device_kernel.cu"] := by
      rintro rfl
      exact hloc (List.prefix_refl _)
    rw [FileTree.lookup_put hfile, FileTree.lookup_put hdirectory, if_neg hne, if_neg hne]
  have hsome : ((torch.scheme : Scheme ByteArray).restore fs ⟨"c"⟩).value.isSome = true := by
    decide +kernel
  obtain ⟨hapart, htexts⟩ := restored_apart torch fs ⟨"c"⟩
  obtain ⟨hsame, hparts⟩ := hapart after _ hoptional halike
  obtain ⟨restored, hrestored⟩ := Option.isSome_iff_exists.1 hsome
  obtain ⟨again, hagain⟩ := Option.isSome_iff_exists.1 (hsame.trans hsome)
  refine ⟨hoptional, halike, restored, again, hrestored, hagain, ?_, ?_⟩
  · have hsole : ∀ other, torch.part? other = some .hostSource → other = FileName.host := by
      intro other hother
      have hall : ∀ x ∈ torch.optionalFiles, x.2 = .hostSource → x.1 = FileName.host := by decide
      exact hall _ (part?_eq_some_iff.1 hother) rfl
    refine (htexts restored hrestored FileName.host .hostSource (by decide) nofun hsole "h").2 ?_
    rfl
  · exact hparts restored again hrestored hagain .hostSource (by decide)

end Backend
end KernelArchive
