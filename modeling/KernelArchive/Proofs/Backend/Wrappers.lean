import KernelArchive.Proofs.Backend.Entries
import KernelArchive.Proofs.FileSystem.FileNames

/-!
# The compiled binary and its wrapper

* `Backend.read_wrapper_iff`: a wrapper is read where the path of the library ends in a stem and
  `.cubin` and the file beside it of that stem and `.py` can be read. The one stem for which it is
  not is a dot, with nothing behind the name.
* `Backend.compiled_kept`: the inventory has the binary and the wrapper, each where it can be read.
-/

namespace KernelArchive
namespace Backend
set_option autoImplicit false

variable {ε : Type} {fs : FileSystem}

theorem read_wrapper_iff {library : Path} {bytes : ByteArray} :
    (library.extension? = some "cubin" ∧ fs.read (library.withExtension "py") = .ok bytes) ↔
      ∃ above stem silent, library.Ends above (stem ++ ".cubin") silent ∧ stem ≠ "" ∧
        ¬(stem = "." ∧ silent = []) ∧
        fs.read ⟨Text.joined '/' (above ++ [stem ++ ".py"])⟩ = .ok bytes := by
  have hcubin : ".cubin" = "." ++ "cubin" := rfl
  have hpy : ".py" = "." ++ "py" := rfl
  have hdot : '.' ∉ "cubin".toList := by decide
  simp only [hcubin, hpy, ← String.append_assoc]
  rw [Path.extension?_eq_some_iff (by decide)]
  constructor
  · rintro ⟨⟨-, above, stem, silent, hstem, hends⟩, hread⟩
    have hdots : ¬(stem = "." ∧ silent = []) := by
      rintro ⟨rfl, rfl⟩
      have hup := Path.withExtension_of_dots hends (by decide) hdot "py"
      exact FileSystem.read_of_up hup.segments bytes hread
    rw [Path.withExtension_of_ends hends hstem (by decide) hdot hdots] at hread
    exact ⟨above, stem, silent, hends, hstem, hdots, hread⟩
  · rintro ⟨above, stem, silent, hends, hstem, hdots, hread⟩
    refine ⟨⟨hdot, above, stem, silent, hstem, hends⟩, ?_⟩
    rwa [Path.withExtension_of_ends hends hstem (by decide) hdot hdots]

theorem toOption_read_eq_some_iff {p : Path} {bytes : ByteArray} :
    (fs.read p).toOption = some bytes ↔ fs.read p = .ok bytes := by
  cases fs.read p <;> simp [Except.toOption]

theorem kept_iff {library : Option Path} {read : Path → Option ByteArray}
    {entryOf : ByteArray → Entry ε} {entry : Entry ε} :
    (library.bind read).map entryOf = some entry ↔
      ∃ path bytes, library = some path ∧ read path = some bytes ∧ entry = entryOf bytes := by
  simp only [Option.map_eq_some_iff, Option.bind_eq_some_iff]
  constructor
  · rintro ⟨bytes, ⟨path, hlibrary, hread⟩, rfl⟩
    exact ⟨path, bytes, hlibrary, hread, rfl⟩
  · rintro ⟨path, bytes, hlibrary, hread, rfl⟩
    exact ⟨bytes, ⟨path, hlibrary, hread⟩, rfl⟩

theorem wrapperEntry_eq_some_iff {library : Option Path} {entry : Entry ε} :
    (wrapperEntry fs library).value = some entry ↔
      ∃ path bytes, library = some path ∧
        (path.extension? = some "cubin" ∧ fs.read (path.withExtension "py") = .ok bytes) ∧
        entry = ((Entry.ofBytes FileName.python bytes).optional).describedAs
          "Python wrapper code" := by
  rw [value_wrapperEntry, kept_iff]
  simp only [Option.ite_none_right_eq_some, toOption_read_eq_some_iff]

theorem libraryEntry_eq_some_iff {library : Option Path} {name description : String}
    {entry : Entry ε} :
    (libraryEntry fs library name description).value = some entry ↔
      ∃ path bytes, library = some path ∧ fs.read path = .ok bytes ∧
        entry = (Entry.ofBytes name bytes).describedAs description := by
  rw [value_libraryEntry, kept_iff]
  simp only [toOption_read_eq_some_iff]

/-- The wrapper is kept where the last segment of the library that counts is a stem and `.cubin` and
the file of that stem and `.py` beside it can be read, unless the stem is a dot with nothing behind
the name. The binary is kept wherever the library can be read. Each has the bytes of its file, and
neither depends on the other. -/
theorem compiled_kept (fs : FileSystem) (kernel : CompiledKernel ε) :
    let inventory := (nvrtc.inventory fs kernel).value
    (∀ entry, inventory.get? FileName.python = some entry ↔
      ∃ library above stem silent bytes, kernel.library = some library ∧
        library.Ends above (stem ++ ".cubin") silent ∧ stem ≠ "" ∧
        ¬(stem = "." ∧ silent = []) ∧
        fs.read ⟨Text.joined '/' (above ++ [stem ++ ".py"])⟩ = .ok bytes ∧
        entry = ((Entry.ofBytes FileName.python bytes).optional).describedAs
          "Python wrapper code") ∧
    ∀ entry, inventory.get? FileName.cubin = some entry ↔
      ∃ library bytes, kernel.library = some library ∧ fs.read library = .ok bytes ∧
        entry = (Entry.ofBytes FileName.cubin bytes).describedAs "Compiled CUBIN" := by
  intro inventory
  have hpython : inventory.get? FileName.python = (wrapperEntry fs kernel.library).value :=
    get?_inventory (by simp [table])
  have hcubin : inventory.get? FileName.cubin =
      (libraryEntry fs kernel.library FileName.cubin "Compiled CUBIN").value :=
    get?_inventory (by simp [table])
  refine ⟨fun entry => ?_, fun entry => ?_⟩
  · rw [hpython, wrapperEntry_eq_some_iff]
    simp only [read_wrapper_iff]
    constructor
    · rintro ⟨library, bytes, hlibrary, ⟨above, stem, silent, hends, hstem, hdots, hread⟩, hentry⟩
      exact ⟨library, above, stem, silent, bytes, hlibrary, hends, hstem, hdots, hread, hentry⟩
    · rintro ⟨library, above, stem, silent, bytes, hlibrary, hends, hstem, hdots, hread, hentry⟩
      exact ⟨library, bytes, hlibrary, ⟨above, stem, silent, hends, hstem, hdots, hread⟩, hentry⟩
  · rw [hcubin, libraryEntry_eq_some_iff]

/-- A stem that is a dot: the wrapper beside the library can be read, and is not kept. -/
theorem compiled_kept_dots :
    let fs : FileSystem :=
      ⟨((FileTree.empty.put [] "b" .directory).put ["b"] "..cubin" (.file ⟨#[0xc0]⟩)).put ["b"]
        "..py" (.file ⟨#[0x70]⟩), []⟩
    let kernel : CompiledKernel ByteArray :=
      ⟨none, none, none, some ⟨"b/..cubin"⟩, none, none, none⟩
    (⟨"b/..cubin"⟩ : Path).Ends ["b"] ("." ++ ".cubin") [] ∧ "." ≠ "" ∧
      fs.read ⟨Text.joined '/' (["b"] ++ ["." ++ ".py"])⟩ = .ok ⟨#[0x70]⟩ ∧
      (nvrtc.inventory fs kernel).value.get? FileName.python = none ∧
      (nvrtc.inventory fs kernel).value.get? FileName.cubin =
        some ((Entry.ofBytes FileName.cubin ⟨#[0xc0]⟩).describedAs "Compiled CUBIN") := by
  intro fs kernel
  refine ⟨⟨by decide, nofun, by decide⟩, by decide, by rfl, ?_, by rfl⟩
  rfl

end Backend
end KernelArchive
