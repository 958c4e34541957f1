import KernelArchive.Backend.Basic
import KernelArchive.CompiledKernel
import KernelArchive.Inventory.Basic

/-!
# What each backend keeps of a kernel

* `Backend.deviceEntry`, `hostEntry`, `libraryEntry`, `wrapperEntry`, `moduleEntry`,
  `launcherEntry`, `executableEntry`: the files that can be made of a kernel, each if the kernel
  has what it takes.
* `Backend.entries`: the files that each backend asks for. `Backend.inventory`: those there are.
-/

namespace KernelArchive
namespace Backend
set_option autoImplicit false

variable {ε : Type}

/-- The device source, if the kernel kept one; it may be empty. -/
def deviceEntry (kernel : CompiledKernel ε) (kind : SourceKind) (description : String) :
    Option (Entry ε) :=
  kernel.deviceSource.map fun source =>
    ((Entry.ofText (FileName.device kind) source).optional).describedAs description

/-- The host source, unless it is empty. -/
def hostEntry (kernel : CompiledKernel ε) : Option (Entry ε) :=
  (nonEmpty kernel.hostSource).map fun source =>
    ((Entry.ofText FileName.host source).optional).describedAs "Host wrapper source code"

/-- A compiled file, if it can be read. -/
def libraryEntry (fs : FileSystem) (library : Option Path) (name description : String) :
    Logged (Option (Entry ε)) :=
  match library with
  | none => pure none
  | some path => do
    let bytes ← fs.tryBytes path
    pure (bytes.map fun b => (Entry.ofBytes name b).describedAs description)

/-- The Python wrapper, which the compiler leaves beside a library with the extension `cubin`, if
it can be read. -/
def wrapperEntry (fs : FileSystem) (library : Option Path) : Logged (Option (Entry ε)) :=
  match library with
  | none => pure none
  | some path =>
    if path.extension? = some "cubin" then do
      let bytes ← fs.tryBytes (path.withExtension "py")
      pure (bytes.map fun b =>
        ((Entry.ofBytes FileName.python b).optional).describedAs "Python wrapper code")
    else pure none

/-- The generated Python module, which stands in the place of the host source, unless empty. -/
def moduleEntry (kernel : CompiledKernel ε) : Option (Entry ε) :=
  (nonEmpty kernel.hostSource).map fun source =>
    (Entry.ofText FileName.python source).describedAs "Python kernel module"

/-- The source of the launcher, unless it is empty. -/
def launcherEntry (kernel : CompiledKernel ε) : Option (Entry ε) :=
  (nonEmpty kernel.launcherSource).map fun source =>
    ((Entry.ofText FileName.launcherSource source).optional).describedAs
      "C++ launcher source code (debugging)"

/-- The executable, if the kernel has one. -/
def executableEntry (kernel : CompiledKernel ε) : Option (Entry ε) :=
  kernel.executable.map fun executable =>
    (Entry.ofExecutable FileName.executable executable).describedAs "Compiled executable library"

/-- The description of a device source when its kind goes without saying. -/
def deviceDescription : String := "Device kernel source code"

/-- The files that a backend asks for, each if the kernel has what it takes. -/
def entries (fs : FileSystem) (kernel : CompiledKernel ε) :
    Backend → Logged (List (Option (Entry ε)))
  | tvmFfi =>
    pure [deviceEntry kernel .cuda deviceDescription, hostEntry kernel, executableEntry kernel]
  | nvrtc => do
    let library ← libraryEntry fs kernel.library FileName.cubin "Compiled CUBIN"
    let wrapper ← wrapperEntry fs kernel.library
    pure [deviceEntry kernel .cuda deviceDescription, hostEntry kernel, library, wrapper]
  | cutedsl => do
    let library ← libraryEntry fs kernel.launcherLibrary FileName.launcherLibrary
      "C++ launcher library"
    pure [moduleEntry kernel, library, launcherEntry kernel]
  | cython => do
    let library ← libraryEntry fs kernel.library FileName.sharedLibrary "Compiled shared library"
    pure [deviceEntry kernel .cuda deviceDescription, hostEntry kernel, library]
  | torch => do
    let kind := SourceKind.ofTarget kernel.target
    let library ← libraryEntry fs kernel.library FileName.sharedLibrary "Compiled shared library"
    pure [deviceEntry kernel kind (deviceDescription ++ " (" ++ kind.extension ++ ")"),
      hostEntry kernel, library]
  | legacy => pure []

/-- The files to keep of a kernel. -/
def inventory (b : Backend) (fs : FileSystem) (kernel : CompiledKernel ε) :
    Logged (Inventory ε) := do
  let wanted ← b.entries fs kernel
  pure (Inventory.ofEntries (wanted.filterMap id))

end Backend
end KernelArchive
