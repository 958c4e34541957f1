import KernelArchive.Backend.Inventory
import KernelArchive.Scheme.Basic

/-!
# How each backend has a kernel back

* `Backend.restore`: the kernel kept in a directory. A backend reads what it can and gives up only
  if a required file does not exist.
* `Backend.scheme`: the scheme of a backend.
-/

namespace KernelArchive
namespace Backend
set_option autoImplicit false

variable {ε : Type}

/-- The kernel kept in a directory, if it can be had back. -/
def restore (b : Backend) (fs : FileSystem) (dir : Path) : Logged (Option RestoredKernel) :=
  match b with
  | tvmFfi => do
    let sources ← SourcePair.read fs dir SourceKind.cuda.extension
    pure ((fs.find? dir FileName.executable).map fun library =>
      (RestoredKernel.ofLibrary library).withSources sources)
  | nvrtc => do
    let sources ← SourcePair.read fs dir SourceKind.cuda.extension
    pure ((fs.find? dir FileName.cubin).map fun library =>
      { (RestoredKernel.ofLibrary library).withSources sources with
        pythonWrapper := fs.find? dir FileName.python })
  | cutedsl =>
    match fs.find? dir FileName.python, fs.find? dir FileName.launcherLibrary with
    | some pythonModule, some launcher => do
      let launcherSource ← fs.tryText (dir.join FileName.launcherSource)
      -- device and host code live inside the module
      pure (some
        { deviceSource := some ""
          hostSource := some ""
          library := pythonModule
          pythonWrapper := none
          launcherLibrary := some launcher
          launcherSource := launcherSource })
    | _, _ => pure none
  | cython => do
    let sources ← SourcePair.read fs dir SourceKind.cuda.extension
    pure ((fs.find? dir FileName.sharedLibrary).map fun library =>
      (RestoredKernel.ofLibrary library).withSources sources)
  | torch => do
    let device ← fs.firstText (SourceKind.probeOrder.map fun kind => dir.join (FileName.device kind))
    let host ← fs.tryText (dir.join FileName.host)
    pure ((fs.find? dir FileName.sharedLibrary).map fun library =>
      (RestoredKernel.ofLibrary library).withSources ⟨device, host⟩)
  | legacy => pure none

/-- The scheme of a backend. -/
def scheme (b : Backend) : Scheme ε where
  backend := b.name
  requiredFiles := b.requiredFiles
  inventory := b.inventory
  restore := b.restore

end Backend
end KernelArchive
