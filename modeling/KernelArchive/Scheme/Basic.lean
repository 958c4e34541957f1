import KernelArchive.CompiledKernel
import KernelArchive.Inventory.Basic
import KernelArchive.RestoredKernel.Basic

/-!
# Schemes for keeping kernels

* `Scheme`: how the kernels of one backend are kept: which files are made of a kernel, which of
  them must be there, and how a kernel is had back.
* `Scheme.isComplete`: do all required files exist in a directory?
* `Scheme.fetch`: a kernel had back after that check, with an event for a hit or a miss.
-/

namespace KernelArchive
set_option autoImplicit false

/-- How the kernels of one backend are kept. -/
structure Scheme (ε : Type) where
  /-- The name of the backend. -/
  backend : String
  /-- The files without which a kernel is lost. -/
  requiredFiles : List String
  /-- The files to keep of a kernel; files of the compiler are read for it. -/
  inventory : FileSystem → CompiledKernel ε → Logged (Inventory ε)
  /-- The kernel kept in a directory, if it can be had back. -/
  restore : FileSystem → Path → Logged (Option RestoredKernel)

namespace Scheme

variable {ε : Type}

/-- Do all required files exist in a directory? -/
def isComplete (s : Scheme ε) (fs : FileSystem) (dir : Path) : Bool :=
  s.requiredFiles.all fun name => fs.present (dir.join name)

/-- The kernel kept in a directory, looked for only if all required files exist. -/
def fetch (s : Scheme ε) (fs : FileSystem) (dir : Path) : Logged (Option RestoredKernel) :=
  if s.isComplete fs dir then do
    match ← s.restore fs dir with
    | some kernel => do
      Logged.report (.hit s.backend kernel.library)
      pure (some kernel)
    | none => do
      Logged.report (.missUnrestorable s.backend dir)
      pure none
  else do
    Logged.report (.missIncomplete s.backend dir)
    pure none

end Scheme
end KernelArchive
