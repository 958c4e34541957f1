import KernelArchive.FileName
import KernelArchive.FileSystem.Attempt

/-!
# Device and host sources

* `SourcePair`: the sources of a kernel, each if it could be read.
* `SourcePair.read`: the sources under their usual names in a directory.
-/

namespace KernelArchive
set_option autoImplicit false

/-- The device and host sources of a kernel, each if it could be read. -/
structure SourcePair where
  device : Option String
  host : Option String
deriving DecidableEq

/-- The device and host sources with this extension in a directory, each if it can be read. -/
def SourcePair.read (fs : FileSystem) (dir : Path) (extension : String) : Logged SourcePair := do
  let device ← fs.tryText (dir.join (FileName.ofStem FileName.deviceStem extension))
  let host ← fs.tryText (dir.join (FileName.ofStem FileName.hostStem extension))
  pure ⟨device, host⟩

end KernelArchive
