import KernelArchive.FileSystem.Path

/-!
# Compiled kernels

* `CompiledKernel`: what a compiler hands over. Backends differ in what they have, so every part
  is optional, and each backend keeps only the parts it knows.
-/

namespace KernelArchive
set_option autoImplicit false

/-- What a compiler hands over to be kept. -/
structure CompiledKernel (ε : Type) where
  /-- The source of the device kernel. -/
  deviceSource : Option String
  /-- The source of the host wrapper, or of the generated module. -/
  hostSource : Option String
  /-- The target descriptor, such as `cuda -arch=sm_90` or `metal`. -/
  target : Option String
  /-- The compiled library. -/
  library : Option Path
  /-- The compiled launcher. -/
  launcherLibrary : Option Path
  /-- The source of the launcher. -/
  launcherSource : Option String
  /-- The executable in memory. -/
  executable : Option ε

/-- A text that is present and not empty. -/
def nonEmpty (text : Option String) : Option String := text.filter (· != "")

end KernelArchive
