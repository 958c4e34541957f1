import KernelArchive.SourcePair

/-!
# Restored kernels

* `RestoredKernel`: what can be had back from a directory, with `RestoredKernel.artifacts`, the
  paths in it.
-/

namespace KernelArchive
set_option autoImplicit false

/-- What can be had back from the directory of a kernel. -/
structure RestoredKernel where
  deviceSource : Option String
  hostSource : Option String
  /-- The compiled artifact to load first. -/
  library : Path
  /-- The Python wrapper beside it. -/
  pythonWrapper : Option Path
  launcherLibrary : Option Path
  /-- The source of the launcher. -/
  launcherSource : Option String
deriving DecidableEq

namespace RestoredKernel

/-- A kernel of which only the artifact is known. -/
def ofLibrary (library : Path) : RestoredKernel := ⟨none, none, library, none, none, none⟩

/-- The kernel with these sources. -/
def withSources (k : RestoredKernel) (sources : SourcePair) : RestoredKernel :=
  { k with deviceSource := sources.device, hostSource := sources.host }

/-- All paths in a restored kernel: the artifact, the wrapper and the launcher. -/
def artifacts (k : RestoredKernel) : List Path :=
  k.library :: (k.pythonWrapper.toList ++ k.launcherLibrary.toList)

end RestoredKernel

end KernelArchive
