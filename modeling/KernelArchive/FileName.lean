import KernelArchive.SourceKind

/-!
# Names of kept files

* `FileName.device`, `FileName.host` and the others: the name under which each part of a kernel is
  kept in its directory.
-/

namespace KernelArchive
namespace FileName
set_option autoImplicit false

/-- A stem and an extension with a dot between them. -/
def ofStem (stem extension : String) : String := stem ++ "." ++ extension

/-- The stem of device sources. -/
def deviceStem : String := "device_kernel"

/-- The stem of host sources. -/
def hostStem : String := "host_kernel"

/-- The device source of a kind. -/
def device (kind : SourceKind) : String := ofStem deviceStem kind.extension

/-- The host source, which always goes with CUDA. -/
def host : String := ofStem hostStem SourceKind.cuda.extension

/-- The compiled shared library. -/
def sharedLibrary : String := "kernel_lib.so"

/-- The exported executable. -/
def executable : String := "executable.so"

/-- The compiled binary of a CUDA kernel. -/
def cubin : String := "kernel.cubin"

/-- The Python module or wrapper. -/
def python : String := "kernel.py"

/-- The compiled launcher. -/
def launcherLibrary : String := "launcher_lib.so"

/-- The source of the launcher. -/
def launcherSource : String := "launcher.cpp"

end FileName
end KernelArchive
