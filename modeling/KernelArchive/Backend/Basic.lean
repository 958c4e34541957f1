import KernelArchive.RestoredKernel.Basic

/-!
# The built-in backends

* `Backend`: the backends that the library knows, with `Backend.name` and the files that each
  requires.
* `Backend.all`: all of them, in the order in which discovery probes them.
-/

namespace KernelArchive
set_option autoImplicit false

/-- A backend that the library knows. -/
inductive Backend
  | tvmFfi
  | nvrtc
  | cutedsl
  | cython
  | torch
  /-- Keeps nothing: others look after its kernels. -/
  | legacy
deriving DecidableEq

namespace Backend

/-- The name of a backend. -/
def name : Backend → String
  | tvmFfi => "tvm_ffi"
  | nvrtc => "nvrtc"
  | cutedsl => "cutedsl"
  | cython => "cython"
  | torch => "torch"
  | legacy => "legacy"

/-- All backends, in the order in which discovery probes them. -/
def all : List Backend := [tvmFfi, nvrtc, cutedsl, cython, torch, legacy]

theorem mem_all (b : Backend) : b ∈ all := by cases b <;> decide

theorem all_names_nodup : (all.map name).Nodup := by decide

/-- The backend with a name. -/
def ofName? (name : String) : Option Backend := all.find? (·.name == name)

/-- The files without which a kernel is lost. -/
def requiredFiles : Backend → List String
  | tvmFfi => [FileName.executable]
  | nvrtc => [FileName.cubin]
  | cutedsl => [FileName.python, FileName.launcherLibrary]
  | cython => [FileName.sharedLibrary]
  | torch => [FileName.sharedLibrary]
  | legacy => []

end Backend
end KernelArchive
