import KernelArchive.Text.Lowercase
import KernelArchive.Text.Search

/-!
# Languages of device source

* `SourceKind`: what a device source is written in, with the `extension` of its file.
* `SourceKind.probeOrder`: the order in which the kinds are looked for.
* `SourceKind.ofTarget`: the kind that a target descriptor asks for.
-/

namespace KernelArchive
set_option autoImplicit false

/-- What a device source is written in. -/
inductive SourceKind
  | cuda
  | metal
  | cpp
  | c
deriving DecidableEq

namespace SourceKind

/-- The file extension, without its dot. -/
def extension : SourceKind → String
  | cuda => "cu"
  | metal => "metal"
  | cpp => "cpp"
  | c => "c"

/-- The order in which kinds are looked for when nothing tells which one was stored. -/
def probeOrder : List SourceKind := [cuda, metal, cpp, c]

/-- The kind that a target descriptor asks for: one that speaks of Metal in any case gets Metal,
else one that speaks of CUDA gets CUDA, and all others get C++. No descriptor means CUDA. -/
def ofTarget : Option String → SourceKind
  | none => cuda
  | some target =>
    let lowered := Text.lowercase target.toList
    if Text.occurs "metal".toList lowered then metal
    else if Text.occurs "cuda".toList lowered then cuda
    else cpp

end SourceKind
end KernelArchive
