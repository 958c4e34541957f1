import KernelArchive.Text.Segments

/-!
# Keys that lead astray

* `PathFault`: why a key must not be used as a path below a directory.
* `PathFault.of?`: the first fault of a key, in a fixed order of tests.
-/

namespace KernelArchive
set_option autoImplicit false

/-- Why a key must not be used as a path below a directory. -/
inductive PathFault
  | empty
  | notRelative
  | driveLetter
  | backslash
  | parentSegment
deriving DecidableEq

namespace PathFault

/-- The text shown for a fault. -/
def message : PathFault → String
  | empty => "path cannot be empty"
  | notRelative => "path must be relative"
  | driveLetter => "path must not contain a drive letter"
  | backslash => "path must use forward slashes only"
  | parentSegment => "path must not contain '..'"

/-- The first fault of a key, if it has one. -/
def of? (key : String) : Option PathFault :=
  match key.toList with
  | [] => some empty
  | first :: rest =>
    if first = '/' ∨ first = '\\' then some notRelative
    else if rest.head? = some ':' then some driveLetter
    else if '\\' ∈ rest then some backslash
    else if ".." ∈ Text.segments '/' key then some parentSegment
    else none

end PathFault
end KernelArchive
