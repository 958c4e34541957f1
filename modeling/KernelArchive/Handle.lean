/-!
# Handles of executables

An executable in memory is opaque to this library: it is handed on and never looked into.

* `Handle`: a shared reference to an executable. Copies of a handle refer to the same executable,
  and `Handle.same` tells so; two executables that look alike are still different ones.
* `Handle.Source`, `Handle.build`: handles made one after the other, each for a new executable or
  as a copy of an earlier handle.
-/

namespace KernelArchive
set_option autoImplicit false

/-- A shared reference to an executable. -/
structure Handle (ε : Type) where
  /-- Tells this executable from all others. -/
  identity : Nat
  /-- The executable. -/
  object : ε

namespace Handle

variable {ε : Type}

/-- Do two handles refer to the same executable? -/
def same (a b : Handle ε) : Bool := a.identity == b.identity

/-- The text shown for a handle, which tells nothing of the executable. -/
def describe (_ : Handle ε) : String := "ExecutableHandle(..)"

/-- Where a handle comes from. -/
inductive Source (ε : Type)
  /-- A new executable. -/
  | fresh (object : ε)
  /-- A copy of the handle made at this position. -/
  | copyOf (position : Nat)

/-- The handles made so far, and one more. A copy of no handle makes nothing. -/
def add (made : List (Handle ε)) : Source ε → List (Handle ε)
  | .fresh object => made ++ [⟨made.length, object⟩]
  | .copyOf position => made ++ made[position]?.toList

/-- The handles made from these sources, one after the other. -/
def build (sources : List (Source ε)) : List (Handle ε) := sources.foldl add []

end Handle
end KernelArchive
