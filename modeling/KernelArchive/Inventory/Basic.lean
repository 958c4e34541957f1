import KernelArchive.Inventory.Entry
import KernelArchive.Ordered.Map

/-!
# Inventories

* `Inventory`: the files to keep of one compiled kernel, listed by increasing key. A key is the
  path under which the file is saved; an entry is normally kept under its own path.
-/

namespace KernelArchive
set_option autoImplicit false

/-- The files to keep of one compiled kernel, by the path under which each is saved. -/
abbrev Inventory (ε : Type) := OrderedMap String (Entry ε)

namespace Inventory

variable {ε : Type}

/-- Each entry under its own path; of entries with one path the last one stays. -/
def ofEntries (entries : List (Entry ε)) : Inventory ε :=
  OrderedMap.ofList (entries.map fun e => (e.path, e))

end Inventory
end KernelArchive
