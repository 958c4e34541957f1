import KernelArchive.Inventory.Entry
import KernelArchive.Json.DecodeError

/-!
# Open modes as data

* `OpenMode.toJson`: the name of a mode as a text.
* `OpenMode.ofJson?`: a mode from its name, or from an object with the name as its only key and
  null as its value.
-/

namespace KernelArchive
namespace OpenMode
set_option autoImplicit false

/-- All modes. -/
def all : List OpenMode := [text, binary]

/-- The mode as data. -/
def toJson (m : OpenMode) : Json := .text m.name

/-- The mode with a name. -/
def ofName? (name : String) : Except DecodeError OpenMode :=
  match all.find? (·.name == name) with
  | some m => .ok m
  | none => .error (.unknownName name (all.map OpenMode.name))

/-- The mode that a value stands for. -/
def ofJson? : Json → Except DecodeError OpenMode
  | .text name => ofName? name
  | .object members =>
    match (Json.fields members).entries with
    | [(name, payload)] =>
      match ofName? name with
      | .error e => .error e
      | .ok m =>
        match payload with
        | .null => .ok m
        | v => .error (.wrongType v.kind "unit")
    | _ => .error (.wrongForm "map" "map with a single key")
  | v => .error (.wrongType v.kind "string or map")

end OpenMode
end KernelArchive
