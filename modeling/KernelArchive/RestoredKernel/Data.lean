import KernelArchive.Json.DecodeError
import KernelArchive.RestoredKernel.Basic

/-!
# Restored kernels as data

* `RestoredKernel.toJson`: an object with a field for each part that is present.
* `RestoredKernel.ofJson?`: a kernel from such an object, or from a list of its parts in the order
  of `RestoredKernel.fieldNames`. Unknown fields are passed over, and null counts as absent.
-/

namespace KernelArchive
namespace RestoredKernel
set_option autoImplicit false

/-- The parts of a restored kernel. -/
inductive Field
  | deviceSource
  | hostSource
  | library
  | pythonWrapper
  | launcherLibrary
  | launcherSource
deriving DecidableEq

namespace Field

/-- All parts, in the order in which a list gives them. -/
def all : List Field :=
  [deviceSource, hostSource, library, pythonWrapper, launcherLibrary, launcherSource]

/-- The name of a part in an object. -/
def name : Field → String
  | deviceSource => "device_kernel_source"
  | hostSource => "host_kernel_source"
  | library => "kernel_lib_path"
  | pythonWrapper => "python_wrapper_path"
  | launcherLibrary => "launcher_lib_path"
  | launcherSource => "launcher_cpp_code"

/-- The part with a name. -/
def ofName? (name : String) : Option Field := all.find? (·.name == name)

/-- What error messages expect of a part. -/
def expected : Field → String
  | deviceSource => "a string"
  | hostSource => "a string"
  | library => "path string"
  | pythonWrapper => "path string"
  | launcherLibrary => "path string"
  | launcherSource => "a string"

/-- Must the part be there? -/
def isMandatory (f : Field) : Bool := f == library

end Field

/-! ## Writing -/

/-- The part of a kernel as a text, if it is present. -/
def get (k : RestoredKernel) : Field → Option String
  | .deviceSource => k.deviceSource
  | .hostSource => k.hostSource
  | .library => some k.library.text
  | .pythonWrapper => k.pythonWrapper.map Path.text
  | .launcherLibrary => k.launcherLibrary.map Path.text
  | .launcherSource => k.launcherSource

/-- The object with a field for each part that is present. -/
def toJson (k : RestoredKernel) : Json :=
  .object (Field.all.filterMap fun f => (k.get f).map fun s => (f.name, .text s))

/-! ## Reading -/

/-- The parts found so far; the library may still be missing. -/
structure Draft where
  deviceSource : Option String
  hostSource : Option String
  library : Option String
  pythonWrapper : Option String
  launcherLibrary : Option String
  launcherSource : Option String

namespace Draft

/-- Nothing found. -/
def blank : Draft := ⟨none, none, none, none, none, none⟩

/-- The draft with a part set. -/
def set (d : Draft) (f : Field) (s : Option String) : Draft :=
  match f with
  | .deviceSource => { d with deviceSource := s }
  | .hostSource => { d with hostSource := s }
  | .library => { d with library := s }
  | .pythonWrapper => { d with pythonWrapper := s }
  | .launcherLibrary => { d with launcherLibrary := s }
  | .launcherSource => { d with launcherSource := s }

/-- The draft with a part read from a value. -/
def read (d : Draft) (f : Field) (v : Json) : Except DecodeError Draft :=
  let found :=
    if f.isMandatory then (v.text? f.expected).map some else v.optionalText? f.expected
  found.map (d.set f)

/-- The draft with the parts that the members of an object give, in their order. -/
def readMembers (d : Draft) : List (String × Json) → Except DecodeError Draft
  | [] => .ok d
  | (name, v) :: rest =>
    match Field.ofName? name with
    | none => d.readMembers rest
    | some f =>
      match d.read f v with
      | .error e => .error e
      | .ok d => d.readMembers rest

/-- The draft with the parts that the items of a list give, one for each field in turn; fields
without item stay as they are, and items without field are not looked at. -/
def readItems (d : Draft) : List Field → List Json → Except DecodeError Draft
  | f :: fields, v :: items =>
    match d.read f v with
    | .error e => .error e
    | .ok d => d.readItems fields items
  | _, _ => .ok d

/-- The kernel of a draft, or the given error if the library is missing. -/
def finish (d : Draft) (missing : DecodeError) : Except DecodeError RestoredKernel :=
  match d.library with
  | none => .error missing
  | some library =>
    .ok
      { deviceSource := d.deviceSource
        hostSource := d.hostSource
        library := ⟨library⟩
        pythonWrapper := d.pythonWrapper.map Path.mk
        launcherLibrary := d.launcherLibrary.map Path.mk
        launcherSource := d.launcherSource }

end Draft

/-- The kernel that an object stands for; its fields are looked at by increasing name. -/
def ofMembers? (members : List (String × Json)) : Except DecodeError RestoredKernel :=
  match Draft.blank.readMembers (Json.fields members).entries with
  | .error e => .error e
  | .ok d => d.finish (.missingField Field.library.name)

/-- The place of the library among the parts of a list. -/
def libraryPlace : Nat := Field.all.idxOf Field.library

/-- The kernel that a list of parts stands for. -/
def ofItems? (items : List Json) : Except DecodeError RestoredKernel :=
  match Draft.blank.readItems Field.all items with
  | .error e => .error e
  | .ok d =>
    match d.finish (.wrongLength libraryPlace "struct LoadedKernel with 6 elements") with
    | .error e => .error e
    | .ok k =>
      if Field.all.length < items.length then
        .error (.wrongLength items.length "fewer elements in array")
      else .ok k

/-- The kernel that a value stands for. -/
def ofJson? : Json → Except DecodeError RestoredKernel
  | .object members => ofMembers? members
  | .list items => ofItems? items
  | v => .error (.wrongType v.kind "struct LoadedKernel")

end RestoredKernel
end KernelArchive
