import KernelArchive.Ordered.Map
import KernelArchive.Text.Blank
import KernelArchive.Text.Lowercase
import KernelArchive.Text.Quoted
import KernelArchive.Text.Segments

/-!
# Backends kept out of discovery

* `Exclusions`: the lower-case names of backends that discovery leaves out.
* `Exclusions.ofList`: read from a comma-separated text, as the environment variable
  `Exclusions.variableName` holds it.
* `Exclusions.excludes`: is a name, spelled exactly so, left out?
-/

namespace KernelArchive
set_option autoImplicit false

/-- A set of names, listed in increasing order of their code points. -/
abbrev NameSet := OrderedMap String Unit

/-- The names of backends that discovery leaves out. -/
structure Exclusions where
  /-- Names in lower case. -/
  names : NameSet

namespace Exclusions

/-- The environment variable that holds a comma-separated list of names. -/
def variableName : String := "KERNEL_CACHE_DISABLED_BACKENDS"

/-- Leaves nothing out. -/
def none : Exclusions := ⟨.empty⟩

/-- Leaves out one more name, put in lower case. -/
def exclude (x : Exclusions) (name : String) : Exclusions :=
  ⟨x.names.insert (String.ofList (Text.lowercase name.toList)) ()⟩

/-- Leaves out several more names. -/
def excludeAll (x : Exclusions) (names : List String) : Exclusions := names.foldl exclude x

/-- Leaves out the items of a comma-separated list, in any case. An item stands between commas; white
space around it counts for nothing, nor does an item of which nothing is left. -/
def ofList (list : String) : Exclusions :=
  let names := (Text.cut ',' list.toList).map fun item => Text.lowercase (Text.trim item)
  ⟨.ofList ((names.filter (!·.isEmpty)).map fun name => (String.ofList name, ()))⟩

/-- What the environment variable asks for; unset, or not UTF-8, it asks for nothing. -/
def ofVariable : Option ByteArray → Exclusions
  | .none => none
  | some value =>
    match String.fromUTF8? value with
    | .none => none
    | some list => ofList list

/-- Is the name, spelled exactly so, left out? -/
def excludes (x : Exclusions) (name : String) : Bool := x.names.contains name

/-- The names left out, in increasing order. -/
def toList (x : Exclusions) : List String := x.names.keys

/-- Is nothing left out? -/
def isNone (x : Exclusions) : Bool := x.names.isEmpty

/-- The text shown for the exclusions when a catalogue is inspected. -/
def describe (x : Exclusions) : String :=
  "DiscoveryConfig \x7b disabled_backends: \x7b"
    ++ Text.commaSeparated (x.toList.map Text.quoted) ++ "\x7d \x7d"

end Exclusions
end KernelArchive
