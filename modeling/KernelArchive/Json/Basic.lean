import KernelArchive.Decimal.Shortest
import KernelArchive.Ordered.Map
import KernelArchive.Text.Quoted

/-!
# Data values

* `Json`: values of the JSON data model. A number is a whole number or a float.
* `Json.fields`: the members of an object by increasing key; of members with one key the last
  counts.
* `Json.kind`: what a value is, in the words of error messages.
-/

namespace KernelArchive
set_option autoImplicit false

/-- A value of the JSON data model. -/
inductive Json
  | null
  | bool (value : Bool)
  | whole (value : Int)
  | float (value : Float)
  | text (value : String)
  | list (items : List Json)
  | object (members : List (String × Json))
deriving Inhabited

namespace Json

/-- Members by increasing key, the last one of a key counting. -/
def fields (members : List (String × Json)) : OrderedMap String Json := OrderedMap.ofList members

/-- A text in the raw quotes of error messages. -/
def ticked (s : String) : String := "\x60" ++ s ++ "\x60"

/-- Numbers from a hundred-thousandth up to sixteen digits before the point have no exponent, and
exponents have a sign. -/
def floatLayout : Decimal.Layout := ⟨16, -4, "+"⟩

/-- What a value is, in the words of error messages. -/
def kind : Json → String
  | null => "null"
  | bool b => "boolean " ++ ticked (if b then "true" else "false")
  | whole n => "integer " ++ ticked (toString n)
  | float x => "floating point " ++ ticked (Decimal.write floatLayout x)
  | text s => "string " ++ Text.quoted s
  | list _ => "sequence"
  | object _ => "map"

end Json
end KernelArchive
