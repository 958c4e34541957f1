import KernelArchive.Json.Basic

/-!
# Values that do not fit

* `DecodeError`: why a value could not be read as something else, with the text shown for it.
-/

namespace KernelArchive
set_option autoImplicit false

/-- Why a value could not be read as something else. -/
inductive DecodeError
  /-- A value of this kind stands where another one is expected. -/
  | wrongType (found expected : String)
  /-- A value has the right type but not the right form. -/
  | wrongForm (found expected : String)
  /-- An object lacks a field. -/
  | missingField (name : String)
  /-- A list has too few or too many items. -/
  | wrongLength (length : Nat) (expected : String)
  /-- A name is none of those known. -/
  | unknownName (name : String) (known : List String)
deriving DecidableEq

namespace DecodeError

/-- The text shown for an error. -/
def message : DecodeError → String
  | wrongType found expected => "invalid type: " ++ found ++ ", expected " ++ expected
  | wrongForm found expected => "invalid value: " ++ found ++ ", expected " ++ expected
  | missingField name => "missing field " ++ Json.ticked name
  | wrongLength length expected =>
    "invalid length " ++ toString length ++ ", expected " ++ expected
  | unknownName name known =>
    "unknown variant " ++ Json.ticked name ++ ", expected "
      ++ String.intercalate " or " (known.map Json.ticked)

end DecodeError

namespace Json

/-- A text, or an error that says what was expected. -/
def text? (expected : String) : Json → Except DecodeError String
  | text s => .ok s
  | v => .error (.wrongType v.kind expected)

/-- A text that may be absent, as null is. -/
def optionalText? (expected : String) : Json → Except DecodeError (Option String)
  | null => .ok none
  | v => (v.text? expected).map some

end Json
end KernelArchive
