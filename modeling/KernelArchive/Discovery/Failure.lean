/-!
# Reasons why a backend cannot be used

* `ProbeFailure`: why a probe gave no scheme, with the text shown for it.
-/

namespace KernelArchive
set_option autoImplicit false

/-- Why a backend cannot be used. -/
inductive ProbeFailure
  /-- The program was built without it. -/
  | notCompiled (backend : String)
  /-- The user excluded it. -/
  | disabled (backend : String)
  /-- Something that it needs is missing. -/
  | unavailable (backend reason : String)
deriving DecidableEq

/-- The text shown for a probe failure. -/
def ProbeFailure.message : ProbeFailure → String
  | notCompiled backend => "adapter for backend '" ++ backend ++ "' was not compiled in"
  | disabled backend => "backend '" ++ backend ++ "' is disabled by configuration"
  | unavailable backend reason => "backend '" ++ backend ++ "' is unavailable: " ++ reason

end KernelArchive
