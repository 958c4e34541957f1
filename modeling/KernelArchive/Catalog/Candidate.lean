import KernelArchive.Backend.Restore
import KernelArchive.Exclusions

/-!
# Candidates for discovery

* `Candidate`: a backend that discovery may add, with the probe that tells whether it can be used.
* `Candidate.ofFeatures`: the built-in backends as candidates in a program that was built with some
  of them. One that is excluded cannot be used, nor one that the program was built without.
* `Candidate.builtIn`: the same in a program that was built with all of them, as programs are unless
  they ask for less. Catalogues over the built-in backends are those of such a program.
* `Probing`: one probe and what came of it, with the event that tells of it.
-/

namespace KernelArchive
set_option autoImplicit false

/-- A backend that discovery may add, with the probe that tells whether it can be used. -/
structure Candidate (ε : Type) where
  name : String
  probe : Exclusions → Except ProbeFailure (Scheme ε)

variable {ε : Type}

namespace Backend

/-- Is the backend part of a program that was built with these? The one that keeps nothing always
is. -/
def isBuilt (features : List Backend) (b : Backend) : Bool := b == legacy || features.contains b

/-- The probe of a backend in a program that was built with these. An exclusion is looked at first,
so it is the cause also where the backend is missing. -/
def probeIn (features : List Backend) (b : Backend) (x : Exclusions) :
    Except ProbeFailure (Scheme ε) :=
  if x.excludes b.name then .error (.disabled b.name)
  else if b.isBuilt features then .ok b.scheme
  else .error (.notCompiled b.name)

/-- The probe of a backend in a program that was built with all of them. -/
def probe (b : Backend) (x : Exclusions) : Except ProbeFailure (Scheme ε) := b.probeIn all x

end Backend

namespace Candidate

/-- The backends as candidates in the order in which they are probed, which is the same whatever the
program was built with. -/
def ofFeatures (features : List Backend) : List (Candidate ε) :=
  Backend.all.map fun b => ⟨b.name, b.probeIn features⟩

/-- The built-in backends as candidates in a program that was built with all of them. -/
def builtIn : List (Candidate ε) := Backend.all.map fun b => ⟨b.name, b.probe⟩

end Candidate

/-- The text shown for a candidate. -/
def Candidate.describe (c : Candidate ε) : String :=
  "KnownBackend \x7b name: " ++ Text.quoted c.name ++ " \x7d"

/-! ## Probes -/

/-- What came of a probe. -/
inductive ProbeOutcome
  /-- The scheme was added. -/
  | added
  /-- The name has a scheme already, which stays. -/
  | kept
  /-- The backend cannot be used. -/
  | skipped (cause : ProbeFailure)
deriving DecidableEq

/-- One probe of a candidate. -/
structure Probing where
  name : String
  outcome : ProbeOutcome
deriving DecidableEq

namespace Probing

/-- The event that tells of a probe. -/
def event (p : Probing) : Event :=
  match p.outcome with
  | .added => .schemeAdded p.name
  | .kept => .schemeKept p.name
  | .skipped cause => .schemeSkipped p.name cause

/-- Why the backend was left out, if it was. -/
def failure? (p : Probing) : Option ProbeFailure :=
  match p.outcome with
  | .skipped cause => some cause
  | _ => none

end Probing

end KernelArchive
