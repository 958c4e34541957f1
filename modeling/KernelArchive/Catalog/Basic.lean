import KernelArchive.Catalog.Candidate

/-!
# The catalogue of schemes

* `Catalog`: the schemes known by name, and the candidates that discovery may add to them.
* `Catalog.ofVariable`: the catalogue that a whole program shares, at its first use. Each use hands
  on the catalogue after it; that no two uses come at the same time is the program's own care.
* `Catalog.register`: adds a scheme under a name that is free.
* `Catalog.discover`: probes every candidate, once in the life of a catalogue. A name that is taken
  stays as it is, and a failed probe leaves out only its own candidate.
* `Catalog.get`, `Catalog.has`, `Catalog.list`: questions. Asking for an unknown name, or asking an
  empty catalogue for its names, runs discovery first.
* `Reply`: what each operation returns: its answer, the catalogue after it, and the probes that it
  ran, in order.
-/

namespace KernelArchive
set_option autoImplicit false

/-- Why a question about a catalogue has no answer. -/
inductive CatalogError
  /-- The name has a scheme already. -/
  | alreadyRegistered (name : String)
  /-- The name has no scheme, even after discovery. -/
  | notFound (name : String) (available : List String)
deriving DecidableEq

/-- The text shown for an error. -/
def CatalogError.message : CatalogError → String
  | alreadyRegistered name => "Cache adapter already registered for backend: " ++ name
  | notFound name available =>
    "No cache adapter registered for backend: " ++ name ++ ". Available backends: "
      ++ Text.listed available

/-- The schemes known by name, and what discovery may add to them. -/
structure Catalog (ε : Type) where
  /-- The schemes by the name under which they were added. -/
  schemes : OrderedMap String (Scheme ε)
  /-- The backends that discovery probes, in this order. -/
  candidates : List (Candidate ε)
  exclusions : Exclusions
  /-- Has discovery run? -/
  discovered : Bool

/-- The answer of a catalogue, the catalogue after it, and the probes that were run for it. -/
structure Reply (ε α : Type) where
  answer : α
  catalog : Catalog ε
  probings : List Probing

variable {ε : Type}

namespace Catalog

/-! ## Making a catalogue -/

/-- A catalogue without schemes that may discover these candidates. -/
def ofCandidates (candidates : List (Candidate ε)) (exclusions : Exclusions) : Catalog ε :=
  ⟨.empty, candidates, exclusions, false⟩

/-- A catalogue without schemes over the built-in backends. -/
def ofExclusions (exclusions : Exclusions) : Catalog ε := ofCandidates Candidate.builtIn exclusions

/-- A catalogue without schemes over the built-in backends, with nothing excluded. -/
def standard : Catalog ε := ofExclusions .none

/-- The catalogue that a whole program shares: without schemes, over the built-in backends, with the
value of the environment variable to tell which are excluded. -/
def ofVariable (value : Option ByteArray) : Catalog ε := ofExclusions (Exclusions.ofVariable value)

/-! ## Discovery -/

/-- The schemes after one probe, and what came of it. -/
def probe (x : Exclusions) (schemes : OrderedMap String (Scheme ε)) (c : Candidate ε) :
    OrderedMap String (Scheme ε) × Probing :=
  match c.probe x with
  | .error cause => (schemes, ⟨c.name, .skipped cause⟩)
  | .ok scheme =>
    if schemes.contains c.name then (schemes, ⟨c.name, .kept⟩)
    else (schemes.insert c.name scheme, ⟨c.name, .added⟩)

/-- The schemes after the probes of several candidates, and what came of each. -/
def probeAll (x : Exclusions) (schemes : OrderedMap String (Scheme ε)) :
    List (Candidate ε) → OrderedMap String (Scheme ε) × List Probing
  | [] => (schemes, [])
  | c :: rest =>
    let (after, probing) := probe x schemes c
    let (final, probings) := probeAll x after rest
    (final, probing :: probings)

/-- Runs discovery, unless it has run. -/
def discover (c : Catalog ε) : Reply ε Unit :=
  if c.discovered then ⟨(), c, []⟩
  else
    let (schemes, probings) := probeAll c.exclusions c.schemes c.candidates
    ⟨(), { c with schemes := schemes, discovered := true }, probings⟩

/-- Runs discovery if a condition holds. -/
def discoverIf (c : Catalog ε) (condition : Bool) : Reply ε Unit :=
  if condition then c.discover else ⟨(), c, []⟩

/-! ## Operations -/

/-- Adds a scheme under a name that is free. -/
def register (c : Catalog ε) (name : String) (scheme : Scheme ε) :
    Reply ε (Except CatalogError Unit) :=
  if c.schemes.contains name then ⟨.error (.alreadyRegistered name), c, []⟩
  else ⟨.ok (), { c with schemes := c.schemes.insert name scheme }, []⟩

/-- The scheme of a name; an unknown name runs discovery first. -/
def get (c : Catalog ε) (name : String) : Reply ε (Except CatalogError (Scheme ε)) :=
  let r := c.discoverIf (!c.schemes.contains name)
  match r.catalog.schemes.get? name with
  | some scheme => ⟨.ok scheme, r.catalog, r.probings⟩
  | none => ⟨.error (.notFound name r.catalog.schemes.keys), r.catalog, r.probings⟩

/-- Has the name a scheme? An empty catalogue runs discovery first. -/
def has (c : Catalog ε) (name : String) : Reply ε Bool :=
  let r := c.discoverIf c.schemes.isEmpty
  ⟨r.catalog.schemes.contains name, r.catalog, r.probings⟩

/-- The names that have a scheme, in increasing order. An empty catalogue runs discovery first. -/
def list (c : Catalog ε) : Reply ε (List String) :=
  let r := c.discoverIf c.schemes.isEmpty
  ⟨r.catalog.schemes.keys, r.catalog, r.probings⟩

/-- The text shown for a catalogue. -/
def describe (c : Catalog ε) : String :=
  "AdapterRegistry \x7b adapters: " ++ Text.listed (c.schemes.keys.map Text.quoted)
    ++ ", known_backends: " ++ Text.listed (c.candidates.map Candidate.describe)
    ++ ", config: " ++ c.exclusions.describe
    ++ ", discovered: " ++ (if c.discovered then "true" else "false") ++ " \x7d"

end Catalog

/-- The failures among the probes of a reply, in order. -/
def Reply.failures {α : Type} (r : Reply ε α) : List ProbeFailure :=
  r.probings.filterMap Probing.failure?

/-- The events of a reply, in order. -/
def Reply.events {α : Type} (r : Reply ε α) : List Event := r.probings.map Probing.event

end KernelArchive
