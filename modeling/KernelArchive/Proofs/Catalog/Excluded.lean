import KernelArchive.Proofs.Catalog.Discovery
import KernelArchive.Proofs.Exclusions

/-!
# Backends left out of discovery

* `Catalog.failures_trials`: the failures of discovery are those of its candidates, in order.
* `Catalog.get?_after_of_not_offered`: a name that discovery does not offer has the scheme that was
  registered for it.
* `Catalog.discover_ofFeatures`: discovery over the built-in backends, whichever of them the program
  was built with and whichever are excluded.
* `Catalog.discover_excluded`: discovery over the built-in backends with a list of names to leave
  out.
* `Catalog.get?_discover_ofVariable`: what discovery adds to the catalogue that a program shares.
-/

namespace KernelArchive
set_option autoImplicit false

variable {ε : Type}

/-! ## Failures -/

/-- Why a candidate cannot be used, if it cannot. -/
def Candidate.failure? (x : Exclusions) (c : Candidate ε) : Option ProbeFailure :=
  match c.probe x with
  | .error cause => some cause
  | .ok _ => none

/-! ## Candidates with different names -/

namespace Candidate

variable {candidates : List (Candidate ε)} {c : Candidate ε} {x : Exclusions} {name : String}

theorem offered_of_not_mem (h : name ∉ candidates.map (·.name)) :
    offered x candidates name = none := by
  refine List.findSome?_eq_none_iff.2 fun c hc => if_neg ?_
  rintro rfl
  exact h (List.mem_map.2 ⟨c, hc, rfl⟩)

/-- Where no name repeats, each is offered by its own candidate. -/
theorem offered_of_mem (hnames : (candidates.map (·.name)).Nodup) (hmem : c ∈ candidates) :
    offered x candidates c.name = (c.probe x).toOption := by
  induction candidates with
  | nil => cases hmem
  | cons first rest ih =>
    obtain ⟨hfresh, hnames⟩ := List.nodup_cons.1 hnames
    rw [offered_cons]
    rcases List.mem_cons.1 hmem with rfl | hmem
    · rw [offered_of_not_mem hfresh, Option.or_none]
      simp [offered]
    · have hother : c.name ≠ first.name := fun hsame => hfresh (List.mem_map.2 ⟨c, hmem, hsame⟩)
      have hnone : offered x [first] c.name = none := offered_of_not_mem (by simpa using hother)
      rw [hnone, Option.none_or, ih hnames hmem]

end Candidate

namespace Catalog

variable {candidates : List (Candidate ε)} {x : Exclusions} {calls : List (Call ε)} {name : String}

theorem failures_trials (x : Exclusions) (schemes : OrderedMap String (Scheme ε))
    (candidates : List (Candidate ε)) :
    (Candidate.trials x schemes.contains candidates).filterMap Probing.failure? =
      candidates.filterMap (Candidate.failure? x) := by
  rw [← probings_probeAll]
  induction candidates generalizing schemes with
  | nil => rfl
  | cons c rest ih =>
    have hfirst : (probe x schemes c).2.failure? = c.failure? x := by
      rw [probing_probe, Probing.failure?, Candidate.failure?]
      cases c.probe x with
      | error cause => rfl
      | ok scheme => cases schemes.contains c.name <;> rfl
    show ((probe x schemes c).2 :: (probeAll x (probe x schemes c).1 rest).2).filterMap _ = _
    rw [List.filterMap_cons, List.filterMap_cons, hfirst, ih]

/-! ## Names that discovery does not offer -/

theorem get?_after_of_not_offered (h : Candidate.offered x candidates name = none) :
    ((ofCandidates candidates x).after calls).schemes.get? name = registered calls name := by
  cases hdone : ((ofCandidates candidates x).after calls).discovered with
  | false => exact (undiscovered_after hdone).1 name
  | true =>
    obtain ⟨early, call, late, rfl, -, hcall, -, hschemes⟩ := discovered_after hdone
    have hquiet : registered (call :: late) name = registered late name := by
      rw [← List.singleton_append, registered_append, registered_of_explores hcall, Option.none_or]
    rw [hschemes, h, registered_append, hquiet, Option.none_or]

theorem get_of_bound {c : Catalog ε} {scheme : Scheme ε} (h : c.schemes.get? name = some scheme) :
    (c.get name).answer = .ok scheme := by
  have hbound : c.schemes.contains name = true := by rw [OrderedMap.contains, h]; rfl
  simp only [get, discoverIf, hbound, Bool.not_true, Bool.false_eq_true, if_false, h]

/-- The call that makes discovery run adds what discovery offers for names that are free. -/
theorem get?_after_exploring {call : Call ε}
    (hnew : ((ofCandidates candidates x).after calls).discovered = false)
    (hcall : call.explores ((ofCandidates candidates x).after calls).schemes = true) (name : String) :
    (((ofCandidates candidates x).after calls).reply call).catalog.schemes.get? name =
      (registered calls name).or (Candidate.offered x candidates name) := by
  have hafter := get?_after_concat candidates x calls call name
  rw [after_append] at hafter
  refine hafter.trans ?_
  rw [hnew, hcall, (undiscovered_after hnew).1, registered_of_explores hcall, Option.or_none]
  rfl

theorem failures_exploring {call : Call ε}
    (hnew : ((ofCandidates candidates x).after calls).discovered = false)
    (hcall : call.explores ((ofCandidates candidates x).after calls).schemes = true) :
    (((ofCandidates candidates x).after calls).reply call).probings.filterMap Probing.failure? =
      candidates.filterMap (Candidate.failure? x) := by
  obtain ⟨hcandidates, hx⟩ := sources_after candidates x calls
  rw [(callStep _ call).probings, hnew, hcall, hcandidates, hx]
  exact failures_trials x _ candidates

theorem failures_discover (hnew : ((ofCandidates candidates x).after calls).discovered = false) :
    ((ofCandidates candidates x).after calls).discover.failures =
      candidates.filterMap (Candidate.failure? x) := by
  have hcall : (Call.discover : Call ε).explores ((ofCandidates candidates x).after calls).schemes =
      true := rfl
  exact failures_exploring hnew hcall

theorem get?_discover_ofCandidates (candidates : List (Candidate ε)) (x : Exclusions)
    (name : String) :
    (ofCandidates candidates x).discover.catalog.schemes.get? name =
      Candidate.offered x candidates name := by
  have hnew : ((ofCandidates candidates x).after []).discovered = false := rfl
  have hcall : (Call.discover : Call ε).explores ((ofCandidates candidates x).after []).schemes =
      true := rfl
  exact get?_after_exploring hnew hcall name

theorem register_not_offered (h : Candidate.offered x candidates name = none)
    (hfree : registered calls name = none) (scheme : Scheme ε) :
    (((ofCandidates candidates x).after calls).register name scheme).answer = .ok () ∧
      ∀ later, (((ofCandidates candidates x).after (calls ++ .register name scheme :: later)).get
        name).answer = .ok scheme := by
  refine ⟨?_, fun later => get_of_bound ?_⟩
  · have hunbound : ((ofCandidates candidates x).after calls).schemes.contains name = false := by
      rw [OrderedMap.contains_eq_false_iff, get?_after_of_not_offered h, hfree]
    rw [register_of_free hunbound]
  · rw [get?_after_of_not_offered h, registered_append, hfree]
    simp [registered]

/-! ## The built-in backends -/

theorem isBuilt_all (b : Backend) : b.isBuilt Backend.all = true := by cases b <;> rfl

theorem builtIn_eq : (Candidate.builtIn : List (Candidate ε)) = Candidate.ofFeatures Backend.all :=
  rfl

theorem offered_ofFeatures (features : List Backend) (x : Exclusions) (b : Backend) :
    Candidate.offered x (Candidate.ofFeatures features : List (Candidate ε)) b.name =
      if !x.excludes b.name && b.isBuilt features then some b.scheme else none := by
  have hnames : ((Candidate.ofFeatures features : List (Candidate ε)).map (·.name)).Nodup := by
    rw [Candidate.ofFeatures, List.map_map]
    exact Backend.all_names_nodup
  have hmem : (⟨b.name, b.probeIn features⟩ : Candidate ε) ∈ Candidate.ofFeatures features :=
    List.mem_map.2 ⟨b, b.mem_all, rfl⟩
  refine (Candidate.offered_of_mem hnames hmem).trans ?_
  show (b.probeIn features x).toOption = _
  unfold Backend.probeIn
  cases x.excludes b.name with
  | true => rfl
  | false => cases b.isBuilt features <;> rfl

theorem failures_ofFeatures (features : List Backend) (x : Exclusions) :
    (Candidate.ofFeatures features : List (Candidate ε)).filterMap (Candidate.failure? x) =
      Backend.all.filterMap fun b =>
        if x.excludes b.name then some (.disabled b.name)
        else if b.isBuilt features then none
        else some (.notCompiled b.name) := by
  rw [Candidate.ofFeatures, List.filterMap_map]
  refine congrArg (List.filterMap · Backend.all) (funext fun b => ?_)
  simp only [Function.comp_apply, Candidate.failure?, Backend.probeIn]
  cases x.excludes b.name with
  | true => rfl
  | false => cases b.isBuilt features <;> rfl

theorem offered_builtIn (x : Exclusions) (b : Backend) :
    Candidate.offered x (Candidate.builtIn : List (Candidate ε)) b.name =
      if x.excludes b.name then none else some b.scheme := by
  rw [builtIn_eq, offered_ofFeatures, isBuilt_all]
  cases x.excludes b.name <;> rfl

theorem failures_builtIn (x : Exclusions) :
    (Candidate.builtIn : List (Candidate ε)).filterMap (Candidate.failure? x) =
      (Backend.all.filter fun b => x.excludes b.name).map fun b => .disabled b.name := by
  rw [builtIn_eq, failures_ofFeatures, ← List.filterMap_eq_filter, List.map_filterMap]
  refine congrArg (List.filterMap · Backend.all) (funext fun b => ?_)
  rw [isBuilt_all, Option.guard]
  cases x.excludes b.name <;> rfl

/-- In a program that was built with some of the backends, discovery adds those of them that are not
excluded, and fails for the others, in order: an excluded one is reported as such, also where the
program was built without it. -/
theorem discover_ofFeatures (features : List Backend) (x : Exclusions) :
    let r := (ofCandidates (Candidate.ofFeatures features) x : Catalog ε).discover
    (∀ b : Backend, r.catalog.schemes.get? b.name =
      if !x.excludes b.name && b.isBuilt features then some b.scheme else none) ∧
    r.failures = Backend.all.filterMap fun b =>
      if x.excludes b.name then some (.disabled b.name)
      else if b.isBuilt features then none
      else some (.notCompiled b.name) := by
  intro r
  have hnew : ((ofCandidates (Candidate.ofFeatures features) x : Catalog ε).after []).discovered =
      false := rfl
  constructor
  · intro b
    exact (get?_discover_ofCandidates _ x b.name).trans (offered_ofFeatures features x b)
  · exact (failures_discover hnew).trans (failures_ofFeatures features x)

/-- With a comma-separated list of names to leave out, whichever call makes discovery run adds the
built-in backends that the list does not mention, those apart whose names are taken; it fails for
those that the list mentions, in their order, and for no other. A backend that the list mentions
can be registered before discovery and after it, and that scheme is had from then on. -/
theorem discover_excluded (list : String) :
    let start : Catalog ε := ofExclusions (Exclusions.ofList list)
    let excluded := Backend.all.filter fun b => Exclusions.mentions list b.name
    (∀ calls call, (start.after calls).discovered = false →
      call.explores (start.after calls).schemes = true →
      let r := (start.after calls).reply call
      (∀ b : Backend, r.catalog.schemes.get? b.name = (registered calls b.name).or
        (if b ∈ excluded then none else some b.scheme)) ∧
      r.probings.filterMap Probing.failure? = excluded.map fun b => .disabled b.name) ∧
    (∀ calls, (start.after calls).discovered = false →
      (start.after calls).discover.failures = excluded.map fun b => .disabled b.name) ∧
    ∀ calls, ∀ b ∈ excluded, ∀ scheme, registered calls b.name = none →
      ((start.after calls).register b.name scheme).answer = .ok () ∧
      ∀ later, ((start.after (calls ++ .register b.name scheme :: later)).get b.name).answer =
        .ok scheme := by
  intro start excluded
  have hoffered : ∀ b : Backend,
      Candidate.offered (Exclusions.ofList list) (Candidate.builtIn : List (Candidate ε)) b.name =
        if b ∈ excluded then none else some b.scheme := by
    intro b
    have hmember : b ∈ excluded ↔ Exclusions.mentions list b.name = true :=
      List.mem_filter.trans (and_iff_right b.mem_all)
    simp only [offered_builtIn, Exclusions.excludes_ofList_backend, hmember]
  have hfailures : (Candidate.builtIn : List (Candidate ε)).filterMap
      (Candidate.failure? (Exclusions.ofList list)) = excluded.map fun b => .disabled b.name := by
    simp only [failures_builtIn, Exclusions.excludes_ofList_backend]
    rfl
  refine ⟨fun calls call hnew hcall => ⟨fun b => ?_, ?_⟩, fun calls hnew => ?_, ?_⟩
  · exact (get?_after_exploring hnew hcall b.name).trans (congrArg _ (hoffered b))
  · exact (failures_exploring hnew hcall).trans hfailures
  · exact (failures_discover hnew).trans hfailures
  · intro calls b hb scheme hfree
    have hunoffered := (hoffered b).trans (if_pos hb)
    exact register_not_offered hunoffered hfree scheme

/-- Two backends left out, in capitals and with white space, and one of them registered after all. -/
theorem discover_excluded_spaced :
    let start : Catalog Unit := ofExclusions (Exclusions.ofList " Torch\u3000,CuteDSL, ,nvrtc.")
    start.discover.failures = [.disabled "cutedsl", .disabled "torch"] ∧
      start.discover.catalog.schemes.get? "nvrtc" = some Backend.nvrtc.scheme ∧
      ((start.after [.discover, .register "torch" Backend.legacy.scheme]).get "torch").answer =
        .ok Backend.legacy.scheme := by
  intro start
  obtain ⟨hexplored, hfailures, hregister⟩ :=
    discover_excluded (ε := Unit) " Torch\u3000,CuteDSL, ,nvrtc."
  have htorch : Backend.torch ∈ Backend.all.filter fun b =>
      Exclusions.mentions " Torch\u3000,CuteDSL, ,nvrtc." b.name := by decide +kernel
  have hnvrtc : Backend.nvrtc ∉ Backend.all.filter fun b =>
      Exclusions.mentions " Torch\u3000,CuteDSL, ,nvrtc." b.name := by decide +kernel
  refine ⟨(hfailures [] rfl).trans (by decide +kernel), ?_, ?_⟩
  · refine ((hexplored [] .discover rfl rfl).1 .nvrtc).trans ?_
    rw [if_neg hnvrtc]
    rfl
  · exact (hregister [.discover] .torch htorch Backend.legacy.scheme rfl).2 []

/-- The catalogue that a program shares comes to know the backends that the environment variable
does not mention. A variable that is unset, or not UTF-8, mentions none. -/
theorem get?_discover_ofVariable (value : Option ByteArray) (b : Backend) :
    (ofVariable value : Catalog ε).discover.catalog.schemes.get? b.name =
      if (value.bind String.fromUTF8?).any (Exclusions.mentions · b.name) then none
      else some b.scheme := by
  have hexcluded : (Exclusions.ofVariable value).excludes b.name =
      (value.bind String.fromUTF8?).any (Exclusions.mentions · b.name) := by
    cases value with
    | none => rfl
    | some bytes =>
      rw [Exclusions.ofVariable, Option.bind_some]
      cases String.fromUTF8? bytes with
      | none => rfl
      | some list => exact Exclusions.excludes_ofList_backend list b
  rw [← hexcluded, ← offered_builtIn]
  exact get?_discover_ofCandidates _ _ b.name

end Catalog
end KernelArchive
