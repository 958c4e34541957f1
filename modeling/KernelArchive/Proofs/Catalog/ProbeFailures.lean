import KernelArchive.Proofs.Catalog.Excluded
import KernelArchive.Proofs.Catalog.Lookups

/-!
# Failed probes

* `Candidate.offered_filter`: a candidate that cannot be used has nothing to offer.
* `Catalog.contains_probeAll_take`: which names are known after so many probes.
* `Catalog.discover_undiscovered`: what discovery returns and reports, candidate for candidate, and
  that its schemes are those of the candidates that can be used.
-/

namespace KernelArchive
set_option autoImplicit false

variable {ε : Type} {x : Exclusions} {candidates : List (Candidate ε)} {c : Candidate ε}
  {name : String}

namespace Candidate

theorem offered_append (a b : List (Candidate ε)) :
    offered x (a ++ b) name = (offered x a name).or (offered x b name) := List.findSome?_append

theorem offered_filter (candidates : List (Candidate ε)) :
    offered x (candidates.filter fun c => (c.probe x).isOk) name = offered x candidates name := by
  induction candidates with
  | nil => rfl
  | cons c rest ih =>
    cases hprobe : c.probe x with
    | error cause =>
      rw [List.filter_cons, hprobe, offered_cons, offered_error hprobe, Option.none_or, ← ih]
      rfl
    | ok scheme =>
      rw [List.filter_cons, hprobe, offered_cons, ← ih]
      exact offered_cons

end Candidate

namespace Catalog

variable {schemes : OrderedMap String (Scheme ε)}

theorem probeAll_filter (x : Exclusions) (schemes : OrderedMap String (Scheme ε))
    (candidates : List (Candidate ε)) :
    (probeAll x schemes (candidates.filter fun c => (c.probe x).isOk)).1 =
      (probeAll x schemes candidates).1 := by
  apply OrderedMap.ext_get?
  intro name
  rw [get?_probeAll, get?_probeAll, Candidate.offered_filter]

/-! ## One candidate after another -/

theorem contains_probeAll : (probeAll x schemes candidates).1.contains name =
    (schemes.contains name || (Candidate.offered x candidates name).isSome) := by
  rw [OrderedMap.contains, get?_probeAll, Option.isSome_or]
  rfl

theorem contains_probeAll_take {i : Nat} (h : candidates[i]? = some c) :
    (probeAll x schemes (candidates.take (i + 1))).1.contains c.name =
      ((probeAll x schemes (candidates.take i)).1.contains c.name || (c.probe x).isOk) := by
  have hown : (Candidate.offered x [c] c.name).isSome = (c.probe x).isOk := by
    cases hprobe : c.probe x with
    | error cause => rw [Candidate.offered_error hprobe]; rfl
    | ok scheme => rw [Candidate.offered_ok hprobe, if_pos rfl]; rfl
  rw [contains_probeAll, contains_probeAll, List.take_add_one, h, Option.toList,
    Candidate.offered_append, Option.isSome_or, hown, Bool.or_assoc]

/-- The failures of discovery are those of the candidates, in order. Each candidate is reported in
its turn: that it cannot be used, that its name is new, or else that the name is known. Candidates
that cannot be used make no difference to the schemes, wherever they stand. -/
theorem discover_undiscovered (schemes : OrderedMap String (Scheme ε)) (x : Exclusions)
    (candidates : List (Candidate ε)) :
    let new (tried : List (Candidate ε)) : Catalog ε := ⟨schemes, tried, x, false⟩
    let known (i : Nat) := (new (candidates.take i)).discover.catalog.schemes
    let adds (i : Nat) (c : Candidate ε) :=
      !(known i).contains c.name && (known (i + 1)).contains c.name
    let usable (c : Candidate ε) := (c.probe x).isOk
    let found (tried : List (Candidate ε)) := (new tried).discover.catalog.schemes
    (new candidates).discover.failures = candidates.filterMap (Candidate.failure? x) ∧
    (new candidates).discover.events.map (fun e => (e.level, e.message)) =
      candidates.mapIdx (fun i c => (LogLevel.debug, match c.probe x with
        | .error cause => "Skipping cache adapter '" ++ c.name ++ "': " ++ cause.message
        | .ok _ => if adds i c then "Registered cache adapter '" ++ c.name ++ "'"
          else "Cache adapter '" ++ c.name ++ "' already registered, keeping it")) ∧
    (∀ i c, candidates[i]? = some c → adds i c = true → usable c = true) ∧
    found (candidates.filter usable) = found candidates ∧
    ∀ others, others.filter usable = candidates.filter usable → found others = found candidates ∧
      ∀ name, ((new others).get name).answer = ((new candidates).get name).answer := by
  intro new known adds usable found
  have hadds : ∀ i c, candidates[i]? = some c →
      adds i c = (!(known i).contains c.name && usable c) := by
    intro i c hc
    have hnext : (known (i + 1)).contains c.name = ((known i).contains c.name || usable c) :=
      contains_probeAll_take hc
    show (!_ && (known (i + 1)).contains c.name) = _
    rw [hnext]
    cases (known i).contains c.name <;> rfl
  have hfound : ∀ others, others.filter usable = candidates.filter usable →
      found others = found candidates := by
    intro others hsame
    calc found others = found (others.filter usable) := (probeAll_filter x schemes others).symm
      _ = found (candidates.filter usable) := by rw [hsame]
      _ = found candidates := probeAll_filter x schemes candidates
  refine ⟨?_, ?_, fun i c hc hadded => ?_, probeAll_filter x schemes candidates,
    fun others hsame => ⟨hfound others hsame, fun name => ?_⟩⟩
  · rw [← failures_trials x schemes, ← probings_probeAll]
    rfl
  · show ((probeAll x schemes candidates).2.map Probing.event).map _ = _
    rw [probings_probeAll, Candidate.trials]
    apply List.ext_getElem?
    intro i
    rw [List.getElem?_map, List.getElem?_map, List.getElem?_mapIdx, List.getElem?_mapIdx]
    cases hc : candidates[i]? with
    | none => rfl
    | some c =>
      have hknown : (schemes.contains c.name ||
          (Candidate.offered x (candidates.take i) c.name).isSome) = (known i).contains c.name :=
        contains_probeAll.symm
      simp only [Option.map_some, hadds i c hc, hknown, usable]
      cases c.probe x with
      | error cause => rfl
      | ok scheme => cases (known i).contains c.name <;> rfl
  · rw [hadds i c hc] at hadded
    exact (Bool.and_eq_true_iff.1 hadded).2
  · have hschemes : (new others).discover.catalog.schemes =
        (new candidates).discover.catalog.schemes := hfound others hsame
    rw [get_eq, get_eq, hschemes]

/-- Two candidates of one name, of which the first cannot be used, and a name that is taken. -/
example :
    let c : Catalog Unit := ⟨OrderedMap.empty.insert "b" Backend.legacy.scheme,
      [⟨"a", fun _ => .error (.notCompiled "a")⟩, ⟨"b", fun _ => .error (.notCompiled "b")⟩,
        ⟨"a", Backend.torch.probe⟩, ⟨"b", Backend.torch.probe⟩], .none, false⟩
    (c.discover.failures, c.discover.events) = ([.notCompiled "a", .notCompiled "b"],
      [.schemeSkipped "a" (.notCompiled "a"), .schemeSkipped "b" (.notCompiled "b"),
        .schemeAdded "a", .schemeKept "b"]) := by
  decide +kernel

end Catalog
end KernelArchive
