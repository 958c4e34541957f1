import KernelArchive.Proofs.Catalog.Discovery
import KernelArchive.Proofs.Catalog.Laziness
import KernelArchive.Proofs.Text.ByteOrder

/-!
# Questions agree with each other

* `Catalog.get_ok_iff`, `Catalog.has_eq`, `Catalog.list_eq`: which schemes each question is answered
  from. `get` knows what discovery would add, even where `has` and `list` do not look for it.
* `Catalog.unbound_after`: after discovery a name without a scheme has none until it is registered.
* `Catalog.lookups_agree`: where the answers agree, where they may differ, and that a miss lasts.
-/

namespace KernelArchive
set_option autoImplicit false

variable {ε : Type}

theorem Candidate.offered_isSome_iff {x : Exclusions} {candidates : List (Candidate ε)}
    {name : String} : (offered x candidates name).isSome = true ↔
      ∃ candidate ∈ candidates, candidate.name = name ∧
        ∃ scheme, candidate.probe x = .ok scheme := by
  rw [offered, List.isSome_findSome?, List.any_eq_true]
  refine exists_congr fun candidate => and_congr_right fun _ => ?_
  by_cases hname : name = candidate.name
  · subst hname
    cases candidate.probe x <;> simp [Except.toOption]
  · simp [hname, Ne.symm hname]

namespace Catalog

variable {c : Catalog ε} {name : String}

/-! ## Which schemes answer -/

theorem get_eq (c : Catalog ε) (name : String) : (c.get name).answer =
    match c.discover.catalog.schemes.get? name with
    | some scheme => .ok scheme
    | none => .error (.notFound name c.discover.catalog.schemes.keys) :=
  Answer.scheme.inj (reply_get c name).1

theorem get_ok_iff : (∃ scheme, (c.get name).answer = .ok scheme) ↔
    c.discover.catalog.schemes.contains name = true := by
  rw [get_eq, OrderedMap.contains]
  cases c.discover.catalog.schemes.get? name <;> simp

theorem get_error_iff {e : CatalogError} : (c.get name).answer = .error e ↔
    c.discover.catalog.schemes.get? name = none ∧
      .notFound name c.discover.catalog.schemes.keys = e := by
  rw [get_eq]
  cases c.discover.catalog.schemes.get? name <;> simp

/-- The schemes of which `has` and `list` tell. -/
def seen (c : Catalog ε) : OrderedMap String (Scheme ε) :=
  if c.schemes.isEmpty then c.discover.catalog.schemes else c.schemes

theorem schemes_discoverIf (c : Catalog ε) :
    (c.discoverIf c.schemes.isEmpty).catalog.schemes = c.seen := by
  unfold discoverIf seen
  split <;> rfl

theorem has_eq (c : Catalog ε) (name : String) : (c.has name).answer = c.seen.contains name :=
  congrArg (OrderedMap.contains · name) (schemes_discoverIf c)

theorem list_eq (c : Catalog ε) : c.list.answer = c.seen.keys :=
  congrArg OrderedMap.keys (schemes_discoverIf c)

theorem seen_of_settled (h : c.schemes.isEmpty = true ∨ c.discovered = true) :
    c.seen = c.discover.catalog.schemes := by
  unfold seen
  split
  · rfl
  · next hne => rw [discover_of_discovered (h.resolve_left hne)]

theorem contains_discover_of_seen (h : c.seen.contains name = true) :
    c.discover.catalog.schemes.contains name = true := by
  unfold seen at h
  split at h
  · exact h
  · obtain ⟨scheme, hbound⟩ := Option.isSome_iff_exists.1 h
    rw [OrderedMap.contains, get?_discover c hbound]
    rfl

theorem contains_discover_of_unseen (hne : c.schemes.isEmpty = false)
    (hnew : c.discovered = false) (hunseen : c.seen.contains name = false) :
    c.discover.catalog.schemes.contains name =
      (Candidate.offered c.exclusions c.candidates name).isSome := by
  rw [seen, if_neg (by simp [hne]), OrderedMap.contains_eq_false_iff] at hunseen
  have hstep := (callStep c .discover).get? name
  rw [hunseen, hnew] at hstep
  rw [OrderedMap.contains]
  exact congrArg Option.isSome (hstep.trans (by simp [Call.explores, registered]))

/-! ## Names without a scheme -/

/-- One of the calls registers the name, and with success. -/
def Registers (c : Catalog ε) (calls : List (Call ε)) (name : String) : Prop :=
  ∃ early scheme late, calls = early ++ .register name scheme :: late ∧
    ((c.after early).register name scheme).answer = .ok ()

theorem Registers.cons {call : Call ε} {calls : List (Call ε)}
    (h : (c.reply call).catalog.Registers calls name) : c.Registers (call :: calls) name := by
  obtain ⟨early, scheme, late, rfl, hok⟩ := h
  exact ⟨call :: early, scheme, late, rfl, hok⟩

theorem registers_of_registered {call : Call ε} {calls : List (Call ε)}
    (hfree : c.schemes.get? name = none) (h : registered [call] name ≠ none) :
    c.Registers (call :: calls) name := by
  cases call with
  | register name' scheme =>
    have hname : name' = name := by
      by_contra hname
      exact h (by simp [registered, hname])
    subst hname
    have hunbound := OrderedMap.contains_eq_false_iff.2 hfree
    exact ⟨[], scheme, calls, rfl, congrArg Reply.answer (register_of_free hunbound scheme)⟩
  | _ => exact absurd rfl h

theorem unbound_after {calls : List (Call ε)} (hdone : c.discovered = true)
    (hfree : c.schemes.get? name = none) (h : ¬c.Registers calls name) :
    (c.after calls).discovered = true ∧ (c.after calls).schemes.get? name = none := by
  induction calls generalizing c with
  | nil => exact ⟨hdone, hfree⟩
  | cons call rest ih =>
    have hstep := callStep c call
    have hquiet : registered [call] name = none :=
      not_not.1 fun hreg => h (registers_of_registered hfree hreg)
    apply ih
    · rw [hstep.discovered, hdone]
      rfl
    · rw [hstep.get? name, hfree, hdone, hquiet]
      rfl
    · exact fun hrest => h hrest.cons

theorem misses_of_unbound (hdone : c.discovered = true) (hfree : c.schemes.get? name = none) :
    (c.get name).answer = .error (.notFound name c.schemes.keys) ∧ (c.has name).answer = false := by
  have hdiscover : c.discover.catalog = c := by rw [discover_of_discovered hdone]
  constructor
  · rw [get_error_iff, hdiscover]
    exact ⟨hfree, rfl⟩
  · rw [has_eq, seen_of_settled (.inr hdone), hdiscover, OrderedMap.contains_eq_false_iff, hfree]

theorem catalog_get_of_error {e : CatalogError} (h : (c.get name).answer = .error e) :
    (c.get name).catalog = c.discover.catalog := by
  have hfree : c.schemes.get? name = none := by
    cases hbound : c.schemes.get? name with
    | none => rfl
    | some scheme =>
      rw [get_error_iff, get?_discover c hbound] at h
      cases h.1
  have hmiss : (Question.get name).misses c.schemes = true := by
    rw [Question.misses, OrderedMap.contains_eq_false_iff.2 hfree]
    rfl
  exact congrArg Reply.catalog (reply_ask_of_misses hmiss)

theorem bytes_increasing (m : OrderedMap String (Scheme ε)) :
    m.keys.Pairwise fun a b => Text.bytes a < Text.bytes b :=
  m.keys_increasing.imp fun h => Text.lt_iff_bytes_lt.1 (KeyOrder.before_string_iff.1 h)

/-- After any calls, what `has` knows `get` finds. On an empty catalogue, and after discovery, the
two and `list` agree; otherwise `get` finds what `has` does not know where a candidate of that name
can be used, and only there. `list` gives each name once, in the order of the bytes. A miss tells of
the names that there are after discovery, and lasts until the name is registered. -/
theorem lookups_agree (candidates : List (Candidate ε)) (x : Exclusions) (calls : List (Call ε))
    (name : String) :
    let c := (ofCandidates candidates x).after calls
    ((c.has name).answer = true → ∃ scheme, (c.get name).answer = .ok scheme) ∧
    (c.schemes.isEmpty = true ∨ c.discovered = true →
      ((c.has name).answer = true ↔ ∃ scheme, (c.get name).answer = .ok scheme) ∧
      ((c.has name).answer = true ↔ name ∈ c.list.answer)) ∧
    (c.schemes.isEmpty = false → c.discovered = false → (c.has name).answer = false →
      ((∃ scheme, (c.get name).answer = .ok scheme) ↔ ∃ candidate ∈ candidates,
        candidate.name = name ∧ ∃ scheme, candidate.probe x = .ok scheme)) ∧
    (c.list.answer.Pairwise (fun a b => Text.bytes a < Text.bytes b) ∧
      c.list.answer.length = c.list.catalog.schemes.size) ∧
    ∀ e, (c.get name).answer = .error e →
      let missed := (c.get name).catalog
      missed.discovered = true ∧ e = .notFound name missed.list.answer ∧
      ∀ later, ¬missed.Registers later name →
        (∃ available, ((missed.after later).get name).answer =
          .error (.notFound name available)) ∧
        ((missed.after later).has name).answer = false := by
  intro c
  obtain ⟨hcandidates, hx⟩ := sources_after candidates x calls
  refine ⟨fun hhas => ?_, fun hsettled => ⟨?_, ?_⟩, fun hne hnew hhas => ?_, ⟨?_, ?_⟩,
    fun e hmiss => ?_⟩
  · rw [get_ok_iff]
    rw [has_eq] at hhas
    exact contains_discover_of_seen hhas
  · rw [get_ok_iff, has_eq, seen_of_settled hsettled]
  · rw [has_eq, list_eq]
    exact OrderedMap.contains_iff _ _
  · rw [has_eq] at hhas
    rw [get_ok_iff, contains_discover_of_unseen hne hnew hhas, Candidate.offered_isSome_iff,
      show c.candidates = candidates from hcandidates, show c.exclusions = x from hx]
  · rw [list_eq]
    exact bytes_increasing _
  · exact List.length_map _
  · intro missed
    have hcatalog : missed = c.discover.catalog := catalog_get_of_error hmiss
    have hdone : missed.discovered = true := by rw [hcatalog, discovered_discover]
    obtain ⟨hfree, rfl⟩ := get_error_iff.1 hmiss
    rw [← hcatalog] at hfree
    refine ⟨hdone, ?_, fun later hlater => ?_⟩
    · rw [list_eq, seen_of_settled (.inr hdone), discover_of_discovered hdone, hcatalog]
    · obtain ⟨hlaterDone, hlaterFree⟩ := unbound_after hdone hfree hlater
      obtain ⟨hget, hhas⟩ := misses_of_unbound hlaterDone hlaterFree
      exact ⟨⟨_, hget⟩, hhas⟩

/-- A built-in backend that nothing has asked discovery for. -/
example :
    let c : Catalog Unit := standard.after [.register "a" Backend.torch.scheme]
    (c.has "torch").answer = false ∧ (c.get "torch").answer.isOk = true := by
  decide +kernel

end Catalog
end KernelArchive
