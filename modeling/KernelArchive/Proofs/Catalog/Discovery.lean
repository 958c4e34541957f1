import Mathlib.Data.List.Induction
import KernelArchive.Proofs.Catalog.Calls

/-!
# When discovery runs, and what it adds

* `Catalog.undiscovered_after`: without discovery a catalogue holds what was registered.
* `Catalog.discovered_after`: with it, at one call of the run, the catalogue holds what was
  registered before that call, then what discovery has to offer, then what was registered since.
* `Catalog.run_of_calls`: this, and what each single call does.
-/

namespace KernelArchive
namespace Catalog
set_option autoImplicit false

variable {ε : Type} {candidates : List (Candidate ε)} {x : Exclusions} {calls : List (Call ε)}

theorem registered_append (calls later : List (Call ε)) (name : String) :
    registered (calls ++ later) name = (registered calls name).or (registered later name) :=
  List.findSome?_append

theorem registered_of_explores {schemes : OrderedMap String (Scheme ε)} {call : Call ε}
    (h : call.explores schemes = true) (name : String) : registered [call] name = none := by
  cases call with
  | register name scheme => cases h
  | _ => rfl

theorem sources_after (candidates : List (Candidate ε)) (x : Exclusions) (calls : List (Call ε)) :
    ((ofCandidates candidates x).after calls).candidates = candidates ∧
      ((ofCandidates candidates x).after calls).exclusions = x := by
  induction calls using List.reverseRecOn with
  | nil => exact ⟨rfl, rfl⟩
  | append_singleton calls call ih =>
    rw [after_append]
    have hstep := (callStep ((ofCandidates candidates x).after calls) call).sources
    exact ⟨hstep.1.trans ih.1, hstep.2.trans ih.2⟩

/-- One more call, told of the run. -/
theorem get?_after_concat (candidates : List (Candidate ε)) (x : Exclusions)
    (calls : List (Call ε)) (call : Call ε) (name : String) :
    let c := (ofCandidates candidates x).after calls
    ((ofCandidates candidates x).after (calls ++ [call])).schemes.get? name =
      (c.schemes.get? name).or ((if !c.discovered && call.explores c.schemes then
        Candidate.offered x candidates name else none).or (registered [call] name)) := by
  intro c
  obtain ⟨hcandidates, hx⟩ := sources_after candidates x calls
  have hstep := (callStep c call).get? name
  rw [show c.candidates = candidates from hcandidates, show c.exclusions = x from hx] at hstep
  rw [after_append]
  exact hstep

theorem undiscovered_after (h : ((ofCandidates candidates x).after calls).discovered = false) :
    (∀ name, ((ofCandidates candidates x).after calls).schemes.get? name =
      registered calls name) ∧ (ofCandidates candidates x).probings calls = [] := by
  induction calls using List.reverseRecOn with
  | nil => exact ⟨fun _ => rfl, rfl⟩
  | append_singleton calls call ih =>
    have hstep := callStep ((ofCandidates candidates x).after calls) call
    rw [after_append] at h
    obtain ⟨hnew, hcall⟩ := Bool.or_eq_false_iff.1 (hstep.discovered.symm.trans h)
    obtain ⟨hschemes, hran⟩ := ih hnew
    refine ⟨fun name => ?_, ?_⟩
    · rw [get?_after_concat, hcall, Bool.and_false, if_neg Bool.false_ne_true, Option.none_or,
        hschemes, registered_append]
    · rw [probings_concat, hran, hstep.probings, hcall, Bool.and_false]
      rfl

/-- A catalogue that has discovered did so at one call. -/
theorem discovered_after (h : ((ofCandidates candidates x).after calls).discovered = true) :
    ∃ early call late, calls = early ++ call :: late ∧
      let before := (ofCandidates candidates x).after early
      before.discovered = false ∧ call.explores before.schemes = true ∧
      (ofCandidates candidates x).probings calls =
        Candidate.trials x before.schemes.contains candidates ∧
      ∀ name, ((ofCandidates candidates x).after calls).schemes.get? name =
        (registered early name).or
          ((Candidate.offered x candidates name).or (registered late name)) := by
  induction calls using List.reverseRecOn with
  | nil => cases h
  | append_singleton calls call ih =>
    have hstep := callStep ((ofCandidates candidates x).after calls) call
    have hnow : ((ofCandidates candidates x).after calls).discovered = true ∨
        call.explores ((ofCandidates candidates x).after calls).schemes = true := by
      rw [after_append] at h
      exact Bool.or_eq_true_iff.1 (hstep.discovered.symm.trans h)
    obtain ⟨hcandidates, hx⟩ := sources_after candidates x calls
    cases hdone : ((ofCandidates candidates x).after calls).discovered with
    | false =>
      -- this call is the one
      have hcall := hnow.resolve_left (by rw [hdone]; exact Bool.false_ne_true)
      obtain ⟨hschemes, hran⟩ := undiscovered_after hdone
      refine ⟨calls, call, [], rfl, hdone, hcall, ?_, fun name => ?_⟩
      · rw [probings_concat, hran, hstep.probings, hdone, hcall, hcandidates, hx]
        rfl
      · rw [get?_after_concat, hdone, hcall, hschemes, registered_of_explores hcall]
        rfl
    | true =>
      obtain ⟨early, first, late, rfl, hnew, hcall, hran, hschemes⟩ := ih hdone
      refine ⟨early, first, late ++ [call], by simp, hnew, hcall, ?_, fun name => ?_⟩
      · rw [probings_concat, hran, hstep.probings, hdone]
        exact List.append_nil _
      · rw [get?_after_concat, hdone, hschemes, registered_append]
        simp only [Bool.not_true, Bool.false_and, Bool.false_eq_true, if_false, Option.none_or,
          Option.or_assoc]

/-- Discovery runs at the first call that needs it, with every candidate probed once and in order,
and never again. Names keep what they are bound to: what was registered for them before discovery,
then what discovery has to offer, then what was registered since. A name that is bound cannot be
registered, and the attempt changes nothing. -/
theorem run_of_calls (candidates : List (Candidate ε)) (x : Exclusions) (calls : List (Call ε)) :
    let start := ofCandidates candidates x
    let c := start.after calls
    (start.discovered = false ∧
      ∀ call, (c.reply call).catalog.discovered = (c.discovered || call.explores c.schemes)) ∧
    (∀ call, (c.reply call).probings = if !c.discovered && call.explores c.schemes then
      Candidate.trials x c.schemes.contains candidates else []) ∧
    (∀ call name scheme, c.schemes.get? name = some scheme →
      (c.reply call).catalog.schemes.get? name = some scheme) ∧
    (c.discovered = false → start.probings calls = [] ∧
      ∀ name, c.schemes.get? name = registered calls name) ∧
    (c.discovered = true → ∃ early call late, calls = early ++ call :: late ∧
      (start.after early).discovered = false ∧
      call.explores (start.after early).schemes = true ∧
      start.probings calls =
        Candidate.trials x (start.after early).schemes.contains candidates ∧
      ∀ name, c.schemes.get? name = (registered early name).or
        ((Candidate.offered x candidates name).or (registered late name))) ∧
    ∀ name scheme,
      ((c.register name scheme).answer = .error (.alreadyRegistered name) ↔
        c.schemes.contains name = true) ∧
      (c.schemes.contains name = true → (c.register name scheme).catalog = c) ∧
      (c.schemes.contains name = false → (c.register name scheme).answer = .ok ()) := by
  intro start c
  obtain ⟨hcandidates, hx⟩ := sources_after candidates x calls
  refine ⟨⟨rfl, fun call => (callStep c call).discovered⟩, ?_, ?_, ?_, discovered_after, ?_⟩
  · intro call
    have hran := (callStep c call).probings
    rwa [show c.candidates = candidates from hcandidates,
      show c.exclusions = x from hx] at hran
  · intro call name scheme hbound
    rw [(callStep c call).get? name, hbound]
    rfl
  · intro hnew
    obtain ⟨hschemes, hran⟩ := undiscovered_after hnew
    exact ⟨hran, hschemes⟩
  · intro name scheme
    cases hbound : c.schemes.contains name with
    | true =>
      rw [register_of_bound hbound]
      simp
    | false =>
      rw [register_of_free hbound]
      simp

/-- What is registered early stays, and a failed probe leaves room for the next of its name. -/
example :
    let candidates : List (Candidate Unit) :=
      [⟨"a", fun _ => .error (.notCompiled "a")⟩, ⟨"a", Backend.torch.probe⟩,
        ⟨"b", Backend.torch.probe⟩, ⟨"a", Backend.cython.probe⟩]
    let c := (ofCandidates candidates .none).after
      [.register "b" Backend.legacy.scheme, .ask (.has "a"), .ask (.get "c"), .discover]
    c.schemes.entries.map (fun p => (p.1, p.2.backend)) = [("a", "torch"), ("b", "legacy")] := by
  decide +kernel

end Catalog
end KernelArchive
