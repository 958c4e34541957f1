import KernelArchive.Catalog.Basic

/-!
# Calls of a catalogue

* `Catalog.Call`: everything that can be asked of a catalogue. `Catalog.reply` answers a call,
  `Catalog.after` is the catalogue after several calls, and `Catalog.answers` is what they were
  answered.
* `Candidate.offered`, `Candidate.trials`: the scheme that discovery has for a name, and the probes
  that it runs, told of the candidates alone.
* `Catalog.CallStep`: what a call can do, one case for each; with `CallStep.get?`, `discovered` and
  `probings`, what one call does, for all calls alike.
-/

namespace KernelArchive
set_option autoImplicit false

variable {ε : Type}

/-! ## Candidates -/

namespace Candidate

/-- The scheme of the first candidate of this name that can be used. -/
def offered (x : Exclusions) (candidates : List (Candidate ε)) (name : String) :
    Option (Scheme ε) :=
  candidates.findSome? fun c => if name = c.name then (c.probe x).toOption else none

/-- The probes of the candidates in order. A scheme is added if its name was not bound before and
no candidate before it was offered under the name. -/
def trials (x : Exclusions) (bound : String → Bool) (candidates : List (Candidate ε)) :
    List Probing :=
  candidates.mapIdx fun i c => ⟨c.name, match c.probe x with
    | .error cause => .skipped cause
    | .ok _ => if bound c.name || (offered x (candidates.take i) c.name).isSome then .kept else .added⟩

variable {x : Exclusions} {c : Candidate ε} {candidates : List (Candidate ε)} {name : String}

theorem offered_cons : offered x (c :: candidates) name =
    (offered x [c] name).or (offered x candidates name) := by
  unfold offered
  rw [← List.findSome?_append, List.singleton_append]

theorem offered_error {cause : ProbeFailure} (h : c.probe x = .error cause) :
    offered x [c] name = none := by
  simp [offered, h, Except.toOption]

theorem offered_ok {scheme : Scheme ε} (h : c.probe x = .ok scheme) :
    offered x [c] name = if name = c.name then some scheme else none := by
  simp [offered, h, Except.toOption]

end Candidate

namespace Catalog

/-! ## Discovery -/

section Probes

variable {x : Exclusions} {schemes : OrderedMap String (Scheme ε)} {c : Candidate ε}
  {candidates : List (Candidate ε)} {name : String}

theorem get?_probe : (probe x schemes c).1.get? name =
    (schemes.get? name).or (Candidate.offered x [c] name) := by
  unfold probe
  cases hprobe : c.probe x with
  | error cause => rw [Candidate.offered_error hprobe, Option.or_none]
  | ok scheme =>
    rw [Candidate.offered_ok hprobe]
    by_cases hname : name = c.name
    · subst hname
      cases hbound : schemes.get? c.name <;> simp [OrderedMap.contains, hbound]
    · rw [if_neg hname, Option.or_none]
      cases schemes.contains c.name with
      | true => rfl
      | false => exact (OrderedMap.get?_insert _ _ _ _).trans (if_neg hname)

theorem get?_probeAll : (probeAll x schemes candidates).1.get? name =
    (schemes.get? name).or (Candidate.offered x candidates name) := by
  induction candidates generalizing schemes with
  | nil => exact (Option.or_none).symm
  | cons c rest ih =>
    show (probeAll x (probe x schemes c).1 rest).1.get? name = _
    rw [ih, get?_probe, Option.or_assoc, ← Candidate.offered_cons]

theorem probing_probe : (probe x schemes c).2 = ⟨c.name, match c.probe x with
    | .error cause => .skipped cause
    | .ok _ => if schemes.contains c.name then .kept else .added⟩ := by
  unfold probe
  cases c.probe x with
  | error cause => rfl
  | ok scheme => cases schemes.contains c.name <;> rfl

theorem probings_probeAll :
    (probeAll x schemes candidates).2 = Candidate.trials x schemes.contains candidates := by
  induction candidates generalizing schemes with
  | nil => rfl
  | cons c rest ih =>
    have hbound : ∀ i name, ((probe x schemes c).1.contains name ||
        (Candidate.offered x (rest.take i) name).isSome) =
        (schemes.contains name || (Candidate.offered x ((c :: rest).take (i + 1)) name).isSome) := by
      intro i name
      rw [List.take_succ_cons, Candidate.offered_cons, OrderedMap.contains, get?_probe,
        OrderedMap.contains]
      simp only [Option.isSome_or, Bool.or_assoc]
    show (probe x schemes c).2 :: (probeAll x (probe x schemes c).1 rest).2 = _
    rw [ih, probing_probe]
    simp only [Candidate.trials, List.mapIdx_cons, hbound]
    simp [Candidate.offered]

end Probes

/-! ## Calls -/

/-- A question about a catalogue. -/
inductive Question
  | get (name : String)
  | has (name : String)
  | list

/-- What can be asked of a catalogue. -/
inductive Call (ε : Type)
  | register (name : String) (scheme : Scheme ε)
  | discover
  | ask (question : Question)

/-- What a call is answered. -/
inductive Answer (ε : Type)
  | registered (result : Except CatalogError Unit)
  | failures (causes : List ProbeFailure)
  | scheme (result : Except CatalogError (Scheme ε))
  | known (yes : Bool)
  | names (names : List String)

/-- The answer of a catalogue to a call. -/
def reply (c : Catalog ε) : Call ε → Reply ε (Answer ε)
  | .register name scheme => ⟨.registered (c.register name scheme).answer,
    (c.register name scheme).catalog, (c.register name scheme).probings⟩
  | .discover => ⟨.failures c.discover.failures, c.discover.catalog, c.discover.probings⟩
  | .ask (.get name) => ⟨.scheme (c.get name).answer, (c.get name).catalog, (c.get name).probings⟩
  | .ask (.has name) => ⟨.known (c.has name).answer, (c.has name).catalog, (c.has name).probings⟩
  | .ask .list => ⟨.names c.list.answer, c.list.catalog, c.list.probings⟩

/-- The catalogue after several calls. -/
def after (c : Catalog ε) (calls : List (Call ε)) : Catalog ε :=
  calls.foldl (fun c call => (c.reply call).catalog) c

/-- What several calls are answered. -/
def answers (c : Catalog ε) : List (Call ε) → List (Answer ε)
  | [] => []
  | call :: rest => (c.reply call).answer :: (c.reply call).catalog.answers rest

/-- The probes that several calls run. -/
def probings (c : Catalog ε) : List (Call ε) → List Probing
  | [] => []
  | call :: rest => (c.reply call).probings ++ (c.reply call).catalog.probings rest

/-- Does the question need more than these schemes? -/
def Question.misses (schemes : OrderedMap String (Scheme ε)) : Question → Bool
  | get name => !schemes.contains name
  | has _ => schemes.isEmpty
  | list => schemes.isEmpty

/-- What the question comes to with these schemes. -/
def Question.answer (schemes : OrderedMap String (Scheme ε)) : Question → Answer ε
  | get name => .scheme (match schemes.get? name with
    | some scheme => .ok scheme
    | none => .error (.notFound name schemes.keys))
  | has name => .known (schemes.contains name)
  | list => .names schemes.keys

/-- Does the call run discovery, if it has not run? -/
def Call.explores (schemes : OrderedMap String (Scheme ε)) : Call ε → Bool
  | register .. => false
  | discover => true
  | ask question => question.misses schemes

/-- The scheme of the first call that registers a name. -/
def registered (calls : List (Call ε)) (name : String) : Option (Scheme ε) :=
  calls.findSome? fun
    | .register name' scheme => if name' = name then some scheme else none
    | _ => none

variable {c : Catalog ε} {call : Call ε} {name : String}

theorem after_append (c : Catalog ε) (a b : List (Call ε)) :
    c.after (a ++ b) = (c.after a).after b := List.foldl_append

theorem after_cons (c : Catalog ε) (call : Call ε) (rest : List (Call ε)) :
    c.after (call :: rest) = (c.reply call).catalog.after rest := rfl

theorem probings_concat (c : Catalog ε) (calls : List (Call ε)) (call : Call ε) :
    c.probings (calls ++ [call]) = c.probings calls ++ ((c.after calls).reply call).probings := by
  induction calls generalizing c with
  | nil => exact List.append_nil _
  | cons first rest ih =>
    rw [List.cons_append, probings, ih, after_cons, probings, List.append_assoc]

/-- A question is answered from the schemes after discovery, if it needs them, and else from those
that are there. -/
theorem reply_ask (c : Catalog ε) (question : Question) :
    c.reply (.ask question) =
      let r := c.discoverIf (question.misses c.schemes)
      ⟨question.answer r.catalog.schemes, r.catalog, r.probings⟩ := by
  cases question with
  | get name =>
    simp only [reply, get, Question.misses, Question.answer]
    cases (c.discoverIf !c.schemes.contains name).catalog.schemes.get? name <;> rfl
  | has name => rfl
  | list => rfl

/-! ## What one call does -/

/-- What a call can do to a catalogue, and the probes that it can run. -/
inductive CallStep (c : Catalog ε) (call : Call ε) : Catalog ε → List Probing → Prop
  /-- Discovery is run. -/
  | explored (hnew : c.discovered = false) (hcall : call.explores c.schemes = true) :
      CallStep c call
        { c with schemes := (probeAll c.exclusions c.schemes c.candidates).1, discovered := true }
        (probeAll c.exclusions c.schemes c.candidates).2
  /-- A scheme is registered. -/
  | added {name : String} {scheme : Scheme ε} (hcall : call = .register name scheme)
      (hfree : c.schemes.get? name = none) :
      CallStep c call { c with schemes := c.schemes.insert name scheme } []
  /-- Nothing is done: the name is taken, or no discovery is needed or left to run. -/
  | idle (hdone : c.discovered = true ∨ call.explores c.schemes = false)
      (htaken : ∀ name scheme, call = .register name scheme → c.schemes.contains name = true) :
      CallStep c call c []

theorem callStep_discoverIf {condition : Bool} (hcall : call.explores c.schemes = condition)
    (hother : ∀ name scheme, call ≠ .register name scheme) :
    CallStep c call (c.discoverIf condition).catalog (c.discoverIf condition).probings := by
  have htaken : ∀ name scheme, call = .register name scheme → c.schemes.contains name = true :=
    fun name scheme h => absurd h (hother name scheme)
  unfold discoverIf discover
  cases condition with
  | false => exact .idle (.inr hcall) htaken
  | true =>
    cases hdone : c.discovered with
    | true => exact .idle (.inl hdone) htaken
    | false => exact .explored hdone hcall

theorem register_of_bound (h : c.schemes.contains name = true) (scheme : Scheme ε) :
    c.register name scheme = ⟨.error (.alreadyRegistered name), c, []⟩ := by
  rw [register, if_pos h]

theorem register_of_free (h : c.schemes.contains name = false) (scheme : Scheme ε) :
    c.register name scheme = ⟨.ok (), { c with schemes := c.schemes.insert name scheme }, []⟩ := by
  rw [register, if_neg (Bool.eq_false_iff.1 h)]

theorem callStep (c : Catalog ε) (call : Call ε) :
    CallStep c call (c.reply call).catalog (c.reply call).probings := by
  cases call with
  | register name scheme =>
    cases hbound : c.schemes.contains name with
    | true =>
      rw [reply, register_of_bound hbound]
      refine .idle (.inr rfl) fun name' scheme' h => ?_
      cases h
      exact hbound
    | false =>
      rw [reply, register_of_free hbound]
      exact .added rfl (OrderedMap.contains_eq_false_iff.1 hbound)
  | discover =>
    have hcall : CallStep c .discover (c.discoverIf true).catalog (c.discoverIf true).probings :=
      callStep_discoverIf rfl (by simp)
    exact hcall
  | ask question =>
    rw [reply_ask]
    exact callStep_discoverIf rfl (by simp)

variable {after : Catalog ε} {ran : List Probing}

/-- Bindings stay. What is new comes from discovery, or is what the call registers. -/
theorem CallStep.get? (h : CallStep c call after ran) (name : String) :
    after.schemes.get? name = (c.schemes.get? name).or
      ((if !c.discovered && call.explores c.schemes then
        Candidate.offered c.exclusions c.candidates name else none).or (registered [call] name)) := by
  cases h with
  | explored hnew hcall =>
    have hnone : registered [call] name = none := by
      cases call with
      | register name scheme => cases hcall
      | _ => rfl
    rw [hnew, hcall, hnone, Option.or_none]
    exact get?_probeAll
  | @added name' scheme hcall hfree =>
    subst hcall
    rw [Call.explores, Bool.and_false, if_neg Bool.false_ne_true, Option.none_or]
    refine (OrderedMap.get?_insert _ _ _ _).trans ?_
    by_cases hname : name = name'
    · subst hname
      simp [registered, hfree]
    · simp [registered, hname, Ne.symm hname]
  | idle hdone htaken =>
    have hquiet : (!c.discovered && call.explores c.schemes) = false := by
      rcases hdone with h | h <;> simp [h]
    rw [hquiet, if_neg Bool.false_ne_true, Option.none_or]
    cases call with
    | register name' scheme =>
      by_cases hname : name' = name
      · subst hname
        obtain ⟨bound, hbound⟩ := Option.isSome_iff_exists.1 (htaken name' scheme rfl)
        simp [hbound]
      · simp [registered, hname]
    | _ => exact (Option.or_none).symm

theorem CallStep.discovered (h : CallStep c call after ran) :
    after.discovered = (c.discovered || call.explores c.schemes) := by
  cases h with
  | explored hnew hcall => rw [hcall, Bool.or_true]
  | added hcall hfree => rw [hcall, Call.explores, Bool.or_false]
  | idle hdone htaken => rcases hdone with h | h <;> simp [h]

/-- Probes are run where discovery is, and only there. -/
theorem CallStep.probings (h : CallStep c call after ran) :
    ran = if !c.discovered && call.explores c.schemes then
      Candidate.trials c.exclusions c.schemes.contains c.candidates else [] := by
  cases h with
  | explored hnew hcall =>
    rw [hnew, hcall]
    exact probings_probeAll
  | added hcall hfree =>
    rw [hcall, Call.explores, Bool.and_false]
    rfl
  | idle hdone htaken => rcases hdone with h | h <;> simp [h]

theorem CallStep.sources (h : CallStep c call after ran) :
    after.candidates = c.candidates ∧ after.exclusions = c.exclusions := by
  cases h <;> exact ⟨rfl, rfl⟩

end Catalog
end KernelArchive
