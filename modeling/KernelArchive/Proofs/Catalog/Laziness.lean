import KernelArchive.Proofs.Catalog.Calls

/-!
# Discovery may wait

* `Catalog.answers_gets`: whether discovery has run or not, the schemes had from a catalogue are the
  same, and so are the names given with a miss.
* `Catalog.lazy_eq_eager`: this, after any registrations; and for a catalogue in which nothing was
  registered, the same of all questions.
-/

namespace KernelArchive
namespace Catalog
set_option autoImplicit false

variable {ε : Type} {c : Catalog ε}

theorem discover_of_discovered (h : c.discovered = true) : c.discover = ⟨(), c, []⟩ := by
  rw [discover, if_pos h]

theorem discovered_discover (c : Catalog ε) : c.discover.catalog.discovered = true := by
  have hstep := (callStep c .discover).discovered
  rwa [Call.explores, Bool.or_true] at hstep

theorem get?_discover (c : Catalog ε) {name : String} {scheme : Scheme ε}
    (h : c.schemes.get? name = some scheme) :
    c.discover.catalog.schemes.get? name = some scheme := by
  refine ((callStep c .discover).get? name).trans ?_
  rw [h]
  rfl

theorem reply_ask_of_discovered (h : c.discovered = true) (question : Question) :
    c.reply (.ask question) = ⟨question.answer c.schemes, c, []⟩ := by
  have hidle : ∀ condition, c.discoverIf condition = ⟨(), c, []⟩ := by
    intro condition
    cases condition with
    | false => rfl
    | true => exact discover_of_discovered h
  simp only [reply_ask, hidle]

theorem reply_ask_of_misses {question : Question} (h : question.misses c.schemes = true) :
    c.reply (.ask question) = ⟨question.answer c.discover.catalog.schemes, c.discover.catalog,
      c.discover.probings⟩ := by
  rw [reply_ask, h]
  rfl

/-! ## Schemes by name -/

/-- A scheme that is there is the one that is there after discovery, and for one that is not there
discovery is run. -/
theorem reply_get (c : Catalog ε) (name : String) :
    (c.reply (.ask (.get name))).answer = (Question.get name).answer c.discover.catalog.schemes ∧
      (c.reply (.ask (.get name))).catalog.discover.catalog = c.discover.catalog := by
  cases hbound : c.schemes.get? name with
  | none =>
    have hmiss : (Question.get name).misses c.schemes = true := by
      simp [Question.misses, OrderedMap.contains, hbound]
    rw [reply_ask_of_misses hmiss]
    refine ⟨rfl, ?_⟩
    show c.discover.catalog.discover.catalog = c.discover.catalog
    rw [discover_of_discovered (discovered_discover c)]
  | some scheme =>
    have hfound : (Question.get name).misses c.schemes = false := by
      simp [Question.misses, OrderedMap.contains, hbound]
    rw [reply_ask, hfound]
    refine ⟨?_, rfl⟩
    show (Question.get name).answer c.schemes = _
    simp only [Question.answer, hbound, get?_discover c hbound]

theorem answers_gets (c : Catalog ε) (names : List String) :
    c.answers (names.map fun name => .ask (.get name)) =
      c.discover.catalog.answers (names.map fun name => .ask (.get name)) := by
  induction names generalizing c with
  | nil => rfl
  | cons name rest ih =>
    obtain ⟨hanswer, hcatalog⟩ := reply_get c name
    rw [List.map_cons, answers, answers, reply_ask_of_discovered (discovered_discover c), hanswer,
      ih, hcatalog]

/-! ## Nothing registered -/

theorem misses_empty (question : Question) :
    question.misses (.empty : OrderedMap String (Scheme ε)) = true := by
  cases question <;> rfl

/-- The first question to an empty catalogue leaves it as discovery does. -/
theorem reply_ask_empty (h : c.schemes = .empty) (question : Question) :
    (c.reply (.ask question)).answer = (c.discover.catalog.reply (.ask question)).answer ∧
      (c.reply (.ask question)).catalog = (c.discover.catalog.reply (.ask question)).catalog := by
  have hmiss : question.misses c.schemes = true := by rw [h, misses_empty]
  rw [reply_ask_of_misses hmiss, reply_ask_of_discovered (discovered_discover c)]
  exact ⟨rfl, rfl⟩

theorem answers_asks_empty (h : c.schemes = .empty) (questions : List Question) :
    c.answers (questions.map .ask) = c.discover.catalog.answers (questions.map .ask) := by
  cases questions with
  | nil => rfl
  | cons question rest =>
    obtain ⟨hanswer, hcatalog⟩ := reply_ask_empty h question
    rw [List.map_cons, answers, answers, hanswer, hcatalog]

/-- A catalogue that puts discovery off gives the same schemes as one that discovers at once,
whatever was registered; and if nothing was, it answers all questions alike and comes to be the
same with the first. -/
theorem lazy_eq_eager (candidates : List (Candidate ε)) (x : Exclusions)
    (registrations : List (String × Scheme ε)) (names : List String)
    (questions : List Question) :
    let empty := ofCandidates candidates x
    let filled := empty.after (registrations.map fun r => .register r.1 r.2)
    filled.answers (names.map fun name => .ask (.get name)) =
      (filled.after [.discover]).answers (names.map fun name => .ask (.get name)) ∧
    empty.answers (questions.map .ask) =
      (empty.after [.discover]).answers (questions.map .ask) ∧
    ∀ question, empty.after ((question :: questions).map .ask) =
      (empty.after [.discover]).after ((question :: questions).map .ask) := by
  intro empty filled
  refine ⟨answers_gets filled names, answers_asks_empty rfl questions, fun question => ?_⟩
  have hcatalog := (reply_ask_empty (c := empty) rfl question).2
  rw [List.map_cons, after_cons, hcatalog]
  rfl

/-- With something registered, a catalogue that has not discovered knows fewer names. -/
example :
    let c : Catalog Unit := standard.after [.register "a" Backend.torch.scheme]
    (c.list.answer, (c.after [.discover]).list.answer) =
      (["a"], ["a", "cutedsl", "cython", "legacy", "nvrtc", "torch", "tvm_ffi"]) := by
  decide +kernel

end Catalog
end KernelArchive
