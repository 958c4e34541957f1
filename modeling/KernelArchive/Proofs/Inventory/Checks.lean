import KernelArchive.Proofs.Inventory.Saving

/-!
# What is checked before anything is written

* `SaveError.Early`: the errors that the checks give. They are the faults of the inventory and
  nothing else (`save_early_iff`).
* `Inventory.Unsavable`: the entries that fail the checks, with `Inventory.refusal` for the error.
* `Inventory.fault?_eq_some_iff`: the fault of an inventory is that of its smallest such key.
* `Inventory.save_refuses`: the checks miss no entry, and where one fails nothing has been done.
-/

namespace KernelArchive
set_option autoImplicit false

variable {ε : Type}

/-- The error comes from the checks, before anything is written. -/
def SaveError.Early : SaveError → Prop
  | unsafeKey .. => True
  | missingExporter _ => True
  | exportFailed .. => False
  | writeFailed .. => False

namespace Inventory

variable {dir : Path} {exporter : Option (Exporter ε)} {key : String} {entry : Entry ε}
  {inventory : Inventory ε} {e : SaveError} {fs : FileSystem} {p p' : Progress ε}

/-! ## One entry -/

/-- The key is no safe path, or the entry is an executable and there is no exporter. -/
def Unsavable (exporter : Option (Exporter ε)) (key : String) (entry : Entry ε) : Prop :=
  PathFault.of? key ≠ none ∨ (entry.isExecutable = true ∧ exporter = none)

/-- The error for an entry that must not be saved: an unsafe key comes first. -/
def refusal (key : String) : SaveError :=
  match PathFault.of? key with
  | some fault => .unsafeKey key fault
  | none => .missingExporter key

theorem early_refusal (key : String) : (refusal key).Early := by
  unfold refusal
  split <;> trivial

theorem entryFault?_eq_some_iff :
    entryFault? exporter.isSome key entry = some e ↔
      Unsavable exporter key entry ∧ e = refusal key := by
  unfold entryFault? Unsavable refusal
  cases PathFault.of? key with
  | some fault => simp [eq_comm (a := e)]
  | none =>
    cases exporter with
    | some x => simp
    | none => cases entry.isExecutable <;> simp [eq_comm (a := e)]

theorem entryFault?_eq_none_of_savable (h : ¬Unsavable exporter key entry) :
    entryFault? exporter.isSome key entry = none := by
  rw [Option.eq_none_iff_forall_not_mem]
  intro e he
  exact h (entryFault?_eq_some_iff.1 he).1

/-! ## The smallest key -/

/-- The key fails the checks, and no smaller one does. -/
structure Smallest (exporter : Option (Exporter ε)) (inventory : Inventory ε) (key : String) :
    Prop where
  unsavable : ∃ entry, inventory.get? key = some entry ∧ Unsavable exporter key entry
  least : ∀ other entry, inventory.get? other = some entry → Unsavable exporter other entry →
    key ≤ other

theorem fault?_eq_some_iff :
    inventory.fault? exporter.isSome = some e ↔
      ∃ key, Smallest exporter inventory key ∧ e = refusal key := by
  unfold fault?
  rw [List.findSome?_eq_some_iff]
  constructor
  · rintro ⟨done, ⟨key, entry⟩, rest, hsplit, hfault, hdone⟩
    obtain ⟨hbad, rfl⟩ := entryFault?_eq_some_iff.1 hfault
    have hget : inventory.get? key = some entry := by
      rw [← OrderedMap.mem_entries_iff, hsplit]
      simp
    refine ⟨key, ⟨⟨entry, hget, hbad⟩, fun other entry' hother hbad' => ?_⟩, rfl⟩
    -- a smaller key stands among the entries that were found to be fine
    by_contra hsmaller
    have hbefore : KeyOrder.before other key = true :=
      KeyOrder.before_string_iff.2 (String.not_le.1 hsmaller)
    have hmem := (OrderedMap.mem_entries_iff inventory other entry').2 hother
    rw [hsplit, List.mem_append, List.mem_cons] at hmem
    rcases hmem with hmem | hmem | hmem
    · have hfine : entryFault? exporter.isSome other entry' = none := hdone _ hmem
      rw [entryFault?_eq_some_iff.2 ⟨hbad', rfl⟩] at hfine
      cases hfine
    · cases hmem
      rw [KeyOrder.before_irrefl] at hbefore
      cases hbefore
    · have hafter := (OrderedMap.before_of_entries hsplit).2 _ hmem
      rw [KeyOrder.not_before_of_before hafter] at hbefore
      cases hbefore
  · rintro ⟨key, ⟨⟨entry, hget, hbad⟩, hleast⟩, rfl⟩
    have hmem := (OrderedMap.mem_entries_iff inventory key entry).2 hget
    obtain ⟨done, rest, hsplit⟩ := List.append_of_mem hmem
    refine ⟨done, (key, entry), rest, hsplit, entryFault?_eq_some_iff.2 ⟨hbad, rfl⟩, ?_⟩
    rintro ⟨other, entry'⟩ hother
    refine entryFault?_eq_none_of_savable fun hbad' => ?_
    have hget' : inventory.get? other = some entry' := by
      rw [← OrderedMap.mem_entries_iff, hsplit]
      exact List.mem_append_left _ hother
    have hbefore := (OrderedMap.before_of_entries hsplit).1 _ hother
    exact String.not_lt.2 (hleast other entry' hget' hbad') (KeyOrder.before_string_iff.1 hbefore)

theorem savable_of_no_fault (h : inventory.fault? exporter.isSome = none)
    (hget : inventory.get? key = some entry) : ¬Unsavable exporter key entry := by
  obtain ⟨hsafe, hexporter⟩ := fault?_eq_none_iff.1 h key entry
    ((OrderedMap.mem_entries_iff inventory key entry).2 hget)
  rintro (hfaulty | ⟨hexec, rfl⟩)
  · exact hfaulty hsafe
  · exact Bool.false_ne_true (hexporter hexec)

theorem exists_smallest (hget : inventory.get? key = some entry)
    (hbad : Unsavable exporter key entry) : ∃ key, Smallest exporter inventory key := by
  cases hfault : inventory.fault? exporter.isSome with
  | some e =>
    obtain ⟨least, hleast, -⟩ := fault?_eq_some_iff.1 hfault
    exact ⟨least, hleast⟩
  | none => exact absurd hbad (savable_of_no_fault hfault hget)

/-! ## What the checks look at -/

/-- The keys, and which of them have executables. -/
def kinds (inventory : Inventory ε) : List (String × Bool) :=
  inventory.entries.map fun e => (e.1, e.2.isExecutable)

theorem fault?_congr {hasExporter : Bool} {other : Inventory ε}
    (h : inventory.kinds = other.kinds) :
    inventory.fault? hasExporter = other.fault? hasExporter := by
  have hfault : ∀ i : Inventory ε, i.fault? hasExporter = i.kinds.findSome? fun c =>
      match PathFault.of? c.1 with
      | some fault => some (SaveError.unsafeKey c.1 fault)
      | none => if c.2 && !hasExporter then some (.missingExporter c.1) else none := by
    intro i
    rw [kinds, List.findSome?_map]
    rfl
  rw [hfault, hfault, h]

/-! ## The whole save -/

theorem EntryStep.not_early (h : EntryStep dir exporter p key entry p' (.error e)) : ¬e.Early := by
  cases h with
  | blocked => exact id
  | refused => exact id
  | declined => exact id

theorem save_early_iff :
    (inventory.save fs dir exporter).answer = .error e ∧ e.Early ↔
      inventory.fault? exporter.isSome = some e := by
  constructor
  · rintro ⟨hanswer, hearly⟩
    cases hfault : inventory.fault? exporter.isSome with
    | some early =>
      rw [save_of_fault hfault] at hanswer
      rw [Except.error.inj hanswer]
    | none =>
      cases hrun : saveEntries dir exporter ⟨fs, .nothing, []⟩ inventory.entries with
      | mk p result =>
        cases result with
        | ok =>
          rw [save_of_ok hfault hrun] at hanswer
          cases hanswer
        | error late =>
          rw [save_of_error hfault hrun] at hanswer
          cases hanswer
          obtain ⟨done, key, entry, rest, mid, -, -, hfail⟩ := saveEntries_split hrun
          exact absurd hearly (entryStep hfail).not_early
  · intro hfault
    obtain ⟨key, -, rfl⟩ := fault?_eq_some_iff.1 hfault
    rw [save_of_fault hfault]
    exact ⟨rfl, early_refusal key⟩

/-- Saving gives an early error exactly where some entry must not be saved. The error is about the
smallest key of such an entry, and an unsafe key outweighs a missing exporter; nothing has been
written and the exporter has not been called. All this is decided by the keys and by which entries
are executables. -/
theorem save_refuses (fs : FileSystem) (dir : Path) (inventory : Inventory ε)
    (exporter : Option (Exporter ε)) :
    let out := inventory.save fs dir exporter
    ((∃ e, out.answer = .error e ∧ e.Early) ↔
      ∃ key entry, inventory.get? key = some entry ∧ Unsavable exporter key entry) ∧
    (∀ e, out.answer = .error e → e.Early →
      (∃ key, Smallest exporter inventory key ∧
        (∀ fault, PathFault.of? key = some fault → e = .unsafeKey key fault) ∧
        (PathFault.of? key = none → e = .missingExporter key)) ∧
      out.files = fs ∧ out.calls = [] ∧ out.events = []) ∧
    ∀ (fs' : FileSystem) (dir' : Path) (other : Inventory ε) (exporter' : Option (Exporter ε)),
      other.kinds = inventory.kinds → exporter'.isSome = exporter.isSome →
      ∀ e, e.Early → ((other.save fs' dir' exporter').answer = .error e ↔ out.answer = .error e) := by
  intro out
  refine ⟨⟨?_, ?_⟩, ?_, ?_⟩
  · rintro ⟨e, hanswer, hearly⟩
    obtain ⟨key, ⟨⟨entry, hget, hbad⟩, -⟩, -⟩ :=
      fault?_eq_some_iff.1 (save_early_iff.1 ⟨hanswer, hearly⟩)
    exact ⟨key, entry, hget, hbad⟩
  · rintro ⟨key, entry, hget, hbad⟩
    obtain ⟨least, hleast⟩ := exists_smallest hget hbad
    exact ⟨refusal least, save_early_iff.2 (fault?_eq_some_iff.2 ⟨least, hleast, rfl⟩)⟩
  · intro e hanswer hearly
    have hfault := save_early_iff.1 ⟨hanswer, hearly⟩
    obtain ⟨key, hleast, rfl⟩ := fault?_eq_some_iff.1 hfault
    have hout : out = ⟨.error (refusal key), fs, [], []⟩ := save_of_fault hfault
    refine ⟨⟨key, hleast, fun fault hkey => ?_, fun hkey => ?_⟩, ?_⟩
    · rw [refusal, hkey]
    · rw [refusal, hkey]
    · rw [hout]
      exact ⟨rfl, rfl, rfl⟩
  · intro fs' dir' other exporter' hkinds hsome e hearly
    have hsame : other.fault? exporter'.isSome = inventory.fault? exporter.isSome := by
      rw [hsome, fault?_congr hkinds]
    have hiff : (other.save fs' dir' exporter').answer = .error e ∧ e.Early ↔
        out.answer = .error e ∧ e.Early := by
      rw [save_early_iff, save_early_iff, hsame]
    simpa only [hearly, and_true] using hiff

-- `b/..` has two faults, and it is smaller than `c`
example :
    let inventory : Inventory ByteArray :=
      Inventory.ofEntries [.ofExecutable "c" .empty, .ofExecutable "b/.." .empty, .ofText "a" ""]
    (inventory.save ⟨FileTree.empty, []⟩ ⟨"d"⟩ none).answer =
      .error (.unsafeKey "b/.." .parentSegment) := by
  decide +kernel

end Inventory
end KernelArchive
