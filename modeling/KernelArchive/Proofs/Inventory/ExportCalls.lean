import KernelArchive.Proofs.Inventory.FailurePoint
import KernelArchive.Proofs.Inventory.SavedFiles

/-!
# Calls of the exporter

* `Inventory.executables`: the executables of an inventory with their keys, in key order.
* `Inventory.CalledFor`: one call, for one entry. `EntryStep.calls`: each entry leads to at most one.
* `Inventory.saveEntries_calls`: a run makes the calls in order, and all of them if it succeeds.
* `Inventory.saveEntries_call`: each call comes after the entries before its own.
* `Inventory.save_calls`: so it is for the whole save.
-/

namespace KernelArchive
set_option autoImplicit false

variable {ε : Type}

namespace Content

/-- The executable of a content, if it is one. -/
def executable? : Content ε → Option ε
  | executable e => some e
  | _ => none

end Content

namespace Inventory

variable {dir : Path} {x : Exporter ε} {p p' : Progress ε} {key : String} {entry : Entry ε}
  {inventory : Inventory ε} {entries : List (String × Entry ε)} {r : Except SaveError Unit}
  {fs made : FileSystem} {call : ExportCall ε} {earlier later : List (ExportCall ε)}

theorem isDirectory_of_makeRoom {path parent : Path} (h : makeRoom fs path = (made, .ok ()))
    (hparent : path.parent? = some parent) :
    parent.text = "" ∨ made.isDirectory parent = true := by
  unfold makeRoom at h
  simp only [hparent] at h
  split at h
  · next hmade =>
    cases h
    refine or_iff_not_imp_left.2 fun hne => ?_
    unfold FileSystem.makeDirectories at hmade
    rw [Path.lineage_eq_cons hne] at hmade
    exact FileSystem.isDirectory_of_makeLine hmade
  · cases h

/-! ## One entry -/

/-- The exporter is called for an entry, once room has been made for it. -/
structure CalledFor (x : Exporter ε) (dir : Path) (key : String) (entry : Entry ε)
    (fs : FileSystem) (call : ExportCall ε) : Prop where
  executable : entry.content = .executable call.executable
  path : call.path = dir.join key
  room : makeRoom fs call.path = (call.found, .ok ())
  answer : x call.found call.executable call.path = (call.left, call.result)

/-- What saving an entry comes to, by what the exporter answers. -/
def outcome (call : ExportCall ε) : Except SaveError Unit :=
  call.result.mapError (.exportFailed call.path)

theorem EntryStep.calls (h : EntryStep dir (some x) p key entry p' r) :
    (p'.calls = p.calls ∧ (r = .ok () → entry.isExecutable = false)) ∨
      ∃ call, p'.calls = p.calls ++ [call] ∧ CalledFor x dir key entry p.files call ∧
        r = outcome call := by
  cases h with
  | blocked => exact .inl ⟨rfl, fun h => nomatch h⟩
  | refused => exact .inl ⟨rfl, fun h => nomatch h⟩
  | written hroom hbytes => exact .inl ⟨rfl, fun _ => isExecutable_of_bytes? hbytes⟩
  | skipped hroom hcontent hnone => cases hnone
  | declined hroom hcontent hsome hexport =>
    cases hsome
    exact .inr ⟨_, rfl, ⟨hcontent, rfl, hroom, hexport⟩, rfl⟩
  | exported hroom hcontent hsome hexport =>
    cases hsome
    exact .inr ⟨_, rfl, ⟨hcontent, rfl, hroom, hexport⟩, rfl⟩

/-! ## Several entries -/

/-- The executables among entries, with their keys. -/
def executablesOf (entries : List (String × Entry ε)) : List (String × ε) :=
  entries.filterMap fun e => e.2.content.executable?.map (e.1, ·)

/-- Where executables are to be exported to. -/
def due (dir : Path) (executables : List (String × ε)) : List (Path × ε) :=
  executables.map fun e => (dir.join e.1, e.2)

/-- What the exporter has been asked for. -/
def asked (calls : List (ExportCall ε)) : List (Path × ε) :=
  calls.map fun c => (c.path, c.executable)

theorem executablesOf_cons_plain (h : entry.isExecutable = false) :
    executablesOf ((key, entry) :: entries) = executablesOf entries := by
  unfold executablesOf
  cases hc : entry.content with
  | text s => simp [hc, Content.executable?]
  | binary b => simp [hc, Content.executable?]
  | executable e => simp [Entry.isExecutable, hc, Content.isExecutable] at h

theorem executablesOf_cons {executable : ε} (h : entry.content = .executable executable) :
    executablesOf ((key, entry) :: entries) = (key, executable) :: executablesOf entries := by
  simp [executablesOf, h, Content.executable?]

theorem saveEntries_calls (h : saveEntries dir (some x) p entries = (p', r)) :
    ∃ new, p'.calls = p.calls ++ new ∧ asked new <+: due dir (executablesOf entries) ∧
      (r = .ok () → asked new = due dir (executablesOf entries)) := by
  induction entries generalizing p with
  | nil =>
    cases h
    exact ⟨[], (List.append_nil _).symm, List.prefix_rfl, fun _ => rfl⟩
  | cons first rest ih =>
    obtain ⟨key, entry⟩ := first
    rw [saveEntries_cons] at h
    split at h
    · next e hstep =>
      cases h
      obtain ⟨hsame, -⟩ | ⟨call, hcalls, hcalled, -⟩ := (entryStep hstep).calls
      · exact ⟨[], by rw [hsame, List.append_nil], List.nil_prefix, fun h => nomatch h⟩
      · refine ⟨[call], hcalls, ?_, fun h => nomatch h⟩
        rw [executablesOf_cons hcalled.executable, asked, due, List.map_singleton, List.map_cons,
          hcalled.path]
        exact List.prefix_append [_] _
    · next mid hstep =>
      obtain ⟨new, hnew, hprefix, hall⟩ := ih h
      obtain ⟨hsame, hplain⟩ | ⟨call, hcalls, hcalled, -⟩ := (entryStep hstep).calls
      · rw [executablesOf_cons_plain (hplain rfl)]
        exact ⟨new, by rw [hnew, hsame], hprefix, hall⟩
      · rw [executablesOf_cons hcalled.executable]
        have hfirst : asked (call :: new) = (dir.join key, call.executable) :: asked new := by
          rw [asked, List.map_cons, hcalled.path]
          rfl
        refine ⟨call :: new, by rw [hnew, hcalls, List.append_assoc]; rfl, ?_, fun hok => ?_⟩
        · rw [hfirst]
          exact List.cons_prefix_cons.2 ⟨rfl, hprefix⟩
        · rw [hfirst, hall hok]
          rfl

/-- A call in the course of a run is for one of the entries. Those before it have been saved, and
if the exporter fails, the run ends there. -/
theorem saveEntries_call (h : saveEntries dir (some x) p entries = (p', r))
    (hcalls : p'.calls = p.calls ++ (earlier ++ call :: later)) :
    ∃ done key entry rest mid, entries = done ++ (key, entry) :: rest ∧
      saveEntries dir (some x) p done = (mid, .ok ()) ∧ mid.calls = p.calls ++ earlier ∧
      CalledFor x dir key entry mid.files call ∧
      ∀ cause, call.result = .error cause →
        later = [] ∧ r = .error (.exportFailed call.path cause) := by
  induction entries generalizing p earlier with
  | nil =>
    cases h
    have hlen := congrArg List.length hcalls
    simp at hlen
  | cons first rest ih =>
    obtain ⟨key, entry⟩ := first
    rw [saveEntries_cons] at h
    split at h
    · next e hstep =>
      cases h
      obtain ⟨hsame, -⟩ | ⟨only, honly, hcalled, hr⟩ := (entryStep hstep).calls
      · rw [hsame] at hcalls
        have hlen := congrArg List.length hcalls
        simp at hlen
      · rw [honly] at hcalls
        have hone := List.append_cancel_left hcalls
        obtain ⟨rfl, rfl, rfl⟩ : earlier = [] ∧ call = only ∧ later = [] := by
          cases earlier with
          | nil => simpa [eq_comm] using hone
          | cons c more => simp at hone
        refine ⟨[], key, entry, rest, p, rfl, rfl, (List.append_nil _).symm, hcalled, ?_⟩
        intro cause hcause
        rw [hr, outcome, hcause]
        exact ⟨rfl, rfl⟩
    · next mid hstep =>
      have hextend : ∀ {q : Progress ε} {before : List (String × Entry ε)},
          saveEntries dir (some x) mid before = (q, .ok ()) →
          saveEntries dir (some x) p ((key, entry) :: before) = (q, .ok ()) := by
        intro q before hbefore
        rw [saveEntries_cons, hstep]
        exact hbefore
      obtain ⟨hsame, -⟩ | ⟨c, hc, hcalled, hr⟩ := (entryStep hstep).calls
      · rw [← hsame] at hcalls
        obtain ⟨done, key', entry', rest', mid', rfl, hdone, hmid, hat⟩ := ih h hcalls
        exact ⟨(key, entry) :: done, key', entry', rest', mid', rfl, hextend hdone,
          by rw [hmid, hsame], hat⟩
      · obtain ⟨new, hnew, -⟩ := saveEntries_calls h
        rw [hc, List.append_assoc] at hnew
        rw [hnew] at hcalls
        have hall := List.append_cancel_left hcalls
        cases earlier with
        | nil =>
          -- this is the call; it has succeeded, since the run goes on
          obtain ⟨rfl, rfl⟩ : c = call ∧ new = later := by simpa using hall
          refine ⟨[], key, entry, rest, p, rfl, rfl, (List.append_nil _).symm, hcalled, ?_⟩
          intro cause hcause
          rw [outcome, hcause] at hr
          cases hr
        | cons c' more =>
          obtain ⟨rfl, hmore⟩ : c = c' ∧ new = more ++ call :: later := by simpa using hall
          have hcalls' : p'.calls = mid.calls ++ (more ++ call :: later) := by
            rw [hnew, hc, List.append_assoc, hmore]
          obtain ⟨done, key', entry', rest', mid', rfl, hdone, hmid, hat⟩ := ih h hcalls'
          refine ⟨(key, entry) :: done, key', entry', rest', mid', rfl, hextend hdone, ?_, hat⟩
          rw [hmid, hc, List.append_assoc]
          rfl

/-! ## The whole save -/

/-- The executables with their keys, in key order. -/
def executables (inventory : Inventory ε) : List (String × ε) := executablesOf inventory.entries

theorem exported_eq_due (entries : List (String × Entry ε)) :
    (Summary.of dir entries).exported = (due dir (executablesOf entries)).map (·.1) := by
  have hkeys : (entries.filter fun e => e.2.isExecutable).map (·.1) =
      (executablesOf entries).map (·.1) := by
    induction entries with
    | nil => rfl
    | cons first rest ih =>
      obtain ⟨key, entry⟩ := first
      cases hcontent : entry.content with
      | executable e =>
        have hexec : entry.isExecutable = true := isExecutable_of_content hcontent
        simpa [hexec, executablesOf_cons hcontent] using ih
      | _ =>
        have hexec : entry.isExecutable = false := by rw [Entry.isExecutable, hcontent]; rfl
        simpa [hexec, executablesOf_cons_plain hexec] using ih
  have hpaths := congrArg (List.map dir.join) hkeys
  rw [List.map_map, List.map_map] at hpaths
  rw [due, List.map_map]
  exact hpaths

/-- The exporter is called for this key after the save of all smaller keys, with these calls before.
There is a directory around the path, unless the path is the root itself. -/
structure Due (fs : FileSystem) (dir : Path) (inventory : Inventory ε) (x : Exporter ε)
    (key : String) (earlier : List (ExportCall ε)) (call : ExportCall ε) : Prop where
  called : ∃ entry, inventory.get? key = some entry ∧
    CalledFor x dir key entry ((inventory.below key).save fs dir (some x)).files call
  below : ∃ summary, ((inventory.below key).save fs dir (some x)).answer = .ok summary
  earlier : ((inventory.below key).save fs dir (some x)).calls = earlier
  around : ∀ parent, call.path.parent? = some parent →
    parent.text = "" ∨ call.found.isDirectory parent = true
  root : call.path.parent? = none → call.path.text ≠ "" → call.found.locate call.path = []

theorem due_of_called {done rest : List (String × Entry ε)} {mid : Progress ε}
    (hfault : inventory.fault? true = none)
    (hsplit : inventory.entries = done ++ (key, entry) :: rest)
    (hdone : saveEntries dir (some x) ⟨fs, .nothing, []⟩ done = (mid, .ok ()))
    (hcalled : CalledFor x dir key entry mid.files call) :
    Due fs dir inventory x key mid.calls call := by
  have hget : inventory.get? key = some entry := by
    rw [← OrderedMap.mem_entries_iff, hsplit]
    simp
  have hbelow := save_below hfault hsplit hdone
  refine ⟨⟨entry, hget, ?_⟩, ⟨mid.summary, by rw [hbelow]⟩, by rw [hbelow], ?_, ?_⟩
  · rw [hbelow]
    exact hcalled
  · exact fun parent hparent => isDirectory_of_makeRoom hcalled.room hparent
  · exact fun hparent hne => call.found.locate_of_no_parent hparent hne

theorem save_of_run {exporter : Option (Exporter ε)}
    (hfault : inventory.fault? exporter.isSome = none)
    (h : saveEntries dir exporter ⟨fs, .nothing, []⟩ inventory.entries = (p, r)) :
    (inventory.save fs dir exporter).calls = p.calls ∧
      (inventory.save fs dir exporter).answer = r.map fun _ => p.summary := by
  cases r with
  | ok =>
    rw [save_of_ok hfault h]
    exact ⟨rfl, rfl⟩
  | error e =>
    rw [save_of_error hfault h]
    exact ⟨rfl, rfl⟩

/-- The exporter is called only where the whole inventory has passed the checks, and then for the
executables in key order, each at its own path. A call comes when everything with a smaller key has
been saved and nothing with a greater one has. The first error is the last call and the answer; and
where the answer is no error, there has been one call for each executable. (No path is asked for
twice, so an exporter with a state of its own is in this run a function of the path as well.) -/
theorem save_calls (fs : FileSystem) (dir : Path) (inventory : Inventory ε) (x : Exporter ε) :
    let out := inventory.save fs dir (some x)
    (out.calls ≠ [] → ∀ key entry, inventory.get? key = some entry →
      ¬Unsavable (some x) key entry) ∧
    asked out.calls <+: due dir inventory.executables ∧
    (∀ earlier call later, out.calls = earlier ++ call :: later →
      (∃ key, Due fs dir inventory x key earlier call) ∧
      ∀ cause, call.result = .error cause →
        later = [] ∧ out.answer = .error (.exportFailed call.path cause)) ∧
    ∀ summary, out.answer = .ok summary →
      asked out.calls = due dir inventory.executables ∧
        summary.exported = out.calls.map (·.path) := by
  intro out
  cases hfault : inventory.fault? true with
  | some e =>
    have hout : out = ⟨.error e, fs, [], []⟩ := save_of_fault hfault
    rw [hout]
    refine ⟨fun h => absurd rfl h, List.nil_prefix, ?_, fun summary h => nomatch h⟩
    intro earlier call later h
    simp at h
  | none =>
    rcases hrun : saveEntries dir (some x) ⟨fs, .nothing, []⟩ inventory.entries with ⟨p, r⟩
    obtain ⟨hcalls, hanswer⟩ : out.calls = p.calls ∧ out.answer = r.map fun _ => p.summary :=
      save_of_run hfault hrun
    obtain ⟨new, hnew, hprefix, hall⟩ := saveEntries_calls hrun
    obtain rfl : p.calls = new := by simpa using hnew
    rw [hcalls, hanswer]
    refine ⟨?_, hprefix, fun earlier call later hsplit => ?_, fun summary hok => ?_⟩
    · exact fun _ key entry => savable_of_no_fault hfault
    · obtain ⟨done, key, entry, rest, mid, hentries, hdone, hmid, hcalled, herror⟩ :=
        saveEntries_call hrun hsplit
      obtain rfl : mid.calls = earlier := hmid
      refine ⟨⟨key, due_of_called hfault hentries hdone hcalled⟩, fun cause hcause => ?_⟩
      obtain ⟨rfl, rfl⟩ := herror cause hcause
      exact ⟨rfl, rfl⟩
    · have hsum : summary = Summary.of dir inventory.entries := summary_of_save (hanswer.trans hok)
      cases r with
      | error e => cases hok
      | ok =>
        have hdue := hall rfl
        refine ⟨hdue, ?_⟩
        rw [hsum, exported_eq_due, ← hdue, asked, List.map_map]
        rfl

-- the second executable is refused, and the third one is not asked for
example :
    let exporter : Exporter String := fun fs executable _ =>
      (fs, if executable = "2" then .error .notFound else .ok ())
    let inventory : Inventory String := Inventory.ofEntries
      [.ofExecutable "c" "3", .ofText "a" "", .ofExecutable "b/x" "2", .ofExecutable "b/w" "1"]
    let out := inventory.save ⟨FileTree.empty, []⟩ ⟨"d"⟩ (some exporter)
    asked out.calls = [(⟨"d/b/w"⟩, "1"), (⟨"d/b/x"⟩, "2")] ∧
      out.answer = .error (.exportFailed ⟨"d/b/x"⟩ .notFound) := by
  decide +kernel

end Inventory
end KernelArchive
