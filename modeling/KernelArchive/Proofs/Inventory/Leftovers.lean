import KernelArchive.Proofs.Inventory.FailurePoint
import KernelArchive.Proofs.Inventory.Holdings
import KernelArchive.Proofs.Inventory.Persistence

/-!
# What a save that fails leaves behind

* `Inventory.StopsAt`: the key that an error is about; there is exactly one.
* `Inventory.present_of_failed`: of names that were free, those of smaller keys are there.
-/

namespace KernelArchive
set_option autoImplicit false

variable {ε : Type}

/-! ## Exporters -/

namespace Exporter

/-- Where the exporter succeeds there is a file at the path, and where it fails it has put nothing
there. -/
structure Faithful (x : Exporter ε) : Prop where
  file : ∀ fs executable path left, x fs executable path = (left, .ok ()) →
    left.isFile path = true
  nothing : ∀ fs executable path left cause, x fs executable path = (left, .error cause) →
    fs.node? path = none → left.node? path = none

theorem faithful_writing (bytes? : ε → Except IoFailure ByteArray) :
    (writing bytes?).Faithful where
  file fs executable path left h := by
    obtain ⟨bytes, hwrite⟩ := deposits_writing bytes? fs executable path left h
    rw [FileSystem.isFile, FileSystem.node?_of_write hwrite]
    rfl
  nothing fs executable path left cause h hfree := by
    unfold writing at h
    split at h
    · cases h
      exact hfree
    · split at h
      · cases h
        exact hfree
      · cases h

end Exporter

namespace Inventory

variable {dir : Path} {exporter : Option (Exporter ε)} {p p' mid : Progress ε}
  {key other name : String} {entry : Entry ε} {inventory : Inventory ε}
  {entries done rest : List (String × Entry ε)} {r : Except SaveError Unit} {e : SaveError}
  {fs : FileSystem}

/-! ## The key that an error is about -/

/-- The key that the error names, or the one at which saving failed. -/
def StopsAt (fs : FileSystem) (dir : Path) (inventory : Inventory ε)
    (exporter : Option (Exporter ε)) (key : String) : SaveError → Prop
  | .unsafeKey named _ => key = named
  | .missingExporter named => key = named
  | _ => FailsAt fs dir inventory exporter key

theorem StopsAt.unique (h : StopsAt fs dir inventory exporter key e)
    (h' : StopsAt fs dir inventory exporter other e) : other = key := by
  cases e with
  | unsafeKey named fault => exact h'.trans h.symm
  | missingExporter named => exact h'.trans h.symm
  | exportFailed path cause => exact failsAt_unique h h'
  | writeFailed path cause => exact failsAt_unique h h'

/-- How a save comes to an error. -/
inductive Failed (fs : FileSystem) (dir : Path) (inventory : Inventory ε)
    (exporter : Option (Exporter ε)) : String → SaveError → FileSystem → Prop
  /-- An entry has a fault, and nothing is done. -/
  | checked {key : String} {entry : Entry ε} {e : SaveError} (hmem : (key, entry) ∈ inventory.entries)
      (hfault : entryFault? exporter.isSome key entry = some e) :
      Failed fs dir inventory exporter key e fs
  /-- The entries before one are saved, and this one fails. -/
  | stopped {done rest : List (String × Entry ε)} {key : String} {entry : Entry ε}
      {mid p : Progress ε} {e : SaveError} (hfault : inventory.fault? exporter.isSome = none)
      (hsplit : inventory.entries = done ++ (key, entry) :: rest)
      (hdone : saveEntries dir exporter ⟨fs, .nothing, []⟩ done = (mid, .ok ()))
      (hstep : EntryStep dir exporter mid key entry p (.error e)) :
      Failed fs dir inventory exporter key e p.files

theorem Failed.mem_keys {after : FileSystem} (h : Failed fs dir inventory exporter key e after) :
    key ∈ inventory.keys := by
  cases h with
  | checked hmem => exact OrderedMap.mem_keys_of_mem hmem
  | @stopped done rest _ entry _ _ _ _ hsplit =>
    have hmem : (key, entry) ∈ inventory.entries := by simp [hsplit]
    exact OrderedMap.mem_keys_of_mem hmem

theorem failed_of_save (h : (inventory.save fs dir exporter).answer = .error e) :
    ∃ key, Failed fs dir inventory exporter key e (inventory.save fs dir exporter).files ∧
      StopsAt fs dir inventory exporter key e := by
  cases hfault : inventory.fault? exporter.isSome with
  | some early =>
    rw [save_of_fault hfault] at h ⊢
    obtain rfl := Except.error.inj h
    obtain ⟨⟨key, entry⟩, hmem, hentry⟩ := List.exists_of_findSome?_eq_some hfault
    refine ⟨key, .checked hmem hentry, ?_⟩
    obtain ⟨-, rfl⟩ := entryFault?_eq_some_iff.1 hentry
    unfold refusal
    split <;> rfl
  | none =>
    cases hrun : saveEntries dir exporter ⟨fs, .nothing, []⟩ inventory.entries with
    | mk p result =>
      cases result with
      | ok =>
        rw [save_of_ok hfault hrun] at h
        cases h
      | error late =>
        have hout := save_of_error hfault hrun
        rw [hout] at h ⊢
        obtain rfl := Except.error.inj h
        obtain ⟨done, key, entry, rest, mid, hsplit, hdone, hfail⟩ := saveEntries_split hrun
        have hmem : (key, entry) ∈ inventory.entries := by simp [hsplit]
        have hat : FailsAt fs dir inventory exporter key :=
          ⟨OrderedMap.mem_keys_of_mem hmem, ⟨mid.summary, by rw [save_below hfault hsplit hdone]⟩,
            ⟨late, by rw [save_upTo hfault hsplit hdone hfail]⟩⟩
        have hstep := entryStep hfail
        refine ⟨key, .stopped hfault hsplit hdone hstep, ?_⟩
        cases hstep with
        | blocked => exact hat
        | refused => exact hat
        | declined => exact hat

/-! ## Names that are there -/

theorem EntryStep.present (h : EntryStep dir exporter p name entry p' (.ok ()))
    (hsome : entry.isExecutable = true → exporter.isSome = true)
    (hx : entry.isExecutable = true → ∀ x ∈ exporter, x.Faithful) :
    p'.files.present (dir.join name) = true := by
  cases h with
  | written hroom hbytes hwrite =>
    rw [FileSystem.present, FileSystem.node?_of_write hwrite]
    rfl
  | skipped hroom hcontent hnone =>
    have hthere := hsome (isExecutable_of_content hcontent)
    rw [hnone] at hthere
    cases hthere
  | exported hroom hcontent hsome' hexport =>
    have hfile := (hx (isExecutable_of_content hcontent) _ hsome').file _ _ _ _ hexport
    rw [FileSystem.isFile, Option.any_eq_true] at hfile
    obtain ⟨n, hn, -⟩ := hfile
    rw [FileSystem.present, hn]
    rfl

/-- What was saved is still there after further entries that take nothing away. -/
theorem present_saveEntries
    (h : saveEntries dir exporter p (done ++ (name, entry) :: rest) = (p', .ok ()))
    (hsome : entry.isExecutable = true → exporter.isSome = true)
    (hx : entry.isExecutable = true → ∀ x ∈ exporter, x.Faithful)
    (hrest : ∀ e ∈ rest, e.2.isExecutable = true → ∀ x ∈ exporter, x.Respects FileSystem.Retains) :
    p'.files.present (dir.join name) = true := by
  rw [List.append_cons, saveEntries_append_ok] at h
  obtain ⟨mid, hmid, hlast⟩ := h
  obtain ⟨before, -, hone⟩ := saveEntries_append_ok.1 hmid
  rw [saveEntries_singleton] at hone
  have hretains := lasting_saveEntries FileSystem.lasting_retains hrest hlast
  exact hretains.present ((entryStep hone).present hsome hx)

/-- A name that is not saved is not there, if it was free. -/
theorem absent_step (h : EntryStep dir exporter p key entry p' (.error e))
    (hdir : p.files.Settled dir) (hkey : Path.Plain key) (hname : Path.Plain name)
    (hfree : p.files.node? (dir.join name) = none)
    (hx : entry.isExecutable = true → key = name ∧ ∀ x ∈ exporter, x.Faithful) :
    p'.files.node? (dir.join name) = none := by
  have hroom : ∀ {made : FileSystem} {room : Except SaveError Unit},
      makeRoom p.files (dir.join key) = (made, room) → made.node? (dir.join name) = none := by
    intro made room h
    have hgrows := grows_makeRoom h
    rw [FileSystem.node?_join_of_same hdir hgrows.working hgrows.keeps hname
      (hgrows.lookup_beside hdir hkey name), hfree]
  cases h with
  | blocked h => exact hroom h
  | refused h => exact hroom h
  | declined h hcontent hsome hexport =>
    obtain ⟨rfl, hfaithful⟩ := hx (isExecutable_of_content hcontent)
    exact (hfaithful _ hsome).nothing _ _ _ _ _ hexport (hroom h)

/-- All keys are plain names, and nothing is left to an exporter but what is kept under `name`. -/
structure Exports (inventory : Inventory ε) (exporter : Option (Exporter ε)) (name : String) :
    Prop where
  plain : ∀ key ∈ inventory.keys, Path.Plain key
  safe : ∀ key ∈ inventory.keys, PathFault.of? key = none
  faithful : ∀ key entry, (key, entry) ∈ inventory.entries → entry.isExecutable = true →
    key = name ∧ ∀ x ∈ exporter, x.Faithful

section Stopped

variable (h : inventory.Exports exporter name)
  (hsplit : inventory.entries = done ++ (key, entry) :: rest)
  (hdone : saveEntries dir exporter ⟨fs, .nothing, []⟩ done = (mid, .ok ()))
  (hstep : EntryStep dir exporter mid key entry p (.error e))
include h hsplit hdone hstep

theorem Exports.absent (hdir : fs.Settled dir) (hname : Path.Plain name)
    (hfree : fs.node? (dir.join name) = none) (hmem : name ∉ done.map (·.1)) :
    p.files.node? (dir.join name) = none := by
  have hothers : ∀ e ∈ done, e.1 ≠ name :=
    fun e he hsame => hmem (hsame ▸ List.mem_map_of_mem he)
  have hsub : ∀ e ∈ done ++ [(key, entry)], e ∈ inventory.entries := by
    intro e he
    rw [hsplit, List.append_cons]
    exact List.mem_append_left rest he
  have hplain : ∀ e ∈ done ++ [(key, entry)], Path.Plain e.1 :=
    fun e he => h.plain e.1 (OrderedMap.mem_keys_of_mem (hsub e he))
  -- none of the entries before is left to the exporter, as their keys are other names
  have halters : FileSystem.Alters (destinations dir done) fs mid.files := by
    refine alters_saveEntries_ok (tidy_of_deposits fun e he hexec => ?_) hdone
    have hentry : e ∈ inventory.entries := hsub e (List.mem_append_left _ he)
    exact absurd (h.faithful e.1 e.2 hentry hexec).1 (hothers e he)
  have hfree' : mid.files.node? (dir.join name) = none := by
    rw [node?_of_unsaved (fun e he => hplain e (List.mem_append_left _ he)) hdir halters hname
      hothers, hfree]
  exact absent_step hstep (hdir.of_keeps halters.working halters.keeps)
    (hplain (key, entry) (by simp)) hname hfree'
    (h.faithful key entry (hsub (key, entry) (by simp)))

theorem Exports.present (hfault : inventory.fault? exporter.isSome = none)
    (hmem : name ∈ done.map (·.1)) : p.files.present (dir.join name) = true := by
  obtain ⟨⟨name, saved⟩, hsaved, rfl⟩ := List.mem_map.1 hmem
  obtain ⟨first, last, rfl⟩ := List.append_of_mem hsaved
  have hentries : inventory.entries =
      first ++ (name, saved) :: (last ++ (key, entry) :: rest) := by simp [hsplit]
  have hname : (name, saved) ∈ inventory.entries := by simp [hentries]
  -- later keys are greater, so nothing after this is left to the exporter
  have hnone : ∀ e ∈ last ++ (key, entry) :: rest, e.2.isExecutable = true →
      ∀ x ∈ exporter, x.Respects FileSystem.Retains := by
    intro e he hexec
    have hbefore := (OrderedMap.before_of_entries hentries).2 e he
    have hsame := (h.faithful e.1 e.2 (by simp [hentries, he]) hexec).1
    exact absurd hsame.symm (KeyOrder.ne_of_before hbefore)
  have hthere := present_saveEntries hdone (fault?_eq_none_iff.1 hfault name saved hname).2
    (fun hexec => (h.faithful name saved hname hexec).2)
    (fun e he => hnone e (List.mem_append_left _ he))
  have hfailing : (key, entry) ∈ last ++ (key, entry) :: rest :=
    List.mem_append_right last List.mem_cons_self
  exact (hstep.lasting FileSystem.lasting_retains (hnone (key, entry) hfailing)).present hthere

end Stopped

/-- Of an inventory whose save fails, a name that was free is there if its key is smaller than the
one that the error is about. -/
theorem present_of_failed {after : FileSystem} (h : inventory.Exports exporter name)
    (hdir : fs.Settled dir) (hname : Path.Plain name)
    (hfree : fs.node? (dir.join name) = none)
    (hfailed : Failed fs dir inventory exporter key e after) :
    after.present (dir.join name) = true ↔
      name ∈ inventory.keys ∧ KeyOrder.before name key = true := by
  cases hfailed with
  | @checked _ entry _ hmem hfault =>
    -- only an executable without exporter stops a save here, and it has this very name
    obtain ⟨hfaulty | ⟨hexec, -⟩, -⟩ := entryFault?_eq_some_iff.1 hfault
    · exact absurd (h.safe key (OrderedMap.mem_keys_of_mem hmem)) hfaulty
    · obtain ⟨rfl, -⟩ := h.faithful key entry hmem hexec
      rw [FileSystem.present, hfree, KeyOrder.before_irrefl]
      simp
  | @stopped done rest _ entry mid p _ hfault hsplit hdone hstep =>
    rw [← OrderedMap.mem_keys_before hsplit]
    refine ⟨fun hpresent => ?_, h.present hsplit hdone hstep hfault⟩
    by_contra hmem
    rw [FileSystem.present, h.absent hsplit hdone hstep hdir hname hfree hmem] at hpresent
    cases hpresent

end Inventory
end KernelArchive
