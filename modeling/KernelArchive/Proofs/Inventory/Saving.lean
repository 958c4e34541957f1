import KernelArchive.Inventory.Save
import KernelArchive.Proofs.FileSystem.Frames

/-!
# Saving entry by entry

* `Inventory.EntryStep`: what saving one entry can come to, one case for each.
* `Inventory.saveEntries_append`, `saveEntries_split`: a run over several entries is a run over the
  first ones and a run over the others; one that fails does so at an entry.
* `Inventory.saveEntries_induction`: what each entry preserves holds after all of them.
* `Exporter.Confined`, `Exporter.Deposits`: what an exporter may change, and what it achieves.
* `Inventory.alters_saveEntries`: a run alters nothing but what its entries name.
-/

namespace KernelArchive
set_option autoImplicit false

variable {ε : Type}

/-! ## Keys without fault -/

/-- A key without fault starts at no root and never goes up. -/
theorem PathFault.of?_eq_none {key : String} (h : PathFault.of? key = none) :
    key.toList.head? ≠ some '/' ∧ ".." ∉ Text.segments '/' key := by
  unfold of? at h
  split at h
  · cases h
  · next first rest hkey =>
    split at h
    · cases h
    · next hfirst =>
      split at h
      · cases h
      · split at h
        · cases h
        · split at h
          · cases h
          · next hup =>
            refine ⟨?_, hup⟩
            rw [hkey]
            intro he
            exact hfirst (.inl (Option.some.inj he))

namespace Inventory

variable {dir : Path} {exporter : Option (Exporter ε)} {p p' : Progress ε} {key : String}
  {entry : Entry ε} {inventory : Inventory ε} {entries : List (String × Entry ε)}
  {r : Except SaveError Unit} {e : SaveError} {fs : FileSystem}

theorem isExecutable_of_content {executable : ε} (h : entry.content = .executable executable) :
    entry.isExecutable = true := by
  rw [Entry.isExecutable, h]
  rfl

theorem entryFault?_eq_none_iff {hasExporter : Bool} :
    entryFault? hasExporter key entry = none ↔
      PathFault.of? key = none ∧ (entry.isExecutable = true → hasExporter = true) := by
  unfold entryFault?
  cases PathFault.of? key with
  | some fault => simp
  | none => cases entry.isExecutable <;> cases hasExporter <;> simp

/-- Saving starts only where every key is without fault and no exporter is missing. -/
theorem fault?_eq_none_iff {hasExporter : Bool} :
    inventory.fault? hasExporter = none ↔ ∀ key entry, (key, entry) ∈ inventory.entries →
      PathFault.of? key = none ∧ (entry.isExecutable = true → hasExporter = true) := by
  unfold fault?
  rw [List.findSome?_eq_none_iff]
  constructor
  · intro h key entry hmem
    exact entryFault?_eq_none_iff.1 (h (key, entry) hmem)
  · rintro h ⟨key, entry⟩ hmem
    exact entryFault?_eq_none_iff.2 (h key entry hmem)

/-! ## One entry -/

theorem makeRoom_eq (fs : FileSystem) (path : Path) :
    (makeRoom fs path).1 = (fs.makeLine path.around).1 := by
  unfold makeRoom Path.around
  cases path.parent? with
  | none => rfl
  | some parent =>
    have hline : fs.makeLine parent.lineage = fs.makeDirectories parent := rfl
    simp only [Option.elim_some, hline]
    cases fs.makeDirectories parent with
    | mk made result => cases result <;> rfl

theorem makeRoom_error {made : FileSystem} {path : Path}
    (h : makeRoom fs path = (made, .error e)) :
    ∃ parent cause, path.parent? = some parent ∧ e = .writeFailed parent cause := by
  unfold makeRoom at h
  split at h
  · cases h
  · next parent hparent =>
    split at h
    · cases h
    · next cause _ =>
      cases h
      exact ⟨parent, cause, hparent, rfl⟩

theorem grows_makeRoom {made : FileSystem} {path : Path} {room : Except SaveError Unit}
    (h : makeRoom fs path = (made, room)) : FileSystem.Grows path.around fs made := by
  have hmade : made = (fs.makeLine path.around).1 := by rw [← makeRoom_eq, h]
  rw [hmade]
  exact FileSystem.grows_makeLine fs path.around

/-- What saving one entry can come to. -/
inductive EntryStep (dir : Path) (exporter : Option (Exporter ε)) (p : Progress ε) (key : String)
    (entry : Entry ε) : Progress ε → Except SaveError Unit → Prop
  /-- The directories around the path cannot be made. -/
  | blocked {made : FileSystem} {parent : Path} {cause : IoFailure}
      (hroom : makeRoom p.files (dir.join key) = (made, .error (.writeFailed parent cause)))
      (hparent : (dir.join key).parent? = some parent) :
      EntryStep dir exporter p key entry ⟨made, p.summary, p.calls⟩
        (.error (.writeFailed parent cause))
  /-- The bytes cannot be written. -/
  | refused {made : FileSystem} {bytes : ByteArray} {cause : IoFailure}
      (hroom : makeRoom p.files (dir.join key) = (made, .ok ()))
      (hbytes : entry.content.bytes? = some bytes)
      (hwrite : made.write (dir.join key) bytes = .error cause) :
      EntryStep dir exporter p key entry ⟨made, p.summary, p.calls⟩
        (.error (.writeFailed (dir.join key) cause))
  /-- The bytes are written. -/
  | written {made after : FileSystem} {bytes : ByteArray}
      (hroom : makeRoom p.files (dir.join key) = (made, .ok ()))
      (hbytes : entry.content.bytes? = some bytes)
      (hwrite : made.write (dir.join key) bytes = .ok after) :
      EntryStep dir exporter p key entry
        ⟨after, ⟨p.summary.written ++ [dir.join key], p.summary.exported,
          p.summary.bytesWritten + bytes.size⟩, p.calls⟩ (.ok ())
  /-- There is no exporter. -/
  | skipped {made : FileSystem} {executable : ε}
      (hroom : makeRoom p.files (dir.join key) = (made, .ok ()))
      (hcontent : entry.content = .executable executable) (hnone : exporter = none) :
      EntryStep dir exporter p key entry ⟨made, p.summary, p.calls⟩ (.ok ())
  /-- The exporter fails. -/
  | declined {made left : FileSystem} {executable : ε} {x : Exporter ε} {cause : IoFailure}
      (hroom : makeRoom p.files (dir.join key) = (made, .ok ()))
      (hcontent : entry.content = .executable executable) (hsome : exporter = some x)
      (hexport : x made executable (dir.join key) = (left, .error cause)) :
      EntryStep dir exporter p key entry
        ⟨left, p.summary, p.calls ++ [⟨executable, dir.join key, made, left, .error cause⟩]⟩
        (.error (.exportFailed (dir.join key) cause))
  /-- The exporter succeeds. -/
  | exported {made left : FileSystem} {executable : ε} {x : Exporter ε}
      (hroom : makeRoom p.files (dir.join key) = (made, .ok ()))
      (hcontent : entry.content = .executable executable) (hsome : exporter = some x)
      (hexport : x made executable (dir.join key) = (left, .ok ())) :
      EntryStep dir exporter p key entry
        ⟨left, ⟨p.summary.written, p.summary.exported ++ [dir.join key], p.summary.bytesWritten⟩,
          p.calls ++ [⟨executable, dir.join key, made, left, .ok ()⟩]⟩ (.ok ())

theorem entryStep_writeOut {made : FileSystem} {bytes : ByteArray}
    (hroom : makeRoom p.files (dir.join key) = (made, .ok ()))
    (hbytes : entry.content.bytes? = some bytes)
    (h : writeOut { p with files := made } (dir.join key) bytes = (p', r)) :
    EntryStep dir exporter p key entry p' r := by
  unfold writeOut at h
  split at h
  · next hwrite => cases h; exact .refused hroom hbytes hwrite
  · next hwrite => cases h; exact .written hroom hbytes hwrite

theorem entryStep_exportOut {made : FileSystem} {executable : ε} {x : Exporter ε}
    (hroom : makeRoom p.files (dir.join key) = (made, .ok ()))
    (hcontent : entry.content = .executable executable) (hsome : exporter = some x)
    (h : exportOut x { p with files := made } (dir.join key) executable = (p', r)) :
    EntryStep dir exporter p key entry p' r := by
  unfold exportOut at h
  cases hexport : x made executable (dir.join key) with
  | mk left result =>
    simp only [hexport] at h
    cases result with
    | error cause => cases h; exact .declined hroom hcontent hsome hexport
    | ok => cases h; exact .exported hroom hcontent hsome hexport

theorem entryStep (h : saveEntry dir exporter p key entry = (p', r)) :
    EntryStep dir exporter p key entry p' r := by
  unfold saveEntry at h
  simp only at h
  split at h
  · next hroom =>
    obtain ⟨parent, cause, hparent, rfl⟩ := makeRoom_error hroom
    cases h
    exact .blocked hroom hparent
  · next made hroom =>
    split at h
    · next hcontent => exact entryStep_writeOut hroom (by rw [hcontent]; rfl) h
    · next hcontent => exact entryStep_writeOut hroom (by rw [hcontent]; rfl) h
    · next hcontent =>
      split at h
      · cases h; exact .skipped hroom hcontent rfl
      · exact entryStep_exportOut hroom hcontent rfl h

/-! ## Several entries -/

section Cons

-- otherwise the two sides are compared through the whole of one step
attribute [local irreducible] saveEntry

theorem saveEntries_cons :
    saveEntries dir exporter p ((key, entry) :: entries) =
      match saveEntry dir exporter p key entry with
      | (p', .error e) => (p', .error e)
      | (p', .ok ()) => saveEntries dir exporter p' entries := rfl

end Cons

theorem saveEntries_append (a b : List (String × Entry ε)) :
    saveEntries dir exporter p (a ++ b) = match saveEntries dir exporter p a with
      | (p', .error e) => (p', .error e)
      | (p', .ok ()) => saveEntries dir exporter p' b := by
  induction a generalizing p with
  | nil => rfl
  | cons first rest ih =>
    obtain ⟨key, entry⟩ := first
    rw [List.cons_append, saveEntries_cons, saveEntries_cons]
    cases saveEntry dir exporter p key entry with
    | mk p' result =>
      cases result with
      | error e => rfl
      | ok => exact ih

theorem saveEntries_append_ok {a b : List (String × Entry ε)} :
    saveEntries dir exporter p (a ++ b) = (p', .ok ()) ↔ ∃ mid,
      saveEntries dir exporter p a = (mid, .ok ()) ∧
      saveEntries dir exporter mid b = (p', .ok ()) := by
  rw [saveEntries_append]
  cases saveEntries dir exporter p a with
  | mk mid result => cases result <;> simp

theorem saveEntries_singleton :
    saveEntries dir exporter p [(key, entry)] = saveEntry dir exporter p key entry := by
  rw [saveEntries_cons]
  cases saveEntry dir exporter p key entry with
  | mk p' result => cases result <;> rfl

/-- A run that fails has saved some entries and fails at the next. -/
theorem saveEntries_split (h : saveEntries dir exporter p entries = (p', .error e)) :
    ∃ done key entry rest mid, entries = done ++ (key, entry) :: rest ∧
      saveEntries dir exporter p done = (mid, .ok ()) ∧
      saveEntry dir exporter mid key entry = (p', .error e) := by
  induction entries generalizing p with
  | nil => cases h
  | cons first rest ih =>
    obtain ⟨key, entry⟩ := first
    rw [saveEntries_cons] at h
    split at h
    · next hfirst =>
      cases h
      exact ⟨[], key, entry, rest, p, rfl, rfl, hfirst⟩
    · next p₁ hfirst =>
      obtain ⟨done, key', entry', rest', mid, rfl, hdone, hfail⟩ := ih h
      refine ⟨(key, entry) :: done, key', entry', rest', mid, rfl, ?_, hfail⟩
      rw [saveEntries_cons, hfirst]
      exact hdone

/-- What each entry preserves, told of the entries saved so far, holds after all of them. -/
theorem saveEntries_induction {I : List (String × Entry ε) → Progress ε → Prop}
    (hstart : I [] p)
    (hstep : ∀ done key entry rest mid after, entries = done ++ (key, entry) :: rest →
      I done mid → saveEntry dir exporter mid key entry = (after, .ok ()) →
      I (done ++ [(key, entry)]) after)
    (h : saveEntries dir exporter p entries = (p', .ok ())) : I entries p' := by
  suffices hrun : ∀ rest done mid, entries = done ++ rest → I done mid →
      saveEntries dir exporter mid rest = (p', .ok ()) → I entries p' from
    hrun entries [] p rfl hstart h
  intro rest
  induction rest with
  | nil =>
    intro done mid hsplit hmid hrun
    cases hrun
    rw [hsplit, List.append_nil]
    exact hmid
  | cons first rest ih =>
    obtain ⟨key, entry⟩ := first
    intro done mid hsplit hmid hrun
    rw [saveEntries_cons] at hrun
    split at hrun
    · cases hrun
    · next after hfirst =>
      refine ih (done ++ [(key, entry)]) after ?_ ?_ hrun
      · rw [hsplit, List.append_assoc]
        rfl
      · exact hstep done key entry rest mid after hsplit hmid hfirst

/-! ## All of it -/

theorem save_of_fault (h : inventory.fault? exporter.isSome = some e) :
    inventory.save fs dir exporter = ⟨.error e, fs, [], []⟩ := by
  rw [save, h]

theorem save_of_error (hfault : inventory.fault? exporter.isSome = none)
    (h : saveEntries dir exporter ⟨fs, .nothing, []⟩ inventory.entries = (p, .error e)) :
    inventory.save fs dir exporter = ⟨.error e, p.files, p.calls, []⟩ := by
  rw [save, hfault]
  simp only [h]

theorem save_of_ok (hfault : inventory.fault? exporter.isSome = none)
    (h : saveEntries dir exporter ⟨fs, .nothing, []⟩ inventory.entries = (p, .ok ())) :
    inventory.save fs dir exporter = ⟨.ok p.summary, p.files, p.calls,
      [.saved dir p.summary.written.length p.summary.exported.length p.summary.bytesWritten]⟩ := by
  rw [save, hfault]
  simp only [h]

/-- An inventory is saved when it has no fault and the run over its entries succeeds. -/
theorem save_answer_ok {summary : Summary}
    (h : (inventory.save fs dir exporter).answer = .ok summary) :
    inventory.fault? exporter.isSome = none ∧ ∃ p,
      saveEntries dir exporter ⟨fs, .nothing, []⟩ inventory.entries = (p, .ok ()) ∧
      p.summary = summary ∧ (inventory.save fs dir exporter).files = p.files := by
  cases hfault : inventory.fault? exporter.isSome with
  | some e =>
    rw [save_of_fault hfault] at h
    cases h
  | none =>
    cases hrun : saveEntries dir exporter ⟨fs, .nothing, []⟩ inventory.entries with
    | mk p result =>
      cases result with
      | error e =>
        rw [save_of_error hfault hrun] at h
        cases h
      | ok =>
        rw [save_of_ok hfault hrun] at h ⊢
        exact ⟨rfl, p, rfl, Except.ok.inj h, rfl⟩

end Inventory

/-! ## Exporters -/

namespace Exporter

/-- The exporter changes nothing but the file at the path that it is given. -/
def Confined (x : Exporter ε) : Prop :=
  ∀ fs executable path, (x fs executable path).1.working = fs.working ∧
    ∀ loc, (x fs executable path).1.tree.lookup loc ≠ fs.tree.lookup loc →
      fs.Names path loc ∧ fs.tree.lookup loc ≠ some .directory

/-- Where the exporter succeeds, it has written some bytes to the path and done nothing else. -/
def Deposits (x : Exporter ε) : Prop :=
  ∀ fs executable path left, x fs executable path = (left, .ok ()) →
    ∃ bytes, fs.write path bytes = .ok left

/-- The exporter that writes the bytes of an executable, if it has any. -/
def writing (bytes? : ε → Except IoFailure ByteArray) : Exporter ε := fun fs executable path =>
  match bytes? executable with
  | .error cause => (fs, .error cause)
  | .ok bytes =>
    match fs.write path bytes with
    | .error cause => (fs, .error cause)
    | .ok left => (left, .ok ())

theorem Confined.alters {x : Exporter ε} (hx : x.Confined) (fs : FileSystem) (executable : ε)
    (path : Path) : FileSystem.Alters [path] fs (x fs executable path).1 := by
  obtain ⟨hw, hchanged⟩ := hx fs executable path
  exact FileSystem.alters_of_names hw hchanged

theorem deposits_writing (bytes? : ε → Except IoFailure ByteArray) : (writing bytes?).Deposits := by
  intro fs executable path left h
  unfold writing at h
  split at h
  · cases h
  · next bytes _ =>
    split at h
    · cases h
    · next hwrite =>
      cases h
      exact ⟨bytes, hwrite⟩

theorem confined_writing (bytes? : ε → Except IoFailure ByteArray) :
    (writing bytes?).Confined := by
  intro fs executable path
  unfold writing
  split
  · exact ⟨rfl, fun loc h => absurd rfl h⟩
  · split
    · exact ⟨rfl, fun loc h => absurd rfl h⟩
    · next hwrite => exact FileSystem.write_changes hwrite

end Exporter

namespace Inventory

variable {dir : Path} {exporter : Option (Exporter ε)} {p p' : Progress ε} {key : String}
  {entry : Entry ε} {inventory : Inventory ε} {entries : List (String × Entry ε)}
  {r : Except SaveError Unit} {fs : FileSystem}

/-! ## What a run alters -/

/-- Where the exporter succeeds for one of these entries, it alters what the path names and no
more. -/
def Tidy (exporter : Option (Exporter ε)) (entries : List (String × Entry ε)) : Prop :=
  ∀ x ∈ exporter, ∀ e ∈ entries, ∀ executable, e.2.content = .executable executable →
    ∀ found path left, x found executable path = (left, .ok ()) →
      FileSystem.Alters [path] found left

theorem Tidy.subset {more : List (String × Entry ε)} (h : Tidy exporter more)
    (hsub : entries ⊆ more) : Tidy exporter entries :=
  fun x hx e he => h x hx e (hsub he)

theorem tidy_of_confined (hx : ∀ x ∈ exporter, x.Confined) : Tidy exporter entries := by
  intro x hsome e he executable hcontent found path left hleft
  have halters := (hx x hsome).alters found executable path
  rw [hleft] at halters
  exact halters

theorem tidy_of_deposits
    (hx : ∀ e ∈ entries, e.2.isExecutable = true → ∀ x ∈ exporter, x.Deposits) :
    Tidy exporter entries := by
  intro x hsome e he executable hcontent found path left hleft
  have hexec : e.2.isExecutable = true := isExecutable_of_content hcontent
  obtain ⟨bytes, hwrite⟩ := hx e he hexec x hsome found executable path left hleft
  exact FileSystem.alters_write hwrite

/-- One entry that is saved alters what its path names. -/
theorem EntryStep.alters (h : EntryStep dir exporter p key entry p' (.ok ()))
    (hx : Tidy exporter [(key, entry)]) : FileSystem.Alters [dir.join key] p.files p'.files := by
  cases h with
  | written hroom hbytes hwrite =>
    exact (grows_makeRoom hroom).alters.trans (FileSystem.alters_write hwrite)
  | skipped hroom hcontent hnone => exact (grows_makeRoom hroom).alters
  | exported hroom hcontent hsome hexport =>
    refine (grows_makeRoom hroom).alters.trans ?_
    exact hx _ hsome _ (List.mem_singleton_self _) _ hcontent _ _ _ hexport

/-- One entry that fails alters no more, if that holds of the exporter. -/
theorem EntryStep.alters_error {e : SaveError}
    (h : EntryStep dir exporter p key entry p' (.error e)) (hx : ∀ x ∈ exporter, x.Confined) :
    FileSystem.Alters [dir.join key] p.files p'.files := by
  cases h with
  | blocked hroom hparent => exact (grows_makeRoom hroom).alters
  | refused hroom hbytes hwrite => exact (grows_makeRoom hroom).alters
  | @declined made left executable x cause hroom hcontent hsome hexport =>
    have hleft := (hx x hsome).alters made executable (dir.join key)
    rw [hexport] at hleft
    exact (grows_makeRoom hroom).alters.trans hleft

/-- The paths to which entries are saved. -/
def destinations (dir : Path) (entries : List (String × Entry ε)) : List Path :=
  entries.map fun entry => dir.join entry.1

theorem mem_destinations {dest : Path} :
    dest ∈ destinations dir entries ↔ ∃ key entry, (key, entry) ∈ entries ∧ dest = dir.join key := by
  simp [destinations, eq_comm]

theorem destinations_append (a b : List (String × Entry ε)) :
    destinations dir (a ++ b) = destinations dir a ++ destinations dir b := List.map_append

/-- A run that succeeds alters what the paths of its entries name. -/
theorem alters_saveEntries_ok (hx : Tidy exporter entries)
    (h : saveEntries dir exporter p entries = (p', .ok ())) :
    FileSystem.Alters (destinations dir entries) p.files p'.files := by
  refine saveEntries_induction
    (I := fun done mid => FileSystem.Alters (destinations dir done) p.files mid.files)
    (FileSystem.Alters.refl _ _) ?_ h
  intro done key entry rest mid after hsplit hmid hsave
  have htidy : Tidy exporter [(key, entry)] := hx.subset (by simp [hsplit])
  have hone : FileSystem.Alters (destinations dir [(key, entry)]) mid.files after.files :=
    (entryStep hsave).alters htidy
  rw [destinations_append]
  exact (hmid.mono fun dest hd => List.mem_append_left _ hd).trans
    (hone.mono fun dest hd => List.mem_append_right _ hd)

/-- Whatever a run comes to, it alters what the paths of its entries name, if the exporter changes
nothing else. -/
theorem alters_saveEntries (hx : ∀ x ∈ exporter, x.Confined)
    (h : saveEntries dir exporter p entries = (p', r)) :
    FileSystem.Alters (destinations dir entries) p.files p'.files := by
  cases r with
  | ok => exact alters_saveEntries_ok (tidy_of_confined hx) h
  | error e =>
    obtain ⟨done, key, entry, rest, mid, rfl, hdone, hfail⟩ := saveEntries_split h
    have hfirst := alters_saveEntries_ok (tidy_of_confined hx) hdone
    have hlast : FileSystem.Alters (destinations dir [(key, entry)]) mid.files p'.files :=
      (entryStep hfail).alters_error hx
    rw [List.append_cons, destinations_append, destinations_append]
    refine (hfirst.mono fun dest hd => ?_).trans (hlast.mono fun dest hd => ?_)
    · exact List.mem_append_left _ (List.mem_append_left _ hd)
    · exact List.mem_append_left _ (List.mem_append_right _ hd)

theorem alters_save (hx : ∀ x ∈ exporter, x.Confined) :
    FileSystem.Alters (destinations dir inventory.entries) fs
      (inventory.save fs dir exporter).files := by
  cases hfault : inventory.fault? exporter.isSome with
  | some e =>
    rw [save_of_fault hfault]
    exact FileSystem.Alters.refl _ fs
  | none =>
    cases hrun : saveEntries dir exporter ⟨fs, .nothing, []⟩ inventory.entries with
    | mk p result =>
      have halters := alters_saveEntries hx hrun
      cases result with
      | error e => rw [save_of_error hfault hrun]; exact halters
      | ok => rw [save_of_ok hfault hrun]; exact halters

end Inventory
end KernelArchive
