import KernelArchive.Proofs.Backend.Entries
import KernelArchive.Proofs.Backend.Readings
import KernelArchive.Proofs.Inventory.Holdings

/-!
# Kernels saved and had back

* `Backend.returned`: what comes back of a kernel.
* `Backend.fetch_of_held`: so it does where a directory holds the inventory of the kernel.
* `Backend.fetch_save`: so it does after a save into an empty directory.
-/

namespace KernelArchive
namespace Backend
set_option autoImplicit false

variable {ε : Type} {b : Backend} {fs origin : FileSystem} {dir : Path} {root : Location}
  {kernel : CompiledKernel ε}

/-- What comes back of a kernel whose required files are kept; `wrapped` tells whether the Python
wrapper is kept as well. -/
def returned (dir : Path) (kernel : CompiledKernel ε) (wrapped : Bool) :
    Backend → Option RestoredKernel
  | tvmFfi => some
    { deviceSource := kernel.deviceSource
      hostSource := nonEmpty kernel.hostSource
      library := dir.join FileName.executable
      pythonWrapper := none
      launcherLibrary := none
      launcherSource := none }
  | nvrtc => some
    { deviceSource := kernel.deviceSource
      hostSource := nonEmpty kernel.hostSource
      library := dir.join FileName.cubin
      pythonWrapper := if wrapped then some (dir.join FileName.python) else none
      launcherLibrary := none
      launcherSource := none }
  | cutedsl => some
    { deviceSource := some ""
      hostSource := some ""
      library := dir.join FileName.python
      pythonWrapper := none
      launcherLibrary := some (dir.join FileName.launcherLibrary)
      launcherSource := nonEmpty kernel.launcherSource }
  | cython | torch => some
    { deviceSource := kernel.deviceSource
      hostSource := nonEmpty kernel.hostSource
      library := dir.join FileName.sharedLibrary
      pythonWrapper := none
      launcherLibrary := none
      launcherSource := none }
  | legacy => none

/-! ## Sources -/

theorem tryText_kept {name : String} {source : Option String} {entryOf : String → Entry ε}
    (h : Inventory.Held fs dir (b.inventory origin kernel).value) (hname : Path.Plain name)
    (hget : (b.inventory origin kernel).value.get? name = source.map entryOf)
    (htext : ∀ text, (entryOf text).content = .text text) :
    (fs.tryText (dir.join name)).value = source := by
  have hcontent : ∀ text, (entryOf text).content.text? = some text := by
    intro text
    rw [htext]
    rfl
  rw [h.tryText hname, hget]
  · cases source with
    | none => rfl
    | some text => exact hcontent text
  · intro entry hentry
    rw [hget] at hentry
    obtain ⟨text, -, rfl⟩ := Option.map_eq_some_iff.1 hentry
    rw [hcontent]
    rfl

theorem tryText_device {kind : SourceKind} {description : String}
    (h : Inventory.Held fs dir (b.inventory origin kernel).value)
    (hdevice : (FileName.device kind, deviceEntry kernel kind description) ∈
      b.table origin kernel) :
    (fs.tryText (dir.join (FileName.device kind))).value = kernel.deviceSource :=
  tryText_kept h (plain_device kind) (get?_inventory hdevice) fun _ => rfl

theorem tryText_host (h : Inventory.Held fs dir (b.inventory origin kernel).value)
    (hhost : (FileName.host, hostEntry kernel) ∈ b.table origin kernel) :
    (fs.tryText (dir.join FileName.host)).value = nonEmpty kernel.hostSource :=
  tryText_kept h plain_host (get?_inventory hhost) fun _ => rfl

theorem findSome?_of_unique {α β : Type} {f : α → Option β} {a : α} {l : List α} (hmem : a ∈ l)
    (hothers : ∀ x, x ≠ a → f x = none) : l.findSome? f = f a := by
  induction l with
  | nil => cases hmem
  | cons x rest ih =>
    rw [List.findSome?_cons]
    by_cases hx : x = a
    · subst hx
      cases hfx : f x with
      | some v => rfl
      | none =>
        refine List.findSome?_eq_none_iff.2 fun y _ => ?_
        by_cases hy : y = x
        · rw [hy, hfx]
        · exact hothers y hy
    · rw [hothers x hx]
      exact ih ((List.mem_cons.1 hmem).resolve_left (Ne.symm hx))

/-- Whatever its kind, the device source is the first that is found. -/
theorem findSome?_device {description : String}
    (h : Inventory.Held fs dir (torch.inventory origin kernel).value)
    (hdevice : (FileName.device (SourceKind.ofTarget kernel.target),
      deviceEntry kernel (SourceKind.ofTarget kernel.target) description) ∈
        torch.table origin kernel) :
    (SourceKind.probeOrder.findSome? fun kind =>
      (fs.tryText (dir.join (FileName.device kind))).value) = kernel.deviceSource := by
  have hnames : ∀ kind stored, kind ≠ stored → FileName.device kind ∉ torch.names stored := by
    intro kind stored
    cases kind <;> cases stored <;> decide
  have hothers : ∀ kind, kind ≠ SourceKind.ofTarget kernel.target →
      (fs.tryText (dir.join (FileName.device kind))).value = none := by
    intro kind hkind
    have hget : (torch.inventory origin kernel).value.get? (FileName.device kind) =
        none.map (Entry.ofText "") := get?_inventory_eq_none (hnames kind _ hkind)
    exact tryText_kept h (plain_device kind) hget fun _ => rfl
  have hprobed : SourceKind.ofTarget kernel.target ∈ SourceKind.probeOrder := by
    cases SourceKind.ofTarget kernel.target <;> decide
  exact (findSome?_of_unique hprobed hothers).trans (tryText_device h hdevice)

/-! ## Kernels -/

theorem isComplete_of_held (h : Inventory.Held fs dir (b.inventory origin kernel).value) :
    (b.scheme : Scheme ε).isComplete fs dir =
      b.requiredFiles.all (b.inventory origin kernel).value.contains := by
  rw [Bool.eq_iff_iff, isComplete_iff, List.all_eq_true]
  exact forall₂_congr fun name hname => by rw [h.present (plain_of_required hname)]

/-- Of the texts in a directory that holds the inventory of a kernel, the kernel is put together as
it was. -/
theorem assembled_of_held (h : Inventory.Held fs dir (b.inventory origin kernel).value)
    (wrapped : Bool) :
    b.assembled dir (fun name => (fs.tryText (dir.join name)).value) wrapped =
      b.returned dir kernel wrapped := by
  cases b with
  | tvmFfi | nvrtc | cython =>
    have hdevice := tryText_device h List.mem_cons_self
    rw [assembled, hdevice, tryText_host h (by simp [table]), returned]
  | cutedsl =>
    have hget : (cutedsl.inventory origin kernel).value.get? FileName.launcherSource =
        launcherEntry kernel := get?_inventory (by simp [table])
    rw [assembled, tryText_kept h plain_launcherSource hget fun _ => rfl, returned]
  | torch =>
    have hdevice := findSome?_device h List.mem_cons_self
    rw [assembled, hdevice, tryText_host h (by simp [table]), returned]
  | legacy => rfl

/-- Where a directory holds the inventory of a kernel, the kernel is found if all its required
files are there. -/
theorem fetch_of_held (h : Inventory.Held fs dir (b.inventory origin kernel).value) :
    ((b.scheme : Scheme ε).fetch fs dir).value =
      if b.requiredFiles.all (b.inventory origin kernel).value.contains then
        b.returned dir kernel ((b.inventory origin kernel).value.contains FileName.python)
      else none := by
  rw [value_fetch, isComplete_of_held h, assembled_of_held h, h.present plain_python]

/-- What comes back is put together of the texts of the kernel. -/
theorem assembled_eq_returned (b : Backend) (dir : Path) (kernel : CompiledKernel ε)
    (wrapped : Bool) : ∃ text, b.assembled dir text wrapped = b.returned dir kernel wrapped := by
  refine ⟨fun name => if name = FileName.host then nonEmpty kernel.hostSource
    else if name = FileName.launcherSource then nonEmpty kernel.launcherSource
    else kernel.deviceSource, ?_⟩
  cases b with
  | torch =>
    rw [assembled, returned]
    cases kernel.deviceSource <;> rfl
  | _ => rfl

theorem isSome_returned {wrapped : Bool} (hb : b ≠ .legacy) :
    (b.returned dir kernel wrapped).isSome = true := by
  obtain ⟨text, htext⟩ := assembled_eq_returned b dir kernel wrapped
  rw [← htext]
  exact isSome_assembled hb dir text wrapped

/-- All paths of a kernel that comes back are those of files in its inventory. -/
theorem artifacts_returned {inventory : Inventory ε} {restored : RestoredKernel}
    (hcomplete : b.requiredFiles.all inventory.contains = true)
    (h : b.returned dir kernel (inventory.contains FileName.python) = some restored) :
    ∀ path ∈ restored.artifacts, ∃ key ∈ inventory.keys, path = dir.join key := by
  intro path hpath
  obtain ⟨text, htext⟩ := assembled_eq_returned b dir kernel (inventory.contains FileName.python)
  obtain ⟨name, rfl, hname | ⟨rfl, hwrapped⟩⟩ := mem_artifacts (htext.trans h) hpath
  · exact ⟨name, (inventory.contains_iff name).1 (List.all_eq_true.1 hcomplete name hname), rfl⟩
  · exact ⟨_, (inventory.contains_iff _).1 hwrapped, rfl⟩

/-- A kernel saved into an empty directory comes back if all its required files were kept, and then
as it was: every file has its bytes, and every path is that of a file that was kept. -/
theorem fetch_save (b : Backend) (origin fs : FileSystem) (kernel : CompiledKernel ε) (dir : Path)
    (exporter : Option (Exporter ε)) {summary : Summary} (hroot : fs.Opens dir root)
    (hempty : ∀ name, fs.tree.lookup (root ++ [name]) = none)
    (hx : b = .tvmFfi → ∀ x ∈ exporter, x.Deposits)
    (hok : ((b.inventory origin kernel).value.save fs dir exporter).answer = .ok summary) :
    let inventory := (b.inventory origin kernel).value
    let after := (inventory.save fs dir exporter).files
    let fetched := ((b.scheme : Scheme ε).fetch after dir).value
    (b ≠ .legacy →
      (fetched.isSome = true ↔ ∀ name ∈ b.requiredFiles, name ∈ inventory.keys)) ∧
    fetched = (if b.requiredFiles.all inventory.contains then
      b.returned dir kernel (inventory.contains FileName.python) else none) ∧
    (∀ key entry, inventory.get? key = some entry →
      ∃ bytes, after.node? (dir.join key) = some (.file bytes) ∧ entry.content.SavedAs bytes) ∧
    ∀ restored, fetched = some restored →
      ∀ path ∈ restored.artifacts, ∃ key ∈ inventory.keys, path = dir.join key := by
  intro inventory after fetched
  have hheld : Inventory.Held after dir inventory := by
    refine Inventory.held_of_save (fun key hkey => plain_of_inventory hkey) hroot hempty ?_ hok
    intro key entry hget hexec
    exact hx (isExecutable_inventory hget hexec)
  have hfetched : fetched = if b.requiredFiles.all inventory.contains then
      b.returned dir kernel (inventory.contains FileName.python) else none := fetch_of_held hheld
  have hall : b.requiredFiles.all inventory.contains = true ↔
      ∀ name ∈ b.requiredFiles, name ∈ inventory.keys := by
    rw [List.all_eq_true]
    exact forall₂_congr fun name _ => inventory.contains_iff name
  refine ⟨fun hb => ?_, hfetched, hheld.kept, fun restored hrestored => ?_⟩
  · rw [hfetched, ← hall]
    split
    · next hyes => exact iff_of_true (isSome_returned hb) hyes
    · next hno => exact iff_of_false Bool.false_ne_true hno
  · rw [hfetched] at hrestored
    split at hrestored
    · next hyes => exact artifacts_returned hyes hrestored
    · cases hrestored

/-- An empty device source comes back as empty, beside the executable. -/
theorem fetch_save_exported :
    let fs : FileSystem := ⟨FileTree.empty.put [] "c" .directory, []⟩
    let kernel : CompiledKernel ByteArray :=
      ⟨some "", some "h", none, none, none, none, some "e".toUTF8⟩
    let exporter : Exporter ByteArray := Exporter.writing .ok
    exporter.Deposits ∧
      ((tvmFfi.scheme : Scheme ByteArray).fetch ((tvmFfi.inventory fs kernel).value.save fs ⟨"c"⟩
        (some exporter)).files ⟨"c"⟩).value =
        some ⟨some "", some "h", ⟨"c/executable.so"⟩, none, none, none⟩ := by
  intro fs kernel exporter
  have hx : exporter.Deposits := Exporter.deposits_writing _
  have hroot : fs.Opens ⟨"c"⟩ ["c"] :=
    ⟨by decide +kernel, FileTree.hasDirectory_iff.1 (by decide +kernel)⟩
  have hadmits : FileTree.empty.admits [] "c" .directory = true := by decide +kernel
  have hempty : ∀ name, fs.tree.lookup (["c"] ++ [name]) = none := by
    intro name
    show (FileTree.empty.put [] "c" .directory).lookup _ = none
    rw [FileTree.lookup_put hadmits]
    simp
  have hok : ((tvmFfi.inventory fs kernel).value.save fs ⟨"c"⟩ (some exporter)).answer =
      .ok ⟨[⟨"c/device_kernel.cu"⟩, ⟨"c/host_kernel.cu"⟩], [⟨"c/executable.so"⟩], 1⟩ := by
    decide +kernel
  have hfetched := (fetch_save tvmFfi fs fs kernel ⟨"c"⟩ (some exporter) hroot hempty
    (fun _ x h => Option.some.inj h ▸ hx) hok).2.1
  refine ⟨hx, hfetched.trans ?_⟩
  decide +kernel

end Backend
end KernelArchive
