import KernelArchive.Proofs.Backend.Entries
import KernelArchive.Proofs.Backend.Readings
import KernelArchive.Proofs.Inventory.Succession

/-!
# One directory for several kernels

* `Backend.sourceFiles`: the files that are kept as texts, with `Backend.tryText_of_last`.
* `Backend.fetch_saveInTurn`: what comes back of kernels that were saved one after the other. Each
  file is that of the last kernel that had it, also where a later kernel has none.
-/

namespace KernelArchive
namespace Backend
set_option autoImplicit false

variable {ε : Type} {b : Backend} {fs after : FileSystem} {dir : Path} {kernel : CompiledKernel ε}
  {name : String} {entry : Entry ε} {inventories : List (Inventory ε)} {held : Inventory ε}

/-! ## Sources -/

/-- The files that are kept as texts. -/
def sourceFiles : List String :=
  FileName.host :: FileName.launcherSource :: SourceKind.probeOrder.map FileName.device

theorem device_mem_sourceFiles (kind : SourceKind) : FileName.device kind ∈ sourceFiles := by
  cases kind <;> decide

theorem plain_of_source (h : name ∈ sourceFiles) : Path.Plain name := by
  simp only [sourceFiles, List.mem_cons, List.mem_map] at h
  rcases h with rfl | rfl | ⟨kind, -, rfl⟩
  · exact plain_host
  · exact plain_launcherSource
  · exact plain_device kind

/-- Whatever is kept under this name is a text, if it is the name of a source. -/
def Textual (name : String) (o : Option (Entry ε)) : Prop :=
  name ∈ sourceFiles → ∀ entry ∈ o, entry.content.text?.isSome = true

theorem textual_map {source : Option String} {entryOf : String → Entry ε}
    (htext : ∀ text, (entryOf text).content = .text text) :
    Textual name (source.map entryOf) := fun _ => forall_mem_map fun text => by
  rw [htext]
  rfl

theorem textual_of_other {o : Option (Entry ε)} (h : name ∉ sourceFiles) : Textual name o :=
  fun hname => absurd hname h

theorem table_textual : ∀ x ∈ b.table fs kernel, Textual x.1 x.2 := by
  have hdevice : ∀ kind description, Textual (FileName.device kind)
      (deviceEntry kernel kind description) := fun _ _ => textual_map fun _ => rfl
  have hhost : Textual FileName.host (hostEntry kernel) := textual_map fun _ => rfl
  have hlauncher : Textual FileName.launcherSource (launcherEntry kernel) :=
    textual_map fun _ => rfl
  have hother : ∀ name ∈ [FileName.executable, FileName.cubin, FileName.sharedLibrary,
      FileName.python, FileName.launcherLibrary], name ∉ sourceFiles := by decide
  simp only [List.forall_mem_cons] at hother
  cases b <;> simp [table, hdevice, hhost, hlauncher, textual_of_other, hother]

/-- What a backend keeps under the name of a source is a text. -/
theorem isSome_text_of_inventory (hget : (b.inventory fs kernel).value.get? name = some entry)
    (hname : name ∈ sourceFiles) : entry.content.text?.isSome = true :=
  table_textual _ (mem_table_of_get? hget) hname entry rfl

/-! ## The last kernels -/

theorem isSome_text_of_last
    (hmade : ∀ m ∈ inventories, ∃ origin kernel, m = (b.inventory origin kernel).value)
    (hget : Inventory.last? inventories name = some entry) (hname : name ∈ sourceFiles) :
    entry.content.text?.isSome = true := by
  obtain ⟨m, hmem, hkept⟩ := Inventory.get?_of_last? hget
  obtain ⟨origin, kernel, rfl⟩ := hmade m hmem
  exact isSome_text_of_inventory hkept hname

theorem tryText_of_last (h : Inventory.Held after dir held)
    (hlast : ∀ key, held.get? key = Inventory.last? inventories key)
    (hmade : ∀ m ∈ inventories, ∃ origin kernel, m = (b.inventory origin kernel).value)
    (hname : name ∈ sourceFiles) :
    (after.tryText (dir.join name)).value = Inventory.lastText inventories name := by
  rw [h.tryText (plain_of_source hname), hlast, Inventory.lastText]
  intro entry hget
  rw [hlast] at hget
  exact isSome_text_of_last hmade hget hname

theorem present_of_last (h : Inventory.Held after dir held)
    (hlast : ∀ key, held.get? key = Inventory.last? inventories key) (hname : Path.Plain name) :
    after.present (dir.join name) = true ↔ ∃ m ∈ inventories, name ∈ m.keys := by
  rw [h.present hname, OrderedMap.contains, hlast, Inventory.isSome_last?]

theorem isSome_lastText
    (hmade : ∀ m ∈ inventories, ∃ origin kernel, m = (b.inventory origin kernel).value)
    (hname : name ∈ sourceFiles) : (Inventory.lastText inventories name).isSome =
      inventories.any (·.contains name) := by
  rw [Bool.eq_iff_iff, List.any_eq_true]
  simp only [OrderedMap.contains_iff]
  rw [← Inventory.isSome_last?, Inventory.lastText]
  cases hget : Inventory.last? inventories name with
  | none => simp
  | some entry => exact iff_of_true (isSome_text_of_last hmade hget hname) rfl

/-- The first that comes to something is the first that is said to. -/
theorem findSome?_eq_bind_find? {α β : Type} {f : α → Option β} {p : α → Bool} {l : List α}
    (h : ∀ a ∈ l, (f a).isSome = p a) : l.findSome? f = (l.find? p).bind f := by
  induction l with
  | nil => rfl
  | cons a rest ih =>
    have ha := h a List.mem_cons_self
    rw [List.findSome?_cons, List.find?_cons, ← ha]
    cases hfa : f a with
    | some c => exact hfa.symm
    | none => exact ih fun a' ha' => h a' (List.mem_cons_of_mem a ha')

/-- Kernels saved one after the other into a directory that had none of their files: there is a
kernel if every required file was kept of some of them, and its sources are those that were kept
last. Of device sources of several kinds the first in probe order is taken, whenever it was kept.
Where the code is in a generated module, the sources are empty. -/
theorem fetch_saveInTurn (b : Backend) (fs : FileSystem) (dir : Path)
    (requests : List (Inventory.Request ε)) (hdir : fs.Settled dir)
    (hempty : ∀ name, Path.Plain name → fs.node? (dir.join name) = none)
    (hmade : ∀ r ∈ requests, r.dir = dir ∧
      ∃ origin kernel, r.inventory = (b.inventory origin kernel).value)
    (hx : b = .tvmFfi → ∀ r ∈ requests, ∀ x ∈ r.exporter, x.Deposits)
    (hok : ∀ answer ∈ (Inventory.saveInTurn fs requests).2, ∃ summary, answer = .ok summary) :
    let inventories := requests.map (·.inventory)
    let after := (Inventory.saveInTurn fs requests).1
    let fetched := ((b.scheme : Scheme ε).fetch after dir).value
    (b ≠ .legacy → (fetched.isSome = true ↔
      ∀ name ∈ b.requiredFiles, ∃ m ∈ inventories, name ∈ m.keys)) ∧
    ∀ restored, fetched = some restored →
      (b ≠ .cutedsl → restored.hostSource = Inventory.lastText inventories FileName.host) ∧
      (b = .tvmFfi ∨ b = .nvrtc ∨ b = .cython →
        restored.deviceSource = Inventory.lastText inventories (FileName.device .cuda)) ∧
      (b = .torch → restored.deviceSource =
        (SourceKind.probeOrder.find? fun kind =>
          inventories.any (·.contains (FileName.device kind))).bind fun kind =>
            Inventory.lastText inventories (FileName.device kind)) ∧
      (b = .nvrtc → (restored.pythonWrapper.isSome = true ↔
        ∃ m ∈ inventories, FileName.python ∈ m.keys)) ∧
      (b = .cutedsl → restored.deviceSource = some "" ∧ restored.hostSource = some "" ∧
        restored.launcherSource = Inventory.lastText inventories FileName.launcherSource) := by
  intro inventories after fetched
  have hmade' : ∀ m ∈ inventories, ∃ origin kernel, m = (b.inventory origin kernel).value := by
    intro m hm
    obtain ⟨r, hr, rfl⟩ := List.mem_map.1 hm
    exact (hmade r hr).2
  have hinto : ∀ r ∈ requests, r.Into dir := by
    intro r hr
    obtain ⟨hrdir, origin, kernel, hinventory⟩ := hmade r hr
    refine ⟨hrdir, ?_, ?_⟩
    · rw [hinventory]
      exact fun key hkey => plain_of_inventory hkey
    · rw [hinventory]
      exact fun key entry hget hexec => hx (isExecutable_inventory hget hexec) r hr
  obtain ⟨held, hheld, hlast⟩ := Inventory.held_saveInTurn hdir hempty hinto hok
  have hpresent : ∀ name, Path.Plain name →
      (after.present (dir.join name) = true ↔ ∃ m ∈ inventories, name ∈ m.keys) :=
    fun name hname => present_of_last hheld hlast hname
  have htext : ∀ name ∈ sourceFiles,
      (after.tryText (dir.join name)).value = Inventory.lastText inventories name :=
    fun name hname => tryText_of_last hheld hlast hmade' hname
  refine ⟨fun hb => ?_, fun restored hrestored => ?_⟩
  · rw [isSome_fetch hb]
    exact forall₂_congr fun name hname => hpresent name (plain_of_required hname)
  · obtain ⟨hhost, hdevice, htorch, hwrapper, hmodule⟩ :=
      sources_of_assembled (assembled_of_fetch hrestored)
    have hdevices : (fun kind => (after.tryText (dir.join (FileName.device kind))).value) =
        fun kind => Inventory.lastText inventories (FileName.device kind) :=
      funext fun kind => htext _ (device_mem_sourceFiles kind)
    refine ⟨fun hb => (hhost hb).trans (htext _ (by decide)),
      fun hb => (hdevice hb).trans (htext _ (device_mem_sourceFiles .cuda)), fun hb => ?_,
      fun hb => (hwrapper hb).trans (hpresent _ plain_python), fun hb => ?_⟩
    · rw [htorch hb, hdevices]
      exact findSome?_eq_bind_find? fun kind _ =>
        isSome_lastText hmade' (device_mem_sourceFiles kind)
    · obtain ⟨hempty, hempty', hlauncher⟩ := hmodule hb
      exact ⟨hempty, hempty', hlauncher.trans (htext _ (by decide))⟩

/-- The host source of an earlier kernel stays beside the files of a later one that has none. -/
theorem fetch_saveInTurn_stale :
    let fs : FileSystem := ⟨FileTree.empty, []⟩
    let first : CompiledKernel ByteArray :=
      ⟨some "a", some "h", none, none, none, none, some "1".toUTF8⟩
    let second : CompiledKernel ByteArray :=
      ⟨some "b", none, none, none, none, none, some "2".toUTF8⟩
    let exporter : Exporter ByteArray := Exporter.writing .ok
    let requests : List (Inventory.Request ByteArray) :=
      [⟨⟨"c"⟩, (tvmFfi.inventory fs first).value, some exporter⟩,
        ⟨⟨"c"⟩, (tvmFfi.inventory fs second).value, some exporter⟩]
    let fetched := ((tvmFfi.scheme : Scheme ByteArray).fetch
      (Inventory.saveInTurn fs requests).1 ⟨"c"⟩).value
    fetched.isSome = true ∧ ∀ restored, fetched = some restored →
      restored.hostSource = some "h" ∧ restored.deviceSource = some "b" := by
  intro fs first second exporter requests fetched
  have hx : exporter.Deposits := Exporter.deposits_writing _
  have hempty : ∀ name, Path.Plain name → fs.node? ((⟨"c"⟩ : Path).join name) = none := by
    intro name hname
    refine FileSystem.node?_eq_none ?_
    rw [FileSystem.locate_join_plain fs ⟨"c"⟩ hname]
    exact (FileTree.lookup_empty _).trans (if_neg (by simp))
  have hmade : ∀ r ∈ requests, r.dir = ⟨"c"⟩ ∧
      ∃ origin kernel, r.inventory = (tvmFfi.inventory origin kernel).value := by
    intro r hr
    simp only [requests, List.mem_cons, List.not_mem_nil, or_false] at hr
    rcases hr with rfl | rfl
    · exact ⟨rfl, fs, first, rfl⟩
    · exact ⟨rfl, fs, second, rfl⟩
  have hexporters : ∀ r ∈ requests, ∀ x ∈ r.exporter, x.Deposits := by
    intro r hr x hsome
    simp only [requests, List.mem_cons, List.not_mem_nil, or_false] at hr
    rcases hr with rfl | rfl
    · exact Option.some.inj hsome ▸ hx
    · exact Option.some.inj hsome ▸ hx
  have hanswers : (Inventory.saveInTurn fs requests).2 =
      [.ok ⟨[⟨"c/device_kernel.cu"⟩, ⟨"c/host_kernel.cu"⟩], [⟨"c/executable.so"⟩], 2⟩,
        .ok ⟨[⟨"c/device_kernel.cu"⟩], [⟨"c/executable.so"⟩], 1⟩] := by decide +kernel
  have hok : ∀ answer ∈ (Inventory.saveInTurn fs requests).2, ∃ summary, answer = .ok summary := by
    rw [hanswers]
    simp
  obtain ⟨hfound, hsources⟩ := fetch_saveInTurn tvmFfi fs ⟨"c"⟩ requests
    (.inr (by decide)) hempty hmade (fun _ => hexporters) hok
  refine ⟨(hfound (by decide)).2 (by decide +kernel), fun restored hrestored => ?_⟩
  obtain ⟨hhost, hdevice, -⟩ := hsources restored hrestored
  exact ⟨(hhost (by decide)).trans (by decide +kernel),
    (hdevice (.inl rfl)).trans (by decide +kernel)⟩

/-- With a generated module there is a host source, though none was ever kept. -/
theorem fetch_saveInTurn_module :
    let fs : FileSystem :=
      ⟨(FileTree.empty.put [] "c" .directory).put [] "l" (.file "l".toUTF8), []⟩
    let kernel : CompiledKernel ByteArray := ⟨none, some "m", none, none, some ⟨"l"⟩, none, none⟩
    let requests : List (Inventory.Request ByteArray) :=
      [⟨⟨"c"⟩, (cutedsl.inventory fs kernel).value, none⟩]
    let fetched := ((cutedsl.scheme : Scheme ByteArray).fetch
      (Inventory.saveInTurn fs requests).1 ⟨"c"⟩).value
    (∀ name, fs.tree.lookup ["c", name] = none) ∧
      (Inventory.saveInTurn fs requests).2 =
        [.ok ⟨[⟨"c/kernel.py"⟩, ⟨"c/launcher_lib.so"⟩], [], 2⟩] ∧
      Inventory.lastText (requests.map (·.inventory)) FileName.host = none ∧
      fetched = some ⟨some "", some "", ⟨"c/kernel.py"⟩, none, some ⟨"c/launcher_lib.so"⟩, none⟩ := by
  intro fs kernel requests fetched
  have hdir : FileTree.empty.admits [] "c" .directory = true := by decide +kernel
  have hfile : (FileTree.empty.put [] "c" .directory).admits [] "l" (.file "l".toUTF8) = true := by
    decide +kernel
  refine ⟨fun name => ?_, by decide +kernel, by decide +kernel, by decide +kernel⟩
  show ((FileTree.empty.put [] "c" .directory).put [] "l" (.file "l".toUTF8)).lookup _ = none
  rw [FileTree.lookup_put hfile, FileTree.lookup_put hdir]
  simp

end Backend
end KernelArchive
