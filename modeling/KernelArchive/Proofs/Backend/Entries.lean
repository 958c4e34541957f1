import Mathlib.Data.List.Nodup
import KernelArchive.Backend.Inventory
import KernelArchive.Inventory.PathFault
import KernelArchive.Proofs.FileSystem.PlainNames

/-!
# The entries of each backend by name

* `Backend.table`: what a backend asks for, each with the name under which it is kept. It lists
  the entries of the backend (`entries_eq_table`) under the names of `Backend.names`.
* `Backend.Filed`: what holds of the entry that a backend keeps under a name, for every row of the
  table (`table_filed`) and so for every entry of an inventory (`filed_inventory`).
* `Backend.get?_inventory`: the inventory answers a name as the table does.
-/

namespace KernelArchive
set_option autoImplicit false

variable {ε : Type}

/-! ## Inventories from lists -/

namespace Inventory

variable {es : List (Entry ε)} {name : String} {entry : Entry ε} {o : Option (Entry ε)}
  {table : List (String × Option (Entry ε))}

theorem get?_ofEntries_eq_none (h : ∀ entry ∈ es, entry.path ≠ name) :
    (ofEntries es).get? name = none := by
  refine OrderedMap.get?_ofList_of_ne fun p hp => ?_
  obtain ⟨entry, hentry, rfl⟩ := List.mem_map.1 hp
  exact h entry hentry

theorem get?_ofEntries_eq_some (hmem : entry ∈ es)
    (h : ∀ other ∈ es, other.path = entry.path → other = entry) :
    (ofEntries es).get? entry.path = some entry := by
  refine OrderedMap.get?_ofList_of_mem (List.mem_map.2 ⟨entry, hmem, rfl⟩) fun p hp hpath => ?_
  obtain ⟨other, hother, rfl⟩ := List.mem_map.1 hp
  exact h other hother hpath

/-- Of named entries, no name given twice, each is found under its name. -/
theorem get?_of_table (hnamed : ∀ x ∈ table, ∀ entry ∈ x.2, entry.path = x.1)
    (hnodup : (table.map (·.1)).Nodup) (hmem : (name, o) ∈ table) :
    (ofEntries ((table.map (·.2)).filterMap id)).get? name = o := by
  have hfrom : ∀ entry, entry ∈ (table.map (·.2)).filterMap id →
      (entry.path, some entry) ∈ table := by
    intro entry hentry
    obtain ⟨o', ho', rfl⟩ : ∃ o', o' ∈ table.map (·.2) ∧ o' = some entry := by simpa using hentry
    obtain ⟨⟨name', o'⟩, hx, rfl⟩ := List.mem_map.1 ho'
    rw [hnamed _ hx entry rfl]
    exact hx
  -- an entry of this name stands in the one row of the name
  have hsame : ∀ entry, entry ∈ (table.map (·.2)).filterMap id → entry.path = name →
      some entry = o := by
    rintro entry hentry rfl
    exact congrArg Prod.snd (List.inj_on_of_nodup_map hnodup (hfrom entry hentry) hmem rfl)
  cases o with
  | none =>
    refine get?_ofEntries_eq_none fun entry hentry hpath => ?_
    cases hsame entry hentry hpath
  | some entry =>
    have hpath : entry.path = name := hnamed _ hmem entry rfl
    rw [← hpath]
    refine get?_ofEntries_eq_some ?_ fun other hother hpath' => ?_
    · simpa using ⟨name, hmem⟩
    · exact Option.some.inj (hsame other hother (hpath'.trans hpath))

theorem get?_not_in_table (hnamed : ∀ x ∈ table, ∀ entry ∈ x.2, entry.path = x.1)
    (hname : name ∉ table.map (·.1)) :
    (ofEntries ((table.map (·.2)).filterMap id)).get? name = none := by
  refine get?_ofEntries_eq_none fun entry hentry hpath => hname ?_
  obtain ⟨name', hx⟩ : ∃ name', (name', some entry) ∈ table := by simpa using hentry
  rw [← hpath, hnamed _ hx entry rfl]
  exact List.mem_map.2 ⟨_, hx, rfl⟩

end Inventory

/-! ## Tables of entries -/

/-- How a file with this content is opened for writing. -/
def Content.mode : Content ε → OpenMode
  | .text _ => .text
  | .binary _ => .binary
  | .executable _ => .binary

namespace Backend

variable {b : Backend} {fs : FileSystem} {kernel : CompiledKernel ε} {name : String}
  {o : Option (Entry ε)} {entry : Entry ε}

/-- What a backend asks for, each with the name under which it is kept. -/
def table (fs : FileSystem) (kernel : CompiledKernel ε) : Backend → List (String × Option (Entry ε))
  | tvmFfi =>
    [(FileName.device .cuda, deviceEntry kernel .cuda deviceDescription),
      (FileName.host, hostEntry kernel), (FileName.executable, executableEntry kernel)]
  | nvrtc =>
    [(FileName.device .cuda, deviceEntry kernel .cuda deviceDescription),
      (FileName.host, hostEntry kernel),
      (FileName.cubin, (libraryEntry fs kernel.library FileName.cubin "Compiled CUBIN").value),
      (FileName.python, (wrapperEntry fs kernel.library).value)]
  | cutedsl =>
    [(FileName.python, moduleEntry kernel),
      (FileName.launcherLibrary, (libraryEntry fs kernel.launcherLibrary FileName.launcherLibrary
        "C++ launcher library").value),
      (FileName.launcherSource, launcherEntry kernel)]
  | cython =>
    [(FileName.device .cuda, deviceEntry kernel .cuda deviceDescription),
      (FileName.host, hostEntry kernel),
      (FileName.sharedLibrary,
        (libraryEntry fs kernel.library FileName.sharedLibrary "Compiled shared library").value)]
  | torch =>
    let kind := SourceKind.ofTarget kernel.target
    [(FileName.device kind,
        deviceEntry kernel kind (deviceDescription ++ " (" ++ kind.extension ++ ")")),
      (FileName.host, hostEntry kernel),
      (FileName.sharedLibrary,
        (libraryEntry fs kernel.library FileName.sharedLibrary "Compiled shared library").value)]
  | legacy => []

theorem entries_eq_table (b : Backend) (fs : FileSystem) (kernel : CompiledKernel ε) :
    (b.entries fs kernel).value = (b.table fs kernel).map (·.2) := by
  cases b <;> rfl

/-- The names under which a backend keeps files, with device sources of this kind. -/
def names (kind : SourceKind) : Backend → List String
  | tvmFfi => [FileName.device .cuda, FileName.host, FileName.executable]
  | nvrtc => [FileName.device .cuda, FileName.host, FileName.cubin, FileName.python]
  | cutedsl => [FileName.python, FileName.launcherLibrary, FileName.launcherSource]
  | cython => [FileName.device .cuda, FileName.host, FileName.sharedLibrary]
  | torch => [FileName.device kind, FileName.host, FileName.sharedLibrary]
  | legacy => []

theorem table_names (b : Backend) (fs : FileSystem) (kernel : CompiledKernel ε) :
    (b.table fs kernel).map (·.1) = b.names (SourceKind.ofTarget kernel.target) := by
  cases b <;> rfl

theorem names_nodup (b : Backend) (kind : SourceKind) : (b.names kind).Nodup := by
  cases b <;> cases kind <;> decide

theorem plain_of_mem_names (b : Backend) (kind : SourceKind) (h : name ∈ b.names kind) :
    Path.Plain name := by
  have hall : ∀ name ∈ b.names kind,
      '/' ∉ name.toList ∧ name ≠ "" ∧ name ≠ "." ∧ name ≠ ".." := by
    cases b <;> cases kind <;> decide
  obtain ⟨hsingle, hempty, hhere, hup⟩ := hall name h
  exact ⟨hsingle, hempty, hhere, hup⟩

theorem fault?_of_mem_names (b : Backend) (kind : SourceKind) :
    ∀ name ∈ b.names kind, PathFault.of? name = none := by
  cases b <;> cases kind <;> decide

theorem plain_of_required (h : name ∈ b.requiredFiles) : Path.Plain name := by
  have hall : ∀ name ∈ b.requiredFiles, name ∈ b.names .cuda := by cases b <;> decide
  exact plain_of_mem_names b .cuda (hall name h)

theorem plain_device (kind : SourceKind) : Path.Plain (FileName.device kind) :=
  plain_of_mem_names torch kind List.mem_cons_self

theorem plain_host : Path.Plain FileName.host :=
  plain_of_mem_names tvmFfi .cuda (by simp [names])

theorem plain_python : Path.Plain FileName.python :=
  plain_of_mem_names nvrtc .cuda (by simp [names])

theorem plain_launcherSource : Path.Plain FileName.launcherSource :=
  plain_of_mem_names cutedsl .cuda (by simp [names])

/-! ### The entries in them -/

theorem value_libraryEntry (fs : FileSystem) (library : Option Path) (name description : String) :
    (libraryEntry fs library name description : Logged (Option (Entry ε))).value =
      (library.bind fun path => (fs.read path).toOption).map fun bytes =>
        (Entry.ofBytes name bytes).describedAs description := by
  cases library with
  | none => rfl
  | some path =>
    rw [Option.bind_some, ← FileSystem.value_tryBytes]
    rfl

/-- A wrapper is looked for only beside a library with the right extension. -/
theorem value_wrapperEntry (fs : FileSystem) (library : Option Path) :
    (wrapperEntry fs library : Logged (Option (Entry ε))).value =
      (library.bind fun path => if path.extension? = some "cubin" then
        (fs.read (path.withExtension "py")).toOption else none).map fun bytes =>
        ((Entry.ofBytes FileName.python bytes).optional).describedAs "Python wrapper code" := by
  cases library with
  | none => rfl
  | some path =>
    by_cases hext : path.extension? = some "cubin"
    · simp only [wrapperEntry, if_pos hext, Option.bind_some, Logged.value_bind,
        Logged.value_pure, FileSystem.value_tryBytes]
    · simp only [wrapperEntry, if_neg hext, Option.bind_some, Logged.value_pure, Option.map_none]

theorem forall_mem_map {α : Type} {source : Option α} {entryOf : α → Entry ε} {P : Entry ε → Prop}
    (h : ∀ a, P (entryOf a)) : ∀ entry ∈ source.map entryOf, P entry := by
  intro entry hentry
  obtain ⟨a, -, rfl⟩ := Option.map_eq_some_iff.1 hentry
  exact h a

/-- The entry is as the backend keeps one under this name: marked as required if the backend requires
the name, opened as its content asks, and left to the exporter only where it is the executable. -/
structure Filed (b : Backend) (name : String) (entry : Entry ε) : Prop where
  path : entry.path = name
  required : entry.required = decide (name ∈ b.requiredFiles)
  mode : entry.mode = entry.content.mode
  exported : entry.isExecutable = decide (name = FileName.executable)

theorem filed_device {kind : SourceKind} {description : String} :
    ∀ entry ∈ deviceEntry kernel kind description, Filed b (FileName.device kind) entry :=
  forall_mem_map fun _ => ⟨rfl, by cases b <;> cases kind <;> rfl, rfl, by cases kind <;> rfl⟩

theorem filed_host : ∀ entry ∈ hostEntry kernel, Filed b FileName.host entry :=
  forall_mem_map fun _ => ⟨rfl, by cases b <;> rfl, rfl, rfl⟩

theorem filed_library {library : Option Path} {description : String}
    (hrequired : name ∈ b.requiredFiles) (hname : name ≠ FileName.executable) :
    ∀ entry ∈ (libraryEntry fs library name description : Logged (Option (Entry ε))).value,
      Filed b name entry := by
  rw [value_libraryEntry]
  exact forall_mem_map fun _ =>
    ⟨rfl, (decide_eq_true hrequired).symm, rfl, (decide_eq_false hname).symm⟩

theorem filed_wrapper {library : Option Path} :
    ∀ entry ∈ (wrapperEntry fs library : Logged (Option (Entry ε))).value,
      Filed nvrtc FileName.python entry := by
  rw [value_wrapperEntry]
  exact forall_mem_map fun _ => ⟨rfl, rfl, rfl, rfl⟩

theorem filed_module : ∀ entry ∈ moduleEntry kernel, Filed cutedsl FileName.python entry :=
  forall_mem_map fun _ => ⟨rfl, rfl, rfl, rfl⟩

theorem filed_launcher :
    ∀ entry ∈ launcherEntry kernel, Filed cutedsl FileName.launcherSource entry :=
  forall_mem_map fun _ => ⟨rfl, rfl, rfl, rfl⟩

theorem filed_executable :
    ∀ entry ∈ executableEntry kernel, Filed tvmFfi FileName.executable entry :=
  forall_mem_map fun _ => ⟨rfl, rfl, rfl, rfl⟩

theorem table_filed : ∀ x ∈ b.table fs kernel, ∀ entry ∈ x.2, Filed b x.1 entry := by
  have hlast : ∀ x ∈ ([] : List (String × Option (Entry ε))), ∀ entry ∈ x.2,
      Filed b x.1 entry := nofun
  cases b with
  | tvmFfi =>
    simp only [table, List.forall_mem_cons]
    exact ⟨filed_device, filed_host, filed_executable, hlast⟩
  | nvrtc =>
    simp only [table, List.forall_mem_cons]
    exact ⟨filed_device, filed_host, filed_library (by decide) (by decide), filed_wrapper, hlast⟩
  | cutedsl =>
    simp only [table, List.forall_mem_cons]
    exact ⟨filed_module, filed_library (by decide) (by decide), filed_launcher, hlast⟩
  | cython | torch =>
    simp only [table, List.forall_mem_cons]
    exact ⟨filed_device, filed_host, filed_library (by decide) (by decide), hlast⟩
  | legacy => exact hlast

theorem table_named : ∀ x ∈ b.table fs kernel, ∀ entry ∈ x.2, entry.path = x.1 :=
  fun x hx entry hentry => (table_filed x hx entry hentry).path

/-! ### Inventories by name -/

theorem value_inventory (b : Backend) (fs : FileSystem) (kernel : CompiledKernel ε) :
    (b.inventory fs kernel).value =
      Inventory.ofEntries (((b.table fs kernel).map (·.2)).filterMap id) := by
  rw [← entries_eq_table]
  rfl

/-- An inventory answers a name of the table as the table does. -/
theorem get?_inventory (h : (name, o) ∈ b.table fs kernel) :
    (b.inventory fs kernel).value.get? name = o := by
  rw [value_inventory]
  exact Inventory.get?_of_table table_named (table_names b fs kernel ▸ names_nodup b _) h

theorem mem_table_of_get? (h : (b.inventory fs kernel).value.get? name = some entry) :
    (name, some entry) ∈ b.table fs kernel := by
  by_cases hname : name ∈ (b.table fs kernel).map (·.1)
  · obtain ⟨⟨name, o⟩, hx, rfl⟩ := List.mem_map.1 hname
    rw [get?_inventory hx] at h
    exact h ▸ hx
  · rw [value_inventory, Inventory.get?_not_in_table table_named hname] at h
    cases h

theorem get?_inventory_eq_none (h : name ∉ b.names (SourceKind.ofTarget kernel.target)) :
    (b.inventory fs kernel).value.get? name = none := by
  rw [value_inventory]
  exact Inventory.get?_not_in_table table_named (table_names b fs kernel ▸ h)

theorem filed_inventory (h : (b.inventory fs kernel).value.get? name = some entry) :
    Filed b name entry :=
  table_filed _ (mem_table_of_get? h) entry rfl

theorem mem_names_of_get? (h : (b.inventory fs kernel).value.get? name = some entry) :
    name ∈ b.names (SourceKind.ofTarget kernel.target) := by
  rw [← table_names b fs kernel]
  exact List.mem_map.2 ⟨(name, some entry), mem_table_of_get? h, rfl⟩

theorem mem_names_of_inventory (h : name ∈ (b.inventory fs kernel).value.keys) :
    name ∈ b.names (SourceKind.ofTarget kernel.target) := by
  obtain ⟨entry, hget⟩ := Option.isSome_iff_exists.1
    (((b.inventory fs kernel).value.contains_iff name).2 h)
  exact mem_names_of_get? hget

theorem plain_of_inventory (h : name ∈ (b.inventory fs kernel).value.keys) : Path.Plain name :=
  plain_of_mem_names b _ (mem_names_of_inventory h)

theorem eq_executable_of_inventory (h : (b.inventory fs kernel).value.get? name = some entry)
    (hexec : entry.isExecutable = true) : name = FileName.executable :=
  of_decide_eq_true ((filed_inventory h).exported ▸ hexec)

/-- Only one backend leaves a file to the exporter. -/
theorem isExecutable_inventory (h : (b.inventory fs kernel).value.get? name = some entry)
    (hexec : entry.isExecutable = true) : b = .tvmFfi := by
  have hmem := mem_names_of_get? h
  rw [eq_executable_of_inventory h hexec] at hmem
  have honly : ∀ kind, FileName.executable ∈ b.names kind → b = .tvmFfi := by
    intro kind
    cases b <;> cases kind <;> decide
  exact honly _ hmem

/-- And this one file is required. -/
theorem name_of_executable (h : (b.inventory fs kernel).value.get? name = some entry)
    (hexec : entry.isExecutable = true) : b.requiredFiles = [name] := by
  obtain rfl := isExecutable_inventory h hexec
  rw [eq_executable_of_inventory h hexec]
  rfl

end Backend
end KernelArchive
