import KernelArchive.Proofs.Backend.OptionalFiles
import KernelArchive.Proofs.Inventory.SavedFiles

/-!
# Saves elsewhere

* `Inventory.Avoids`: a save has nothing to do at a location or below it, so the node there stays
  as it is (`Avoids.lookup_save`).
* `Backend.filesRead`: all files that a backend looks for in a directory. What it makes of the
  directory depends on them alone (`Backend.restore_congr`, `Backend.fetch_congr`).
* `Backend.fetch_saved_elsewhere`: so a save that avoids these files changes nothing for the
  backend.
-/

namespace KernelArchive
set_option autoImplicit false

variable {ε : Type}

/-! ## What a save avoids -/

namespace Inventory

variable {inventory : Inventory ε} {fs : FileSystem} {into : Path} {loc : Location}
  {exporter : Option (Exporter ε)}

/-- No file of the inventory, and no directory on the way to where it is saved, is at this location
or below it. -/
structure Avoids (inventory : Inventory ε) (fs : FileSystem) (into : Path) (loc : Location) :
    Prop where
  files : ∀ key ∈ inventory.keys, ¬(loc <+: fs.locate (into.join key))
  way : ∀ taken, taken ≠ [] → taken <+: into.segments →
    ¬(loc <+: Location.follow (fs.start into) taken)

theorem Avoids.lookup_save (h : inventory.Avoids fs into loc) (hx : ∀ x ∈ exporter, x.Confined) :
    (inventory.save fs into exporter).files.tree.lookup loc = fs.tree.lookup loc := by
  cases hfault : inventory.fault? exporter.isSome with
  | some e => rw [save_of_fault hfault]
  | none =>
    have halters : FileSystem.Alters (destinations into inventory.entries) fs
        (inventory.save fs into exporter).files := alters_save hx
    have hlocate := FileSystem.locate_of_working halters.working
    rcases save_frame hfault halters loc with
      hsame | ⟨key, hkey, hnames⟩ | ⟨-, -, key, hkey, ⟨habove, -⟩ | ⟨-, hpass⟩⟩
    · exact hsame
    · have hloc := hnames.eq_locate
      rw [hlocate] at hloc
      exact absurd (hloc ▸ List.prefix_refl loc) (h.files key hkey)
    · rw [hlocate] at habove
      exact absurd habove (h.files key hkey)
    · obtain ⟨taken, hne, htaken, hwalk⟩ := hpass
      have hloc := FileTree.walk_eq_follow hwalk
      rw [FileSystem.start_of_working halters.working] at hloc
      exact absurd (hloc ▸ List.prefix_refl loc) (h.way taken hne htaken)

end Inventory

/-! ## What a backend looks for -/

namespace Backend

variable {b : Backend} {fs after : FileSystem} {dir : Path} {root : Location} {name : String}

/-- All files that a backend looks for in a directory. -/
def filesRead (b : Backend) : List String := b.requiredFiles ++ b.optionalFiles.map (·.1)

theorem plain_of_read (h : name ∈ b.filesRead) : Path.Plain name := by
  rcases List.mem_append.1 h with hrequired | hoptional
  · exact plain_of_required hrequired
  · obtain ⟨⟨name, field⟩, hfile, rfl⟩ := List.mem_map.1 hoptional
    exact plain_of_part? (part?_eq_some_iff.2 hfile)

section Congr

variable (h : ∀ name ∈ b.filesRead, fs.AlikeAt after (dir.join name))
include h

theorem sources_congr (hdevice : FileName.device .cuda ∈ b.filesRead)
    (hhost : FileName.host ∈ b.filesRead) :
    SourcePair.read after dir SourceKind.cuda.extension =
      SourcePair.read fs dir SourceKind.cuda.extension := by
  have hdevice := (h _ hdevice).tryText
  have hhost := (h _ hhost).tryText
  rw [FileName.device] at hdevice
  rw [FileName.host] at hhost
  rw [SourcePair.read, SourcePair.read, hdevice, hhost]

theorem devices_congr (hdevice : ∀ kind, FileName.device kind ∈ b.filesRead) :
    after.firstText (SourceKind.probeOrder.map fun kind => dir.join (FileName.device kind)) =
      fs.firstText (SourceKind.probeOrder.map fun kind => dir.join (FileName.device kind)) := by
  have halike : ∀ p ∈ SourceKind.probeOrder.map fun kind => dir.join (FileName.device kind),
      fs.AlikeAt after p := by
    intro p hp
    obtain ⟨kind, -, rfl⟩ := List.mem_map.1 hp
    exact h _ (hdevice kind)
  have hread := FileSystem.firstText_append_congr (b := []) halike rfl
  rwa [List.append_nil] at hread

theorem restore_congr : b.restore after dir = b.restore fs dir := by
  have htext : ∀ name ∈ b.filesRead, after.tryText (dir.join name) = fs.tryText (dir.join name) :=
    fun name hname => (h name hname).tryText
  have hfind : ∀ name ∈ b.filesRead, after.find? dir name = fs.find? dir name :=
    fun name hname => (h name hname).find?
  unfold restore
  cases b with
  | tvmFfi =>
    simp only [sources_congr h (by decide) (by decide),
      hfind FileName.executable (by decide)]
  | nvrtc =>
    simp only [sources_congr h (by decide) (by decide),
      hfind FileName.cubin (by decide), hfind FileName.python (by decide)]
  | cutedsl =>
    simp only [hfind FileName.python (by decide),
      hfind FileName.launcherLibrary (by decide), htext FileName.launcherSource (by decide)]
  | cython =>
    simp only [sources_congr h (by decide) (by decide),
      hfind FileName.sharedLibrary (by decide)]
  | torch =>
    have hdevice : ∀ kind, FileName.device kind ∈ torch.filesRead := by
      intro kind
      cases kind <;> decide
    simp only [devices_congr h hdevice, htext FileName.host (by decide),
      hfind FileName.sharedLibrary (by decide)]
  | legacy => rfl

theorem isComplete_congr :
    (b.scheme : Scheme ε).isComplete after dir = (b.scheme : Scheme ε).isComplete fs dir := by
  rw [Bool.eq_iff_iff, isComplete_iff, isComplete_iff]
  apply forall₂_congr
  intro name hname
  rw [(h name (List.mem_append_left _ hname)).present]

theorem fetch_congr :
    (b.scheme : Scheme ε).fetch after dir = (b.scheme : Scheme ε).fetch fs dir := by
  have hrestore : (b.scheme : Scheme ε).restore after dir = (b.scheme : Scheme ε).restore fs dir :=
    restore_congr h
  rw [Scheme.fetch, Scheme.fetch, isComplete_congr h, hrestore]

end Congr

/-! ## Saves elsewhere -/

theorem alikeAt_of_avoids {inventory : Inventory ε} {into : Path} {exporter : Option (Exporter ε)}
    (hroot : fs.Opens dir root) (hx : ∀ x ∈ exporter, x.Confined) (hname : Path.Plain name)
    (h : inventory.Avoids fs into (root ++ [name])) :
    fs.AlikeAt (inventory.save fs into exporter).files (dir.join name) := by
  have halters : FileSystem.Alters (Inventory.destinations into inventory.entries) fs
      (inventory.save fs into exporter).files := Inventory.alters_save hx
  exact hroot.alikeAt_join (hroot.of_keeps halters.working halters.keeps) hname (h.lookup_save hx)

/-- A save, wherever it goes and whatever it comes to, changes nothing for a backend in a directory
if it avoids the files that the backend looks for there: the directory is as complete as it was, the
same kernel is restored and fetched, and the same events are reported. -/
theorem fetch_saved_elsewhere (b : Backend) (fs : FileSystem) (dir into : Path)
    (inventory : Inventory ε) (exporter : Option (Exporter ε)) (hroot : fs.Opens dir root)
    (hx : ∀ x ∈ exporter, x.Confined)
    (haway : ∀ name ∈ b.filesRead, inventory.Avoids fs into (root ++ [name])) :
    let after := (inventory.save fs into exporter).files
    (b.scheme : Scheme ε).isComplete after dir = (b.scheme : Scheme ε).isComplete fs dir ∧
      (b.scheme : Scheme ε).restore after dir = (b.scheme : Scheme ε).restore fs dir ∧
      (b.scheme : Scheme ε).fetch after dir = (b.scheme : Scheme ε).fetch fs dir := by
  intro after
  have halike : ∀ name ∈ b.filesRead, fs.AlikeAt after (dir.join name) := fun name hname =>
    alikeAt_of_avoids hroot hx (plain_of_read hname) (haway name hname)
  exact ⟨isComplete_congr halike, restore_congr halike, fetch_congr halike⟩

/-- A kernel is found as before where a save puts a file of the same name further down, and fails. -/
theorem fetch_saved_elsewhere_below :
    let fs : FileSystem := ⟨((FileTree.empty.put [] "c" .directory).put ["c"] "kernel_lib.so"
      (.file .empty)).put ["c"] "device_kernel.c" (.file "d".toUTF8), []⟩
    let inventory : Inventory ByteArray := Inventory.ofEntries
      [.ofText "more/device_kernel.cu" "x", .ofText "more/device_kernel.cu/y" "z"]
    let out := inventory.save fs ⟨"c"⟩ none
    fs.Opens ⟨"c"⟩ ["c"] ∧
      (∀ name ∈ torch.filesRead, inventory.Avoids fs ⟨"c"⟩ (["c"] ++ [name])) ∧
      out.answer = .error (.writeFailed ⟨"c/more/device_kernel.cu"⟩ .alreadyExists) ∧
      ((torch.scheme : Scheme ByteArray).fetch out.files ⟨"c"⟩).value =
        some ⟨some "d", none, ⟨"c/kernel_lib.so"⟩, none, none, none⟩ := by
  intro fs inventory out
  have hroot : fs.Opens ⟨"c"⟩ ["c"] :=
    ⟨by decide +kernel, FileTree.hasDirectory_iff.1 (by decide +kernel)⟩
  have hfiles : ∀ name ∈ torch.filesRead, ∀ key ∈ inventory.keys,
      ¬(["c"] ++ [name] <+: fs.locate ((⟨"c"⟩ : Path).join key)) := by decide +kernel
  have haway : ∀ name ∈ torch.filesRead, inventory.Avoids fs ⟨"c"⟩ (["c"] ++ [name]) := by
    intro name hname
    refine ⟨hfiles name hname, fun taken hne htaken => ?_⟩
    have hsegments : (⟨"c"⟩ : Path).segments = ["c"] := by decide +kernel
    have hall : taken = ["c"] := by
      rw [hsegments] at htaken
      rcases List.prefix_cons_iff.1 htaken with hnil | ⟨rest, rfl, hrest⟩
      · exact absurd hnil hne
      · rw [List.prefix_nil.1 hrest]
    rw [hall]
    exact Location.not_concat_prefix ["c"] name
  have hfetch := (fetch_saved_elsewhere torch fs ⟨"c"⟩ ⟨"c"⟩ inventory none hroot nofun haway).2.2
  refine ⟨hroot, haway, by decide +kernel, ?_⟩
  rw [show (torch.scheme : Scheme ByteArray).fetch out.files ⟨"c"⟩ = _ from hfetch]
  decide +kernel

end Backend
end KernelArchive
