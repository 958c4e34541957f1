import KernelArchive.Proofs.FileSystem.Placing
import KernelArchive.Proofs.Inventory.SavedFiles

/-!
# Files laid down one after the other

* `Inventory.Lays dir entries fs after`: the files of the entries are placed one after the other.
  This is what saving entries without executables comes to (`save_ok_iff`).
* `Inventory.Layable`: a file can be placed for each key, and none is on the way to another. Exactly
  then the entries can be laid down (`lays_iff`), and the inventory saved (`save_ok_iff_layable`).
* `Inventory.laid`: what the entries put at a location; the last one that names it counts
  (`Lays.lookup`).
-/

namespace KernelArchive
set_option autoImplicit false

namespace Inventory

variable {ε : Type} {dir : Path} {exporter : Option (Exporter ε)} {p p' : Progress ε}
  {key : String} {entry : Entry ε} {entries a b rest : List (String × Entry ε)}
  {x : String × Entry ε} {fs made mid after : FileSystem} {bytes : ByteArray}
  {inventory : Inventory ε}

/-! ## One entry after the other -/

/-- The files of the entries are placed under the directory, one after the other. -/
inductive Lays (dir : Path) : List (String × Entry ε) → FileSystem → FileSystem → Prop
  | nil (fs : FileSystem) : Lays dir [] fs fs
  | cons {key : String} {entry : Entry ε} {rest : List (String × Entry ε)}
      {fs mid after : FileSystem} {bytes : ByteArray} (hbytes : entry.content.bytes? = some bytes)
      (hfirst : fs.Places (dir.join key) bytes mid) (hrest : Lays dir rest mid after) :
      Lays dir ((key, entry) :: rest) fs after

theorem lays_nil : Lays dir ([] : List (String × Entry ε)) fs after ↔ after = fs := by
  constructor
  · intro h
    cases h
    rfl
  · rintro rfl
    exact .nil after

theorem lays_cons : Lays dir (x :: rest) fs after ↔ ∃ bytes mid,
    x.2.content.bytes? = some bytes ∧ fs.Places (dir.join x.1) bytes mid ∧
      Lays dir rest mid after := by
  constructor
  · intro h
    cases h with
    | cons hbytes hfirst hrest => exact ⟨_, _, hbytes, hfirst, hrest⟩
  · rintro ⟨bytes, mid, hbytes, hfirst, hrest⟩
    exact .cons hbytes hfirst hrest

theorem lays_append :
    Lays dir (a ++ b) fs after ↔ ∃ mid, Lays dir a fs mid ∧ Lays dir b mid after := by
  induction a generalizing fs with
  | nil => simp [lays_nil]
  | cons x rest ih =>
    simp only [List.cons_append, lays_cons, ih]
    constructor
    · rintro ⟨bytes, next, hbytes, hfirst, mid, hrest, hlast⟩
      exact ⟨mid, ⟨bytes, next, hbytes, hfirst, hrest⟩, hlast⟩
    · rintro ⟨mid, ⟨bytes, next, hbytes, hfirst, hrest⟩, hlast⟩
      exact ⟨bytes, next, hbytes, hfirst, mid, hrest, hlast⟩

theorem Lays.working (h : Lays dir entries fs after) : after.working = fs.working := by
  induction h with
  | nil => rfl
  | cons hbytes hfirst hrest ih => exact ih.trans (FileSystem.places_iff.1 hfirst).2.working

theorem makeRoom_ok_iff {path : Path} :
    makeRoom fs path = (made, .ok ()) ↔ fs.makeLine path.around = (made, .ok ()) := by
  unfold makeRoom Path.around
  cases path.parent? with
  | none => simp [FileSystem.makeLine]
  | some parent =>
    have hline : fs.makeLine parent.lineage = fs.makeDirectories parent := rfl
    simp only [Option.elim_some, hline]
    cases fs.makeDirectories parent with
    | mk made result => cases result <;> simp

theorem saveEntry_ok_iff (hbytes : entry.content.bytes? = some bytes) :
    (∃ p', saveEntry dir exporter p key entry = (p', .ok ()) ∧ p'.files = after) ↔
      p.files.Places (dir.join key) bytes after := by
  constructor
  · rintro ⟨p', hsave, rfl⟩
    cases entryStep hsave with
    | written hroom hbytes' hwrite =>
      rw [hbytes] at hbytes'
      obtain rfl := Option.some.inj hbytes'
      exact ⟨_, makeRoom_ok_iff.1 hroom, hwrite⟩
    | skipped hroom hcontent hnone =>
      rw [hcontent] at hbytes
      cases hbytes
    | exported hroom hcontent hsome hexport =>
      rw [hcontent] at hbytes
      cases hbytes
  · rintro ⟨made, hline, hwrite⟩
    unfold saveEntry
    simp only [makeRoom_ok_iff.2 hline]
    cases hcontent : entry.content with
    | executable executable =>
      rw [hcontent] at hbytes
      cases hbytes
    | text s =>
      rw [hcontent] at hbytes
      obtain rfl := Option.some.inj hbytes
      simp only [writeOut, hwrite]
      exact ⟨_, rfl, rfl⟩
    | binary b =>
      rw [hcontent] at hbytes
      obtain rfl := Option.some.inj hbytes
      simp only [writeOut, hwrite]
      exact ⟨_, rfl, rfl⟩

theorem bytes?_of_plain (h : entry.isExecutable = false) :
    ∃ bytes, entry.content.bytes? = some bytes := by
  cases hcontent : entry.content with
  | text s => exact ⟨_, rfl⟩
  | binary b => exact ⟨_, rfl⟩
  | executable e => simp [Entry.isExecutable, hcontent, Content.isExecutable] at h

theorem saveEntries_ok_iff (hplain : ∀ e ∈ entries, e.2.isExecutable = false) :
    (∃ p', saveEntries dir exporter p entries = (p', .ok ()) ∧ p'.files = after) ↔
      Lays dir entries p.files after := by
  induction entries generalizing p with
  | nil =>
    have hnil : saveEntries dir exporter p [] = (p, .ok ()) := rfl
    rw [lays_nil, hnil]
    simp [eq_comm]
  | cons e rest ih =>
    obtain ⟨key, entry⟩ := e
    obtain ⟨hfirst, hrest⟩ := List.forall_mem_cons.1 hplain
    obtain ⟨bytes, hbytes⟩ := bytes?_of_plain hfirst
    rw [saveEntries_cons, lays_cons]
    constructor
    · rintro ⟨p', hrun, rfl⟩
      split at hrun
      · cases hrun
      · next mid hsave =>
        exact ⟨bytes, mid.files, hbytes, (saveEntry_ok_iff hbytes).1 ⟨mid, hsave, rfl⟩,
          (ih hrest).1 ⟨p', hrun, rfl⟩⟩
    · rintro ⟨bytes', mid, hbytes', hplaces, hlays⟩
      obtain ⟨next, hsave, rfl⟩ : ∃ p', saveEntry dir exporter p key entry = (p', .ok ()) ∧
          p'.files = mid := (saveEntry_ok_iff hbytes').2 hplaces
      rw [hsave]
      exact (ih hrest).2 hlays

/-- What saving an inventory without executables comes to, where it succeeds. -/
theorem save_ok_iff (hplain : ∀ e ∈ inventory.entries, e.2.isExecutable = false) :
    (∃ summary, (inventory.save fs dir exporter).answer = .ok summary) ∧
        (inventory.save fs dir exporter).files = after ↔
      (∀ key ∈ inventory.keys, PathFault.of? key = none) ∧
        Lays dir inventory.entries fs after := by
  have hfault : inventory.fault? exporter.isSome = none ↔
      ∀ key ∈ inventory.keys, PathFault.of? key = none := by
    rw [fault?_eq_none_iff]
    constructor
    · intro h key hkey
      obtain ⟨⟨key, entry⟩, hmem, rfl⟩ := List.mem_map.1 hkey
      exact (h key entry hmem).1
    · intro h key entry hmem
      refine ⟨h key (OrderedMap.mem_keys_of_mem hmem), fun hexec => ?_⟩
      rw [hplain _ hmem] at hexec
      cases hexec
  have hrun : (∃ p', saveEntries dir exporter ⟨fs, .nothing, []⟩ inventory.entries = (p', .ok ()) ∧
      p'.files = after) ↔ Lays dir inventory.entries fs after := saveEntries_ok_iff hplain
  rw [← hfault, ← hrun]
  constructor
  · rintro ⟨⟨summary, hok⟩, rfl⟩
    obtain ⟨hnone, p', hsaved, -, hfiles⟩ := save_answer_ok hok
    exact ⟨hnone, p', hsaved, hfiles.symm⟩
  · rintro ⟨hnone, p', hsaved, rfl⟩
    rw [save_of_ok hnone hsaved]
    exact ⟨⟨p'.summary, rfl⟩, rfl⟩

theorem calls_of_plain (hplain : ∀ e ∈ entries, e.2.isExecutable = false)
    (h : saveEntries dir exporter p entries = (p', .ok ())) : p'.calls = p.calls := by
  refine saveEntries_induction (I := fun _ mid => mid.calls = p.calls) rfl ?_ h
  intro done key entry rest mid after hsplit hmid hsave
  have hexec : entry.isExecutable = false := hplain (key, entry) (by simp [hsplit])
  cases entryStep hsave with
  | written hroom hbytes hwrite => exact hmid
  | skipped hroom hcontent hnone => exact hmid
  | exported hroom hcontent hsome hexport =>
    rw [isExecutable_of_content hcontent] at hexec
    cases hexec

/-- What saving an inventory without executables comes to depends on the files alone. -/
theorem save_of_plain {summary : Summary}
    (hplain : ∀ e ∈ inventory.entries, e.2.isExecutable = false)
    (h : (save fs dir inventory exporter).answer = .ok summary) :
    save fs dir inventory exporter = ⟨.ok summary, (save fs dir inventory exporter).files, [],
      [.saved dir summary.written.length summary.exported.length summary.bytesWritten]⟩ := by
  obtain ⟨hfault, p, hrun, rfl, -⟩ := save_answer_ok h
  have hcalls : p.calls = [] := calls_of_plain hplain hrun
  rw [save_of_ok hfault hrun, hcalls]

/-! ## Keys that do not stand in each other's way -/

section Layable

variable {keys more : List String} {other : String}

/-- A file can be placed for each key, and none is on the way to another. -/
structure Layable (fs : FileSystem) (dir : Path) (keys : List String) : Prop where
  ready : ∀ key ∈ keys, fs.Ready (dir.join key)
  beside : ∀ key ∈ keys, ∀ other ∈ keys, fs.locate (dir.join key) ∉ fs.way (dir.join other)

theorem Layable.mono (h : Layable fs dir keys) (hsub : more ⊆ keys) : Layable fs dir more where
  ready key hkey := h.ready key (hsub hkey)
  beside key hkey other hother := h.beside key (hsub hkey) other (hsub hother)

theorem start_join_eq (fs : FileSystem) (dir : Path) (hkey : key.toList.head? ≠ some '/')
    (hother : other.toList.head? ≠ some '/') :
    fs.start (dir.join key) = fs.start (dir.join other) := by
  rw [FileSystem.start_join fs hkey, FileSystem.start_join fs hother]

variable (hrel : ∀ key ∈ keys, key.toList.head? ≠ some '/')
include hrel

theorem Layable.placed (h : Layable fs dir keys) (hkey : key ∈ keys)
    (hplaces : fs.Places (dir.join key) bytes mid) : Layable mid dir keys := by
  have hw := (FileSystem.places_iff.1 hplaces).2.working
  constructor
  · intro other hother
    have hstart := start_join_eq fs dir (hrel key hkey) (hrel other hother)
    exact (FileSystem.ready_placed_iff hplaces hstart).2
      ⟨h.ready other hother, h.beside key hkey other hother, h.beside other hother key hkey⟩
  · intro first hfirst second hsecond
    rw [FileSystem.locate_of_working hw, FileSystem.way_of_working hw]
    exact h.beside first hfirst second hsecond

theorem Layable.lays (h : Layable fs dir keys) (hlays : Lays dir entries fs after)
    (hsub : entries.map (·.1) ⊆ keys) : Layable after dir keys := by
  induction hlays with
  | nil => exact h
  | cons hbytes hfirst hrest ih =>
    rw [List.map_cons, List.cons_subset] at hsub
    exact ih (h.placed hrel hsub.1 hfirst) hsub.2

theorem Layable.of_placed (hkey : key.toList.head? ≠ some '/')
    (hplaces : fs.Places (dir.join key) bytes mid) (h : Layable mid dir keys) :
    Layable fs dir (key :: keys) := by
  obtain ⟨hready, hplaced⟩ := FileSystem.places_iff.1 hplaces
  have hrest : ∀ other ∈ keys, fs.Ready (dir.join other) ∧
      fs.locate (dir.join key) ∉ fs.way (dir.join other) ∧
      fs.locate (dir.join other) ∉ fs.way (dir.join key) := by
    intro other hother
    have hstart := start_join_eq fs dir hkey (hrel other hother)
    exact (FileSystem.ready_placed_iff hplaces hstart).1 (h.ready other hother)
  constructor
  · intro other hother
    rcases List.mem_cons.1 hother with rfl | hother
    · exact hready
    · exact (hrest other hother).1
  · intro first hfirst second hsecond
    rw [List.mem_cons] at hfirst hsecond
    obtain rfl | hin := hfirst
    · obtain rfl | hin' := hsecond
      · exact hready.beside
      · exact (hrest second hin').2.1
    · obtain rfl | hin' := hsecond
      · exact (hrest first hin).2.2
      · rw [← FileSystem.locate_of_working hplaced.working,
          ← FileSystem.way_of_working hplaced.working]
        exact h.beside first hin second hin'

end Layable

/-- Entries can be laid down exactly where each could be placed alone and none is on the way to
another; those for one location do not hinder each other. -/
theorem lays_iff (hrel : ∀ key ∈ entries.map (·.1), key.toList.head? ≠ some '/')
    (hplain : ∀ e ∈ entries, e.2.isExecutable = false) :
    (∃ after, Lays dir entries fs after) ↔ Layable fs dir (entries.map (·.1)) := by
  induction entries generalizing fs with
  | nil => exact ⟨fun _ => ⟨by simp, by simp⟩, fun _ => ⟨fs, .nil fs⟩⟩
  | cons x rest ih =>
    obtain ⟨hfirst, hplain'⟩ := List.forall_mem_cons.1 hplain
    obtain ⟨hkey, hrel'⟩ := List.forall_mem_cons.1 hrel
    rw [List.map_cons]
    constructor
    · rintro ⟨after, hlays⟩
      obtain ⟨bytes, mid, hbytes, hplaces, hrest⟩ := lays_cons.1 hlays
      exact Layable.of_placed hrel' hkey hplaces ((ih hrel' hplain').1 ⟨after, hrest⟩)
    · intro h
      obtain ⟨bytes, hbytes⟩ := bytes?_of_plain hfirst
      obtain ⟨mid, hplaces, -⟩ := FileSystem.places_of_ready (h.ready x.1 (by simp)) bytes
      have hmid := (h.placed hrel (by simp) hplaces).mono (List.subset_cons_self _ _)
      obtain ⟨after, hrest⟩ := (ih hrel' hplain').2 hmid
      exact ⟨after, lays_cons.2 ⟨bytes, mid, hbytes, hplaces, hrest⟩⟩

/-- An inventory without executables can be saved exactly where its keys are safe and can be laid
down. -/
theorem save_ok_iff_layable (hplain : ∀ e ∈ inventory.entries, e.2.isExecutable = false) :
    (∃ summary, (inventory.save fs dir exporter).answer = .ok summary) ↔
      (∀ key ∈ inventory.keys, PathFault.of? key = none) ∧ Layable fs dir inventory.keys := by
  have hlays : (∀ key ∈ inventory.keys, PathFault.of? key = none) →
      ((∃ after, Lays dir inventory.entries fs after) ↔ Layable fs dir inventory.keys) :=
    fun hsafe => lays_iff (fun key hkey => (PathFault.of?_eq_none (hsafe key hkey)).1) hplain
  constructor
  · intro hok
    obtain ⟨hsafe, hlaid⟩ := (save_ok_iff hplain).1 ⟨hok, rfl⟩
    exact ⟨hsafe, (hlays hsafe).1 ⟨_, hlaid⟩⟩
  · rintro ⟨hsafe, hall⟩
    obtain ⟨after, hlaid⟩ := (hlays hsafe).2 hall
    have hsaved : (∃ summary, (inventory.save fs dir exporter).answer = .ok summary) ∧
        (inventory.save fs dir exporter).files = after := (save_ok_iff hplain).2 ⟨hsafe, hlaid⟩
    exact hsaved.1

/-! ## What is laid down -/

/-- What the entries put at a location: the bytes of the last one that names it, or a directory if
it is on the way to one. -/
def laid (fs : FileSystem) (dir : Path) : List (String × Entry ε) → Location → Option Node
  | [], _ => none
  | (key, entry) :: rest, loc => (laid fs dir rest loc).or <|
    if loc = fs.locate (dir.join key) then entry.content.bytes?.map .file
    else if loc ∈ fs.way (dir.join key) then some .directory
    else none

theorem laid_of_working (h : after.working = fs.working) (entries : List (String × Entry ε)) :
    laid after dir entries = laid fs dir entries := by
  funext loc
  induction entries with
  | nil => rfl
  | cons x rest ih =>
    obtain ⟨key, entry⟩ := x
    simp only [laid, ih, FileSystem.locate_of_working h, FileSystem.way_of_working h]

/-- Laying files down does just what is said. -/
theorem Lays.lookup (h : Lays dir entries fs after) (loc : Location) :
    after.tree.lookup loc = (laid fs dir entries loc).or (fs.tree.lookup loc) := by
  induction h with
  | nil fs => rfl
  | cons hbytes hfirst hrest ih =>
    obtain ⟨-, hplaced⟩ := FileSystem.places_iff.1 hfirst
    rw [ih, laid_of_working hplaced.working, hplaced.lookup, laid, hbytes, Option.or_assoc]
    congr 1
    split
    · rfl
    · split <;> rfl

end Inventory
end KernelArchive
