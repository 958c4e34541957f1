import KernelArchive.Proofs.FileSystem.PlainNames
import KernelArchive.Proofs.Inventory.SavedFiles

/-!
# What a directory holds

* `Inventory.kept_of_saved`, `Inventory.node?_beside_saved`: what a save leaves under its keys and
  under other names, if all keys are plain names.
* `Inventory.Held`: a directory holds the files of an inventory, and no others.
* `Inventory.Held.save`: such a save lays one inventory over another. So an empty directory holds
  what is saved into it (`held_of_save`).
-/

namespace KernelArchive
set_option autoImplicit false

variable {ε : Type}

namespace Content

/-- The text of a content, if it is one. -/
def text? : Content ε → Option String
  | text s => some s
  | _ => none

theorem bytes?_of_text? {content : Content ε} {s : String} (h : content.text? = some s) :
    content.bytes? = some s.toUTF8 := by
  cases content with
  | text t => rw [← Option.some.inj h]; rfl
  | binary b => cases h
  | executable e => cases h

end Content

namespace Inventory

variable {dir : Path} {name : String} {inventory : Inventory ε} {fs : FileSystem}

/-- The directory holds the files of the inventory, and of the plain names no others. -/
structure Held (fs : FileSystem) (dir : Path) (inventory : Inventory ε) : Prop where
  kept : ∀ key entry, inventory.get? key = some entry →
    ∃ bytes, fs.node? (dir.join key) = some (.file bytes) ∧ entry.content.SavedAs bytes
  absent : ∀ name, Path.Plain name → inventory.get? name = none →
    fs.node? (dir.join name) = none

theorem held_empty (h : ∀ name, Path.Plain name → fs.node? (dir.join name) = none) :
    Held fs dir (OrderedMap.empty : Inventory ε) where
  kept key entry hget := by cases hget
  absent name hname _ := h name hname

/-! ## The save -/

section Save

variable {exporter : Option (Exporter ε)} {after : FileSystem} {old : Inventory ε}
  {key : String} {entry : Entry ε} {entries done rest : List (String × Entry ε)}

theorem node?_of_saved (hplain : ∀ key ∈ inventory.keys, Path.Plain key)
    (hsplit : inventory.entries = done ++ (key, entry) :: rest)
    {loc : Location} {bytes : ByteArray} (hnames : after.Names (dir.join key) loc)
    (hstands : (∀ dest ∈ destinations dir rest, ¬after.Names dest loc) →
      after.tree.lookup loc = some (.file bytes)) :
    after.node? (dir.join key) = some (.file bytes) := by
  have hlocate : ∀ p ∈ inventory.entries,
      after.locate (dir.join p.1) = after.locate dir ++ [p.1] := fun p hp =>
    FileSystem.locate_join_plain after dir (hplain p.1 (OrderedMap.mem_keys_of_mem hp))
  have hloc : loc = after.locate dir ++ [key] :=
    hnames.eq_locate.trans (hlocate (key, entry) (by simp [hsplit]))
  have hfile : after.tree.lookup loc = some (.file bytes) := by
    refine hstands fun dest hdest hnamed => ?_
    obtain ⟨later, entry', hlater, rfl⟩ := mem_destinations.1 hdest
    have hbefore := (OrderedMap.before_of_entries hsplit).2 (later, entry') hlater
    have hsame := hnamed.eq_locate.trans (hlocate (later, entry') (by simp [hsplit, hlater]))
    rw [hloc] at hsame
    exact KeyOrder.ne_of_before hbefore (by simpa using hsame)
  rw [FileSystem.node?_of_resolve (hnames.resolve (by rw [hfile]; simp)), hfile]

/-- A name that is not saved leads where it led before. -/
theorem node?_of_unsaved (hplain : ∀ e ∈ entries, Path.Plain e.1) (hdir : fs.Settled dir)
    (halters : FileSystem.Alters (destinations dir entries) fs after) (hname : Path.Plain name)
    (habsent : ∀ e ∈ entries, e.1 ≠ name) :
    after.node? (dir.join name) = fs.node? (dir.join name) := by
  refine FileSystem.node?_join_of_same hdir halters.working halters.keeps hname
    (halters.lookup_beside hdir ?_)
  intro dest hdest
  obtain ⟨key, entry, hmem, rfl⟩ := mem_destinations.1 hdest
  exact ⟨key, hplain (key, entry) hmem, habsent (key, entry) hmem, rfl⟩

section Saved

variable {summary : Summary} (hplain : ∀ key ∈ inventory.keys, Path.Plain key)
  (hx : ∀ key entry, inventory.get? key = some entry → entry.isExecutable = true →
    ∀ x ∈ exporter, x.Deposits)
  (hok : (inventory.save fs dir exporter).answer = .ok summary)
include hx hok

theorem tidy_of_saved : Tidy exporter inventory.entries ∧
    FileSystem.Alters (destinations dir inventory.entries) fs
      (inventory.save fs dir exporter).files := by
  obtain ⟨-, p, hrun, -, hfiles⟩ := save_answer_ok hok
  have htidy : Tidy exporter inventory.entries := tidy_of_deposits fun e he =>
    hx e.1 e.2 ((inventory.mem_entries_iff e.1 e.2).1 he)
  exact ⟨htidy, (alters_saveEntries_ok htidy hrun).trans (hfiles ▸ FileSystem.Alters.refl _ _)⟩

include hplain

/-- Under its key each file of the inventory has its bytes. -/
theorem kept_of_saved (hget : inventory.get? key = some entry) :
    ∃ bytes, (inventory.save fs dir exporter).files.node? (dir.join key) = some (.file bytes) ∧
      entry.content.SavedAs bytes := by
  obtain ⟨hfault, p, hrun, -, hfiles⟩ := save_answer_ok hok
  have hchecked := fault?_eq_none_iff.1 hfault
  have hmem : (key, entry) ∈ inventory.entries := (inventory.mem_entries_iff key entry).2 hget
  have hexport : entry.isExecutable = true → ∃ x ∈ exporter, x.Deposits := by
    intro hexec
    obtain ⟨x, hsome⟩ := Option.isSome_iff_exists.1 ((hchecked key entry hmem).2 hexec)
    exact ⟨x, hsome, hx key entry hget hexec x hsome⟩
  obtain ⟨done, rest, hsplit⟩ := List.append_of_mem hmem
  have hrest : Tidy exporter rest := (tidy_of_saved hx hok).1.subset (by simp [hsplit])
  rw [hsplit] at hrun
  obtain ⟨bytes, loc, hsaved, hnames, hstands⟩ := saveEntries_stands hrest hexport hrun
  rw [← hfiles] at hnames hstands
  exact ⟨bytes, node?_of_saved hplain hsplit hnames hstands, hsaved⟩

/-- A name that is not in the inventory leads where it led before. -/
theorem node?_beside_saved (hdir : fs.Settled dir) (hname : Path.Plain name)
    (habsent : inventory.get? name = none) :
    (inventory.save fs dir exporter).files.node? (dir.join name) = fs.node? (dir.join name) := by
  refine node?_of_unsaved (fun e he => hplain e.1 (OrderedMap.mem_keys_of_mem he)) hdir
    (tidy_of_saved hx hok).2 hname ?_
  rintro ⟨key, entry⟩ he rfl
  rw [(inventory.mem_entries_iff key entry).1 he] at habsent
  cases habsent

end Saved

/-- A save lays the files of its inventory over those that the directory holds. -/
theorem Held.save (h : Held fs dir old) (hdir : fs.Settled dir)
    (hold : ∀ key ∈ old.keys, Path.Plain key) (hplain : ∀ key ∈ inventory.keys, Path.Plain key)
    (hx : ∀ key entry, inventory.get? key = some entry → entry.isExecutable = true →
      ∀ x ∈ exporter, x.Deposits)
    {summary : Summary} (hok : (inventory.save fs dir exporter).answer = .ok summary) :
    let saved := (inventory.save fs dir exporter).files
    Held saved dir (old.overlay inventory) ∧ saved.Settled dir := by
  intro saved
  have halters := (tidy_of_saved hx hok).2
  refine ⟨⟨fun key entry hkey => ?_, fun name hname habsent => ?_⟩,
    hdir.of_keeps halters.working halters.keeps⟩
  · rw [OrderedMap.get?_overlay] at hkey
    cases hget : inventory.get? key with
    | none =>
      rw [hget, Option.none_or] at hkey
      have hmem := OrderedMap.mem_keys_of_mem ((old.mem_entries_iff key entry).2 hkey)
      rw [node?_beside_saved hplain hx hok hdir (hold key hmem) hget]
      exact h.kept key entry hkey
    | some entry' =>
      rw [hget, Option.some_or] at hkey
      obtain rfl := Option.some.inj hkey
      exact kept_of_saved hplain hx hok hget
  · rw [OrderedMap.get?_overlay] at habsent
    obtain ⟨hnew, hbefore⟩ := Option.or_eq_none_iff.1 habsent
    rw [node?_beside_saved hplain hx hok hdir hname hnew]
    exact h.absent name hname hbefore

theorem held_of_save (hplain : ∀ key ∈ inventory.keys, Path.Plain key) {root : Location}
    (hroot : fs.Opens dir root) (hempty : ∀ name, fs.tree.lookup (root ++ [name]) = none)
    (hx : ∀ key entry, inventory.get? key = some entry → entry.isExecutable = true →
      ∀ x ∈ exporter, x.Deposits)
    {summary : Summary} (hok : (inventory.save fs dir exporter).answer = .ok summary) :
    Held (inventory.save fs dir exporter).files dir inventory := by
  have hnothing : Held fs dir (OrderedMap.empty : Inventory ε) := by
    refine held_empty fun name hname => FileSystem.node?_eq_none ?_
    rw [FileSystem.locate_join_plain fs dir hname, ← hroot.eq_locate]
    exact hempty name
  have hsaved := (hnothing.save (.inl ⟨root, hroot⟩) (fun key hkey => by cases hkey) hplain hx hok).1
  rwa [OrderedMap.empty_overlay] at hsaved

end Save

/-! ## Reading it back -/

theorem Held.present (h : Held fs dir inventory) (hname : Path.Plain name) :
    fs.present (dir.join name) = inventory.contains name := by
  unfold FileSystem.present OrderedMap.contains
  cases hget : inventory.get? name with
  | none => rw [h.absent name hname hget]; rfl
  | some entry =>
    obtain ⟨bytes, hfile, -⟩ := h.kept name entry hget
    rw [hfile]
    rfl

/-- A text that was kept comes back as it was, and none comes back where none was kept. -/
theorem Held.tryText (h : Held fs dir inventory) (hname : Path.Plain name)
    (htext : ∀ entry, inventory.get? name = some entry → entry.content.text?.isSome = true) :
    (fs.tryText (dir.join name)).value =
      (inventory.get? name).bind fun entry => entry.content.text? := by
  cases hget : inventory.get? name with
  | none =>
    rw [FileSystem.tryText_of_absent (h.absent name hname hget)]
    rfl
  | some entry =>
    obtain ⟨text, hcontent⟩ := Option.isSome_iff_exists.1 (htext entry hget)
    obtain ⟨bytes, hfile, hsaved⟩ := h.kept name entry hget
    obtain rfl : bytes = text.toUTF8 := hsaved _ (Content.bytes?_of_text? hcontent)
    rw [FileSystem.tryText_eq_some_iff.2 hfile, Option.bind_some, hcontent]

end Inventory
end KernelArchive
