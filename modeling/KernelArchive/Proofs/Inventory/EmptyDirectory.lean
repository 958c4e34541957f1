import KernelArchive.Proofs.Inventory.Laying

/-!
# Saving to an empty directory

* `FileSystem.Vacant`: names put under a path start at a directory with nothing in it.
* `Inventory.Fits`: what a key needs there, told of its text alone. A file can be placed exactly for
  the keys that fit (`fits_of_ready`, `Fits.ready`).
* `Inventory.Fits.mem_way_iff`: when one key is on the way to another.
* `Inventory.save_vacant_iff`: when saving succeeds, if there are no executables.
-/

namespace KernelArchive
set_option autoImplicit false

variable {dir : Path} {key other : String} {root loc : Location} {into : List String}
  {name : String}

namespace FileSystem

variable {fs : FileSystem}

/-- Names put under the path start at a directory with nothing in it. -/
structure Vacant (fs : FileSystem) (dir : Path) (root : Location) : Prop where
  opens : fs.Opens dir root
  empty : ∀ name, fs.tree.lookup (root ++ [name]) = none

theorem Vacant.lookup_below (h : fs.Vacant dir root) (hbelow : root <+: loc) (hne : root ≠ loc) :
    fs.tree.lookup loc = none := by
  by_contra hnode
  obtain ⟨more, rfl⟩ := hbelow
  cases more with
  | nil => simp at hne
  | cons name rest =>
    have hfirst := h.empty name
    rw [List.append_cons] at hnode
    by_cases hrest : rest = []
    · rw [hrest, List.append_nil] at hnode
      exact hnode hfirst
    · rw [FileTree.lookup_above hnode (List.prefix_append _ _) (by simpa using hrest)] at hfirst
      cases hfirst

theorem Vacant.start (h : fs.Vacant dir root) : fs.tree.lookup (fs.start dir) = some .directory :=
  (FileTree.enter_iff_way.1 (opens_iff.1 h.opens).2).2.2 _ (Location.start_mem_way _ _)

theorem Vacant.not_nul (h : fs.Vacant dir root) : '\x00' ∉ dir.text.toList := by
  rcases (opens_iff.1 h.opens).1 with hempty | htext
  · simp [hempty]
  · exact (textFault?_eq_none_iff.1 htext).1

section Key

variable (h : fs.Vacant dir root) (hrel : key.toList.head? ≠ some '/')
  (hkey : Text.segments '/' key = into ++ [name])
include h hrel hkey

theorem Vacant.locate (hempty : name ≠ "") (hhere : name ≠ ".") (hup : name ≠ "..") :
    fs.locate (dir.join key) = Location.follow root into ++ [name] := by
  rw [locate_join fs hrel, ← h.opens.eq_locate, hkey, Location.follow_append, Location.follow_cons,
    Location.descend_name hempty hhere hup, Location.follow_nil]

/-- The way to a key leads through directories to the empty one, and from there straight down. -/
theorem Vacant.mem_way (hup : ".." ∉ into) : loc ∈ fs.way (dir.join key) ↔
    loc ∈ Location.way (fs.start dir) dir.leading ∨
      root <+: loc ∧ loc <+: Location.follow root into := by
  have hroot : root = Location.follow (fs.start dir) dir.leading :=
    FileTree.enter_eq_follow (opens_iff.1 h.opens).2
  rw [way, start_join fs hrel, (Path.join_eq dir hrel hkey).1, Location.mem_way_append, ← hroot,
    Location.mem_way_iff hup]

theorem Vacant.mem_way_below (hup : ".." ∉ into) (hbelow : root <+: loc) (hne : root ≠ loc) :
    loc ∈ fs.way (dir.join key) ↔ loc <+: Location.follow root into := by
  rw [h.mem_way hrel hkey hup]
  constructor
  · rintro (hlead | ⟨-, hinto⟩)
    · have hdir := (FileTree.enter_iff_way.1 (opens_iff.1 h.opens).2).2.2 loc hlead
      rw [h.lookup_below hbelow hne] at hdir
      cases hdir
    · exact hinto
  · exact fun hinto => .inr ⟨hbelow, hinto⟩

end Key

end FileSystem

namespace Inventory

variable {ε : Type} {fs : FileSystem}

/-- What the key of a file in an empty directory needs: it is a safe path without NUL, it ends in a
name, and neither a segment nor the whole path is too long. -/
structure Fits (dir : Path) (key : String) : Prop where
  safe : PathFault.of? key = none
  not_nul : '\x00' ∉ key.toList
  not_blank : (Text.segments '/' key).getLast? ≠ some ""
  not_here : (Text.segments '/' key).getLast? ≠ some "."
  short : ∀ s ∈ Text.segments '/' key, s.utf8ByteSize ≤ nameLimit
  length : (dir.join key).text.utf8ByteSize ≤ pathLimit

instance (dir : Path) (key : String) : Decidable (Fits dir key) :=
  decidable_of_iff (PathFault.of? key = none ∧ '\x00' ∉ key.toList ∧
      (Text.segments '/' key).getLast? ≠ some "" ∧ (Text.segments '/' key).getLast? ≠ some "." ∧
      (∀ s ∈ Text.segments '/' key, s.utf8ByteSize ≤ nameLimit) ∧
      (dir.join key).text.utf8ByteSize ≤ pathLimit)
    ⟨fun ⟨h₁, h₂, h₃, h₄, h₅, h₆⟩ => ⟨h₁, h₂, h₃, h₄, h₅, h₆⟩,
      fun ⟨h₁, h₂, h₃, h₄, h₅, h₆⟩ => ⟨h₁, h₂, h₃, h₄, h₅, h₆⟩⟩

/-- A key that fits leads down by proper names. -/
theorem Fits.segments (h : Fits dir key) : ∃ into name,
    Text.segments '/' key = into ++ [name] ∧ ".." ∉ into ∧
      name ≠ "" ∧ name ≠ "." ∧ name ≠ ".." := by
  obtain ⟨into, name, hkey⟩ := Text.segments_eq_concat key
  have hup := (PathFault.of?_eq_none h.safe).2
  have hblank := h.not_blank
  have hhere := h.not_here
  simp only [hkey, List.getLast?_concat, ne_eq, Option.some.injEq] at hblank hhere
  rw [hkey, List.mem_append, List.mem_singleton, not_or] at hup
  exact ⟨into, name, hkey, hup.1, hblank, hhere, Ne.symm hup.2⟩

/-- A key that can be written fits, whatever there is. -/
theorem fits_of_ready (hsafe : PathFault.of? key = none) (hready : fs.Ready (dir.join key)) :
    Fits dir key := by
  obtain ⟨hrel, -⟩ := PathFault.of?_eq_none hsafe
  obtain ⟨into, name, hkey⟩ := Text.segments_eq_concat key
  obtain ⟨happroach, hlast⟩ := Path.join_eq dir hrel hkey
  obtain ⟨hnul, -, hlength⟩ := FileSystem.textFault?_eq_none_iff.1 hready.text
  have hempty := hready.ne_empty
  have hhere := hready.ne_here
  have hshort := hready.short
  rw [hlast] at hempty hhere hshort
  refine ⟨hsafe, fun hmem => hnul ((Path.mem_text_join hrel (by decide)).2 (.inr hmem)), ?_, ?_, ?_,
    hlength⟩
  · simpa [hkey] using hempty
  · simpa [hkey] using hhere
  · intro s hs
    rw [hkey, List.mem_append, List.mem_singleton] at hs
    rcases hs with hs | rfl
    · exact hready.clear.short s (by rw [happroach]; exact List.mem_append_right _ hs)
    · exact hshort

section Vacant

variable (h : fs.Vacant dir root)
include h

theorem Fits.below (hfits : Fits dir key) :
    root <+: fs.locate (dir.join key) ∧ root ≠ fs.locate (dir.join key) := by
  obtain ⟨hrel, hup⟩ := PathFault.of?_eq_none hfits.safe
  obtain ⟨into, name, hkey, -, hempty, hhere, -⟩ := hfits.segments
  have hname := Path.counts_of_ne hempty hhere
  rw [FileSystem.locate_join fs hrel, ← h.opens.eq_locate]
  exact ⟨Location.prefix_follow hup root, Location.follow_ne hup (by simp [hkey]) hname root⟩

theorem Fits.text (hfits : Fits dir key) : FileSystem.textFault? (dir.join key) = none := by
  obtain ⟨hrel, -⟩ := PathFault.of?_eq_none hfits.safe
  obtain ⟨into, name, hkey, -, hempty, -, -⟩ := hfits.segments
  refine FileSystem.textFault?_eq_none_iff.2 ⟨?_, fun htext => ?_, hfits.length⟩
  · rw [Path.mem_text_join hrel (by decide), not_or]
    exact ⟨h.not_nul, hfits.not_nul⟩
  · have hseg := Path.segments_eq (dir.join key)
    rw [Path.text_eq_empty_iff.1 htext, (Path.join_eq dir hrel hkey).2] at hseg
    have hlast := congrArg List.getLast? hseg
    rw [List.getLast?_concat] at hlast
    exact hempty (Option.some.inj hlast).symm

/-- On the way there are directories, and below the empty one there is nothing. -/
theorem Fits.clear (hfits : Fits dir key) :
    fs.tree.Clear (fs.start (dir.join key)) (dir.join key).approach := by
  obtain ⟨hrel, -⟩ := PathFault.of?_eq_none hfits.safe
  obtain ⟨into, name, hkey, hup, -⟩ := hfits.segments
  obtain ⟨-, hleading, hway⟩ := FileTree.enter_iff_way.1 (FileSystem.opens_iff.1 h.opens).2
  refine ⟨?_, fun s hs => ?_, fun at' hat bytes => ?_⟩
  · rw [FileSystem.start_join fs hrel]
    exact h.start
  · rw [(Path.join_eq dir hrel hkey).1, List.mem_append] at hs
    rcases hs with hs | hs
    · exact hleading s hs
    · exact hfits.short s (by rw [hkey]; exact List.mem_append_left _ hs)
  · rcases (h.mem_way hrel hkey hup).1 hat with hlead | ⟨hroot, -⟩
    · rw [hway at' hlead]
      simp
    · by_cases heq : root = at'
      · rw [← heq, h.opens.2]
        simp
      · rw [h.lookup_below hroot heq]
        simp

theorem Fits.ready (hfits : Fits dir key) : fs.Ready (dir.join key) := by
  obtain ⟨hrel, -⟩ := PathFault.of?_eq_none hfits.safe
  obtain ⟨into, name, hkey, hup, hempty, hhere, hnup⟩ := hfits.segments
  obtain ⟨hbelow, hne⟩ := hfits.below h
  have hshort := hfits.short name (by simp [hkey])
  have hbeside : fs.locate (dir.join key) ∉ fs.way (dir.join key) := by
    rw [h.mem_way_below hrel hkey hup hbelow hne, h.locate hrel hkey hempty hhere hnup]
    exact Location.not_concat_prefix _ name
  rw [← (Path.join_eq dir hrel hkey).2] at hempty hhere hnup hshort
  refine ⟨hfits.text h, hempty, hhere, hnup, hshort, hfits.clear h, hbeside, ?_⟩
  rw [h.lookup_below hbelow hne]
  simp

/-- Of two keys that fit, one is on the way to the other if its location is above the other's. -/
theorem Fits.mem_way_iff (hfits : Fits dir key) (hother : Fits dir other) :
    fs.locate (dir.join key) ∈ fs.way (dir.join other) ↔
      fs.locate (dir.join key) <+: fs.locate (dir.join other) ∧
        fs.locate (dir.join key) ≠ fs.locate (dir.join other) := by
  obtain ⟨hrel, -⟩ := PathFault.of?_eq_none hother.safe
  obtain ⟨into, name, hkey, hup, hempty, hhere, hnup⟩ := hother.segments
  obtain ⟨hbelow, hne⟩ := hfits.below h
  rw [h.mem_way_below hrel hkey hup hbelow hne, h.locate hrel hkey hempty hhere hnup]
  generalize fs.locate (dir.join key) = loc
  constructor
  · intro hinto
    refine ⟨hinto.trans (List.prefix_append _ _), fun heq => ?_⟩
    rw [heq] at hinto
    exact Location.not_concat_prefix _ name hinto
  · rintro ⟨habove, hapart⟩
    exact (List.prefix_concat_iff.1 habove).resolve_left hapart

theorem layable_iff {keys : List String} (hsafe : ∀ key ∈ keys, PathFault.of? key = none) :
    Layable fs dir keys ↔ (∀ key ∈ keys, Fits dir key) ∧ ∀ key ∈ keys, ∀ other ∈ keys,
      ¬(fs.locate (dir.join key) <+: fs.locate (dir.join other) ∧
        fs.locate (dir.join key) ≠ fs.locate (dir.join other)) := by
  constructor
  · intro hall
    have hfits : ∀ key ∈ keys, Fits dir key :=
      fun key hkey => fits_of_ready (hsafe key hkey) (hall.ready key hkey)
    refine ⟨hfits, fun key hkey other hother => ?_⟩
    rw [← (hfits key hkey).mem_way_iff h (hfits other hother)]
    exact hall.beside key hkey other hother
  · rintro ⟨hfits, hapart⟩
    refine ⟨fun key hkey => (hfits key hkey).ready h, fun key hkey other hother => ?_⟩
    rw [(hfits key hkey).mem_way_iff h (hfits other hother)]
    exact hapart key hkey other hother

end Vacant

/-- An inventory without executables can be saved to an empty directory exactly where every key fits
and no location lies above another. Several keys may name one location. -/
theorem save_vacant_iff (fs : FileSystem) (dir : Path) (root : Location) (inventory : Inventory ε)
    (exporter : Option (Exporter ε)) (hvacant : fs.Vacant dir root)
    (hplain : ∀ e ∈ inventory.entries, e.2.isExecutable = false) :
    (∃ summary, (inventory.save fs dir exporter).answer = .ok summary) ↔
      (∀ key ∈ inventory.keys, Fits dir key) ∧
        ∀ key ∈ inventory.keys, ∀ other ∈ inventory.keys,
          ¬(fs.locate (dir.join key) <+: fs.locate (dir.join other) ∧
            fs.locate (dir.join key) ≠ fs.locate (dir.join other)) := by
  rw [save_ok_iff_layable hplain]
  constructor
  · rintro ⟨hsafe, hall⟩
    exact (layable_iff hvacant hsafe).1 hall
  · rintro ⟨hfits, hapart⟩
    have hsafe : ∀ key ∈ inventory.keys, PathFault.of? key = none :=
      fun key hkey => (hfits key hkey).safe
    exact ⟨hsafe, (layable_iff hvacant hsafe).2 ⟨hfits, hapart⟩⟩

/-- Keys for one location get along; a key above another does not. -/
theorem save_vacant_above :
    let fs : FileSystem := ⟨FileTree.empty.put [] "d" .directory, []⟩
    let fine : Inventory ByteArray := Inventory.ofEntries [.ofText "a/b" "1", .ofText "a//./b" "2"]
    let above : Inventory ByteArray := Inventory.ofEntries [.ofText "a/b" "1", .ofText "a/b/c" "2"]
    fs.Vacant ⟨"d"⟩ ["d"] ∧ (∃ summary, (fine.save fs ⟨"d"⟩ none).answer = .ok summary) ∧
      ¬∃ summary, (above.save fs ⟨"d"⟩ none).answer = .ok summary := by
  intro fs fine above
  have hvacant : fs.Vacant ⟨"d"⟩ ["d"] := by
    have hlook : ∀ loc, fs.tree.lookup loc =
        if loc = [] ++ ["d"] then some .directory else FileTree.empty.lookup loc :=
      FileTree.lookup_put (by decide +kernel)
    refine ⟨⟨by decide +kernel, ?_⟩, fun name => ?_⟩
    · rw [hlook]
      rfl
    · rw [hlook]
      simp
  refine ⟨hvacant, ?_, ?_⟩
  · rw [save_vacant_iff fs ⟨"d"⟩ ["d"] fine none hvacant (by decide +kernel)]
    decide +kernel
  · rw [save_vacant_iff fs ⟨"d"⟩ ["d"] above none hvacant (by decide +kernel)]
    decide +kernel

end Inventory
end KernelArchive
