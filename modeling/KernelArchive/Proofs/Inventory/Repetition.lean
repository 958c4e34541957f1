import KernelArchive.Proofs.Inventory.Laying

/-!
# Saving once more

* `Inventory.Lays.again`: files that have been laid down can be laid down again, and nothing
  changes.
* `Inventory.save_again`: saving the same inventory a second time comes to the same.
-/

namespace KernelArchive
set_option autoImplicit false

namespace Inventory

variable {ε : Type} {dir : Path} {entries : List (String × Entry ε)} {fs after : FileSystem}

/-- On the way some files may hold other bytes for a while, those of a smaller key for the same
location; in the end the last one counts again. -/
theorem Lays.again (hrel : ∀ key ∈ entries.map (·.1), key.toList.head? ≠ some '/')
    (hplain : ∀ e ∈ entries, e.2.isExecutable = false) (h : Lays dir entries fs after) :
    Lays dir entries after after := by
  have hfirst : Layable fs dir (entries.map (·.1)) := (lays_iff hrel hplain).1 ⟨after, h⟩
  have hsecond : Layable after dir (entries.map (·.1)) :=
    hfirst.lays hrel h (List.Subset.refl _)
  obtain ⟨later, hlater⟩ := (lays_iff hrel hplain).2 hsecond
  have hsame : later = after := by
    refine FileSystem.ext_lookup hlater.working fun loc => ?_
    rw [hlater.lookup, laid_of_working h.working, h.lookup, ← Option.or_assoc, Option.or_self]
  rw [hsame] at hlater
  exact hlater

/-- Saving an inventory without executables a second time comes to the same in every respect: the
answer, the files, and what is reported. -/
theorem save_again (fs : FileSystem) (dir : Path) (inventory : Inventory ε)
    (exporter : Option (Exporter ε))
    (hplain : ∀ e ∈ inventory.entries, e.2.isExecutable = false) {summary : Summary}
    (hok : (inventory.save fs dir exporter).answer = .ok summary) :
    let out := inventory.save fs dir exporter
    inventory.save out.files dir exporter = out := by
  intro out
  obtain ⟨hsafe, hlays⟩ := (save_ok_iff hplain).1 ⟨⟨summary, hok⟩, rfl⟩
  have hrel : ∀ key ∈ inventory.keys, key.toList.head? ≠ some '/' :=
    fun key hkey => (PathFault.of?_eq_none (hsafe key hkey)).1
  have hagain : Lays dir inventory.entries out.files out.files := hlays.again hrel hplain
  obtain ⟨⟨summary', hok'⟩, hfiles⟩ := (save_ok_iff hplain).2 ⟨hsafe, hagain⟩
  obtain rfl : summary' = summary := (summary_of_save hok').trans (summary_of_save hok).symm
  rw [save_of_plain hplain hok', hfiles]
  exact (save_of_plain hplain hok).symm

/-- Two keys for one file, which holds the bytes of the smaller key for a while. -/
theorem save_again_shared :
    let fs : FileSystem := ⟨FileTree.empty.put [] "z" (.file "old".toUTF8), []⟩
    let inventory : Inventory ByteArray :=
      Inventory.ofEntries [.ofText "x/y" "a", .ofText "x//y" "b", .ofText "z" "c"]
    let out := inventory.save fs ⟨"k/.."⟩ none
    out.answer = .ok ⟨[⟨"k/../x//y"⟩, ⟨"k/../x/y"⟩, ⟨"k/../z"⟩], [], 3⟩ ∧
      inventory.save out.files ⟨"k/.."⟩ none = out := by
  intro fs inventory out
  have hok : out.answer = .ok ⟨[⟨"k/../x//y"⟩, ⟨"k/../x/y"⟩, ⟨"k/../z"⟩], [], 3⟩ := by
    decide +kernel
  exact ⟨hok, save_again fs ⟨"k/.."⟩ inventory none (by decide +kernel) hok⟩

end Inventory
end KernelArchive
