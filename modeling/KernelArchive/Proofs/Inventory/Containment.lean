import KernelArchive.Proofs.Inventory.Saving

/-!
# Saving stays below its directory

* `Inventory.save_contained`: whatever saving comes to, a node that is not below the directory is
  left alone, and what is new there is a directory on the way to it.

The empty path stands for the working directory here, as it does when names are put under it. The
directory is looked up afterwards, because saving may create it.
-/

namespace KernelArchive
namespace Inventory
set_option autoImplicit false

variable {ε : Type}

/-- What saving alters outside its directory: it may create directories on the way, no more. -/
theorem save_contained (fs : FileSystem) (dir : Path) (inventory : Inventory ε)
    (exporter : Option (Exporter ε)) (hx : ∀ x ∈ exporter, x.Confined) :
    let after := (inventory.save fs dir exporter).files
    after.working = fs.working ∧ (∀ root, fs.Opens dir root → after.Opens dir root) ∧
      ∀ loc, (¬∃ root, after.Opens dir root ∧ root <+: loc) →
        after.tree.lookup loc = fs.tree.lookup loc ∨
        (fs.tree.lookup loc = none ∧ after.tree.lookup loc = some .directory ∧
          after.Passes dir loc) := by
  intro after
  have halters : FileSystem.Alters (destinations dir inventory.entries) fs after := alters_save hx
  refine ⟨halters.working, fun root h => h.of_keeps halters.working halters.keeps, ?_⟩
  intro loc hout
  cases hfault : inventory.fault? exporter.isSome with
  | some e =>
    left
    show (inventory.save fs dir exporter).files.tree.lookup loc = fs.tree.lookup loc
    rw [save_of_fault hfault]
  | none =>
    have hsafe : ∀ dest ∈ destinations dir inventory.entries, ∃ key, dest = dir.join key ∧
        key.toList.head? ≠ some '/' ∧ ".." ∉ Text.segments '/' key := by
      intro dest hdest
      obtain ⟨key, entry, hmem, rfl⟩ := mem_destinations.1 hdest
      exact ⟨key, rfl, PathFault.of?_eq_none (fault?_eq_none_iff.1 hfault key entry hmem).1⟩
    rcases halters.frame loc with
      hsame | ⟨dest, hdest, hnames⟩ | ⟨hfree, hdir, dest, hdest, q, hq, hres⟩
    · exact .inl hsame
    · obtain ⟨key, rfl, hrel, hup⟩ := hsafe dest hdest
      exact absurd (hnames.below hrel hup) hout
    · obtain ⟨key, rfl, hrel, hup⟩ := hsafe dest hdest
      refine .inr ⟨hfree, hdir, ?_⟩
      obtain ⟨left, -, hheads, -⟩ := Path.heads_of_mem_around hq
      rcases FileSystem.resolve_heads_join hrel hheads hres with
        hpass | ⟨root, into, hroot, hinto, rfl⟩
      · exact hpass
      · -- what lies on the way from the directory to the file is below the directory
        have hdown : ".." ∉ into := fun hm => hup (hinto ▸ List.mem_append_left left hm)
        exact absurd ⟨root, hroot, Location.prefix_follow hdown root⟩ hout

/-- A file beside the directory is kept, also where the directory is reached by going up. -/
theorem save_contained_beside :
    let fs : FileSystem := ⟨FileTree.empty.put [] "kept" (.file "k".toUTF8), []⟩
    let inventory : Inventory ByteArray :=
      Inventory.ofEntries [.ofText "./sub//x" "a", .ofExecutable "y" "b".toUTF8]
    let exporter : Exporter ByteArray := Exporter.writing .ok
    exporter.Confined ∧
      (inventory.save fs ⟨"new/../dir/"⟩ (some exporter)).files.tree.lookup ["kept"] =
        some (.file "k".toUTF8) := by
  intro fs inventory exporter
  have hx : exporter.Confined := Exporter.confined_writing _
  refine ⟨hx, ?_⟩
  have hcontained := save_contained fs ⟨"new/../dir/"⟩ inventory (some exporter)
    (fun x h => Option.some.inj h ▸ hx)
  have hopens : (inventory.save fs ⟨"new/../dir/"⟩ (some exporter)).files.Opens ⟨"new/../dir/"⟩
      ["dir"] := ⟨by decide +kernel, FileTree.hasDirectory_iff.1 (by decide +kernel)⟩
  have hadmits : FileTree.empty.admits [] "kept" (.file "k".toUTF8) = true := by decide +kernel
  have hkept : fs.tree.lookup ["kept"] = some (.file "k".toUTF8) :=
    FileTree.lookup_put hadmits ["kept"]
  have hout : ¬∃ root, (inventory.save fs ⟨"new/../dir/"⟩ (some exporter)).files.Opens
      ⟨"new/../dir/"⟩ root ∧ root <+: ["kept"] := by
    rintro ⟨root, hroot, hbelow⟩
    rw [hroot.unique hopens] at hbelow
    revert hbelow
    decide
  have hsame := (hcontained.2.2 ["kept"] hout).resolve_right fun h => by
    rw [hkept] at h
    exact absurd h.1 (by simp)
  exact hsame.trans hkept

end Inventory
end KernelArchive
