import KernelArchive.Proofs.Inventory.Saving

/-!
# What saving never undoes

* `Exporter.Respects`: a relation between file systems holds of whatever the exporter does.
* `Inventory.lasting_saveEntries`, `lasting_save`: if it holds of making room and of writing too,
  then it holds of every save, whatever that comes to.
-/

namespace KernelArchive
set_option autoImplicit false

variable {ε : Type} {R : FileSystem → FileSystem → Prop}

/-- The relation holds of whatever the exporter does. -/
def Exporter.Respects (x : Exporter ε) (R : FileSystem → FileSystem → Prop) : Prop :=
  ∀ fs executable path, R fs (x fs executable path).1

theorem Exporter.respects_writing (hR : FileSystem.Lasting R)
    (bytes? : ε → Except IoFailure ByteArray) : (writing bytes?).Respects R := by
  intro fs executable path
  unfold writing
  split
  · exact hR.refl fs
  · split
    · exact hR.refl fs
    · next hwrite => exact hR.write hwrite

namespace Inventory

variable {dir : Path} {exporter : Option (Exporter ε)} {p p' : Progress ε} {key : String}
  {entry : Entry ε} {entries : List (String × Entry ε)} {r : Except SaveError Unit}

theorem EntryStep.lasting (h : EntryStep dir exporter p key entry p' r)
    (hR : FileSystem.Lasting R)
    (hx : entry.isExecutable = true → ∀ x ∈ exporter, x.Respects R) : R p.files p'.files := by
  have hexported : ∀ {made left : FileSystem} {executable : ε} {x : Exporter ε}
      {result : Except IoFailure Unit}, makeRoom p.files (dir.join key) = (made, .ok ()) →
      entry.content = .executable executable → exporter = some x →
      x made executable (dir.join key) = (left, result) → R p.files left := by
    intro made left executable x result hroom hcontent hsome hexport
    have hrespects := hx (isExecutable_of_content hcontent) x hsome
    have hleft := hrespects made executable (dir.join key)
    rw [hexport] at hleft
    exact hR.trans (hR.grows (grows_makeRoom hroom)) hleft
  cases h with
  | blocked hroom => exact hR.grows (grows_makeRoom hroom)
  | refused hroom => exact hR.grows (grows_makeRoom hroom)
  | written hroom hbytes hwrite => exact hR.trans (hR.grows (grows_makeRoom hroom)) (hR.write hwrite)
  | skipped hroom => exact hR.grows (grows_makeRoom hroom)
  | declined hroom hcontent hsome hexport => exact hexported hroom hcontent hsome hexport
  | exported hroom hcontent hsome hexport => exact hexported hroom hcontent hsome hexport

theorem lasting_saveEntries (hR : FileSystem.Lasting R)
    (hx : ∀ e ∈ entries, e.2.isExecutable = true → ∀ x ∈ exporter, x.Respects R)
    (h : saveEntries dir exporter p entries = (p', r)) : R p.files p'.files := by
  induction entries generalizing p with
  | nil =>
    cases h
    exact hR.refl _
  | cons first rest ih =>
    obtain ⟨key, entry⟩ := first
    have hfirst := hx (key, entry) List.mem_cons_self
    rw [saveEntries_cons] at h
    split at h
    · next hstep =>
      cases h
      exact (entryStep hstep).lasting hR hfirst
    · next hstep =>
      refine hR.trans ((entryStep hstep).lasting hR hfirst) ?_
      exact ih (fun e he => hx e (List.mem_cons_of_mem _ he)) h

theorem lasting_save (hR : FileSystem.Lasting R) (hx : ∀ x ∈ exporter, x.Respects R)
    (fs : FileSystem) (inventory : Inventory ε) : R fs (inventory.save fs dir exporter).files := by
  cases hfault : inventory.fault? exporter.isSome with
  | some e =>
    rw [save_of_fault hfault]
    exact hR.refl fs
  | none =>
    cases hrun : saveEntries dir exporter ⟨fs, .nothing, []⟩ inventory.entries with
    | mk p result =>
      have hlasts := lasting_saveEntries hR (fun _ _ _ => hx) hrun
      cases result with
      | error e => rw [save_of_error hfault hrun]; exact hlasts
      | ok => rw [save_of_ok hfault hrun]; exact hlasts

end Inventory
end KernelArchive
