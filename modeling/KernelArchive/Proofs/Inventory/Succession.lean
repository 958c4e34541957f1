import KernelArchive.Proofs.Inventory.Holdings
import KernelArchive.Proofs.Inventory.Persistence

/-!
# Saving one inventory after the other

* `Inventory.saveInTurn`: several saves, each into what the one before has left. What every save
  respects, they respect together (`lasting_saveInTurn`).
* `Inventory.last?`, `Inventory.lastText`: what the last of several inventories that have a key
  keeps under it.
* `Inventory.held_saveInTurn`: so a directory holds it after all of them have been saved.
-/

namespace KernelArchive
namespace Inventory
set_option autoImplicit false

variable {ε : Type} {dir : Path} {fs : FileSystem} {key : String} {entry : Entry ε}
  {old : Inventory ε} {inventories : List (Inventory ε)}

/-! ## Several saves -/

/-- One save that is asked for. -/
structure Request (ε : Type) where
  dir : Path
  inventory : Inventory ε
  exporter : Option (Exporter ε)

/-- What several saves leave, and what each of them comes to. -/
def saveInTurn : FileSystem → List (Request ε) → FileSystem × List (Except SaveError Summary)
  | fs, [] => (fs, [])
  | fs, r :: rest =>
    let out := r.inventory.save fs r.dir r.exporter
    let (after, answers) := saveInTurn out.files rest
    (after, out.answer :: answers)

theorem lasting_saveInTurn {R : FileSystem → FileSystem → Prop} (hR : FileSystem.Lasting R)
    {requests : List (Request ε)} (hx : ∀ r ∈ requests, ∀ x ∈ r.exporter, x.Respects R)
    (fs : FileSystem) : R fs (saveInTurn fs requests).1 := by
  induction requests generalizing fs with
  | nil => exact hR.refl fs
  | cons r rest ih =>
    have hfirst : R fs (r.inventory.save fs r.dir r.exporter).files :=
      lasting_save hR (hx r List.mem_cons_self) fs r.inventory
    exact hR.trans hfirst (ih (fun s hs => hx s (List.mem_cons_of_mem r hs)) _)

/-! ## The last of several inventories -/

/-- The entry of the last inventory that has the key. -/
def last? (inventories : List (Inventory ε)) (key : String) : Option (Entry ε) :=
  inventories.reverse.findSome? (·.get? key)

/-- The text of the last inventory that has the key. -/
def lastText (inventories : List (Inventory ε)) (key : String) : Option String :=
  (last? inventories key).bind fun entry => entry.content.text?

theorem last?_cons (first : Inventory ε) :
    last? (first :: inventories) key = (last? inventories key).or (first.get? key) := by
  unfold last?
  rw [List.reverse_cons, List.findSome?_append, List.findSome?_singleton]

theorem get?_of_last? (h : last? inventories key = some entry) :
    ∃ inventory ∈ inventories, inventory.get? key = some entry := by
  obtain ⟨inventory, hmem, hget⟩ := List.exists_of_findSome?_eq_some h
  exact ⟨inventory, List.mem_reverse.1 hmem, hget⟩

theorem isSome_last? :
    (last? inventories key).isSome = true ↔ ∃ inventory ∈ inventories, key ∈ inventory.keys := by
  rw [last?, List.findSome?_isSome_iff]
  simp only [List.mem_reverse]
  exact exists_congr fun inventory => and_congr_right fun _ => inventory.contains_iff key

/-- Laid over each other, the last inventory that has a key counts. -/
theorem get?_foldl_overlay (inventories : List (Inventory ε)) (old : Inventory ε) (key : String) :
    (inventories.foldl OrderedMap.overlay old).get? key =
      (last? inventories key).or (old.get? key) := by
  induction inventories generalizing old with
  | nil => rfl
  | cons first rest ih =>
    rw [List.foldl_cons, ih, OrderedMap.get?_overlay, last?_cons, Option.or_assoc]

/-! ## What a directory holds in the end -/

/-- The save goes into the directory under plain names; an exporter writes its file. -/
structure Request.Into (r : Request ε) (dir : Path) : Prop where
  dir_eq : r.dir = dir
  plain : ∀ key ∈ r.inventory.keys, Path.Plain key
  deposits : ∀ key entry, r.inventory.get? key = some entry → entry.isExecutable = true →
    ∀ x ∈ r.exporter, x.Deposits

theorem held_overlay_saveInTurn {requests : List (Request ε)} (h : Held fs dir old)
    (hdir : fs.Settled dir) (hold : ∀ key ∈ old.keys, Path.Plain key)
    (hinto : ∀ r ∈ requests, r.Into dir)
    (hok : ∀ answer ∈ (saveInTurn fs requests).2, ∃ summary, answer = .ok summary) :
    Held (saveInTurn fs requests).1 dir
      ((requests.map (·.inventory)).foldl OrderedMap.overlay old) := by
  induction requests generalizing fs old with
  | nil => exact h
  | cons r rest ih =>
    have hr := hinto r List.mem_cons_self
    obtain ⟨summary, hsummary⟩ := hok _ List.mem_cons_self
    rw [hr.dir_eq] at hsummary
    obtain ⟨hheld, hsettled⟩ := h.save hdir hold hr.plain hr.deposits hsummary
    have hplain : ∀ key ∈ (old.overlay r.inventory).keys, Path.Plain key := by
      intro key hkey
      rcases OrderedMap.mem_keys_overlay.1 hkey with hbefore | hnew
      · exact hold key hbefore
      · exact hr.plain key hnew
    have hrest := ih hheld hsettled hplain (fun s hs => hinto s (List.mem_cons_of_mem r hs))
      (fun answer hmem => hok answer (List.mem_cons_of_mem _ (by rwa [hr.dir_eq])))
    show Held (saveInTurn (r.inventory.save fs r.dir r.exporter).files rest).1 dir _
    rwa [hr.dir_eq]

/-- A directory that had none of the names holds what the last inventories keep. -/
theorem held_saveInTurn {requests : List (Request ε)} (hdir : fs.Settled dir)
    (hempty : ∀ name, Path.Plain name → fs.node? (dir.join name) = none)
    (hinto : ∀ r ∈ requests, r.Into dir)
    (hok : ∀ answer ∈ (saveInTurn fs requests).2, ∃ summary, answer = .ok summary) :
    ∃ held, Held (saveInTurn fs requests).1 dir held ∧
      ∀ key, held.get? key = last? (requests.map (·.inventory)) key :=
  ⟨_, held_overlay_saveInTurn (held_empty hempty) hdir (fun _ h => nomatch h) hinto hok,
    fun key => (get?_foldl_overlay _ _ key).trans (Option.or_none)⟩

end Inventory
end KernelArchive
