import KernelArchive.Proofs.Backend.OptionalFiles
import KernelArchive.Proofs.Inventory.Holdings

/-!
# Which device source comes back

* `SourceKind.earlier`, `SourceKind.later`: the kinds that are looked for before and after a kind.
* `FileSystem.DeviceText`: the first kind whose file in a directory is a text, with that text.
* `Backend.deviceSource_torch`: it is the device source of what is restored.
* `Backend.restore_torch_later`: files of later kinds are not looked at.
* `Backend.device_sources`: this, and what comes back of a device source that is saved.
-/

namespace KernelArchive
set_option autoImplicit false

variable {ε : Type}

/-! ## The order of the kinds -/

namespace SourceKind

/-- The kinds that are looked for before this one. -/
def earlier (kind : SourceKind) : List SourceKind := probeOrder.takeWhile (· ≠ kind)

/-- The kinds that are looked for after this one. -/
def later (kind : SourceKind) : List SourceKind := (probeOrder.dropWhile (· ≠ kind)).tail

theorem probeOrder_split (kind : SourceKind) :
    probeOrder = kind.earlier ++ kind :: kind.later := by
  cases kind <;> rfl

theorem mem_probeOrder (kind : SourceKind) : kind ∈ probeOrder := by
  rw [probeOrder_split kind]
  exact List.mem_append_right _ List.mem_cons_self

theorem not_mem_earlier_later (kind : SourceKind) : kind ∉ kind.earlier ∧ kind ∉ kind.later := by
  cases kind <;> decide

theorem earlier_trans {kind k j : SourceKind} (hk : k ∈ kind.earlier) (hj : j ∈ k.earlier) :
    j ∈ kind.earlier := by
  have hall : ∀ k ∈ kind.earlier, ∀ j ∈ k.earlier, j ∈ kind.earlier := by
    cases kind <;> decide
  exact hall k hk j hj

theorem findSome?_probeOrder {α : Type} {f : SourceKind → Option α} {a : α} :
    probeOrder.findSome? f = some a ↔ ∃ kind, f kind = some a ∧ ∀ k ∈ kind.earlier, f k = none := by
  rw [List.findSome?_eq_some_iff]
  constructor
  · rintro ⟨before, kind, behind, hsplit, hkind, hbefore⟩
    obtain ⟨hearlier, hlater⟩ := kind.not_mem_earlier_later
    rw [probeOrder_split kind] at hsplit
    obtain ⟨rfl, -⟩ := (List.append_cons_inj_of_notMem hearlier hlater).1 hsplit
    exact ⟨kind, hkind, hbefore⟩
  · rintro ⟨kind, hkind, hearlier⟩
    exact ⟨kind.earlier, kind, kind.later, probeOrder_split kind, hkind, hearlier⟩

end SourceKind

/-! ## Texts in a directory -/

namespace FileSystem

variable {fs after : FileSystem} {dir p : Path} {kind : SourceKind} {text : String}

/-- The path leads to a file whose bytes are those of a text. -/
def HasText (fs : FileSystem) (p : Path) : Prop :=
  ∃ text : String, fs.node? p = some (.file text.toUTF8)

theorem tryText_eq_none_iff : (fs.tryText p).value = none ↔ ¬fs.HasText p := by
  rw [Option.eq_none_iff_forall_ne_some, HasText, not_exists]
  exact forall_congr' fun text => not_congr tryText_eq_some_iff

theorem firstText_of_hasText (h : fs.HasText p) (rest : List Path) :
    fs.firstText (p :: rest) = fs.tryText p := by
  obtain ⟨text, hfile⟩ := h
  have htext := readText_eq_ok_iff.2 hfile
  have htry : fs.tryText p = ⟨some text, []⟩ := by rw [tryText, htext]
  rw [firstText, htry]
  rfl

/-- This kind is the first whose file in the directory holds a text, and it holds this one. -/
structure DeviceText (fs : FileSystem) (dir : Path) (kind : SourceKind) (text : String) : Prop where
  held : fs.node? (dir.join (FileName.device kind)) = some (.file text.toUTF8)
  first : ∀ k ∈ kind.earlier, ¬fs.HasText (dir.join (FileName.device k))

theorem DeviceText.congr (h : fs.DeviceText dir kind text)
    (hsame : ∀ k, k = kind ∨ k ∈ kind.earlier →
      after.node? (dir.join (FileName.device k)) = fs.node? (dir.join (FileName.device k))) :
    after.DeviceText dir kind text where
  held := (hsame kind (.inl rfl)).trans h.held
  first k hk := by
    rw [HasText, hsame k (.inr hk)]
    exact h.first k hk

end FileSystem

namespace Backend

variable {fs after origin : FileSystem} {dir : Path} {root : Location} {kind k : SourceKind}
  {text source : String} {kernel : CompiledKernel ε} {exporter : Option (Exporter ε)}
  {restored : RestoredKernel}

/-! ## What is restored -/

theorem exists_restore_torch (hlibrary : fs.present (dir.join FileName.sharedLibrary) = true) :
    ∃ restored, (torch.restore fs dir).value = some restored := by
  rw [← Option.isSome_iff_exists, isSome_restore (by decide)]
  intro name hname
  rw [List.mem_singleton.1 hname, hlibrary]

theorem deviceSource_torch (h : (torch.restore fs dir).value = some restored) :
    (∀ text, restored.deviceSource = some text ↔ ∃ kind, fs.DeviceText dir kind text) ∧
      (restored.deviceSource = none ↔
        ∀ kind, ¬fs.HasText (dir.join (FileName.device kind))) := by
  have hsource := (sources_of_assembled (assembled_of_restore h)).2.2.1 rfl
  refine ⟨fun text => ?_, ?_⟩
  · rw [hsource, SourceKind.findSome?_probeOrder]
    apply exists_congr
    intro kind
    simp only [FileSystem.tryText_eq_some_iff, FileSystem.tryText_eq_none_iff]
    exact ⟨fun h => ⟨h.1, h.2⟩, fun h => ⟨h.held, h.first⟩⟩
  · rw [hsource, List.findSome?_eq_none_iff]
    simp only [FileSystem.tryText_eq_none_iff]
    exact ⟨fun h kind => h kind kind.mem_probeOrder, fun h kind _ => h kind⟩

theorem plain_sharedLibrary : Path.Plain FileName.sharedLibrary :=
  plain_of_required (b := torch) List.mem_cons_self

/-- Once a text is found, the files of later kinds are not looked at. -/
theorem restore_torch_later (hroot : fs.Opens dir root) (hroot' : after.Opens dir root)
    (htext : fs.DeviceText dir kind text)
    (helsewhere : ∀ loc, (∀ k ∈ kind.later, ¬(root ++ [FileName.device k] <+: loc)) →
      after.tree.lookup loc = fs.tree.lookup loc) :
    torch.restore after dir = torch.restore fs dir := by
  have halike : ∀ name, Path.Plain name → name ∉ kind.later.map FileName.device →
      fs.AlikeAt after (dir.join name) := by
    intro name hname hother
    apply hroot.alikeAt_apart hroot' hname hother
    exact fun loc hloc => helsewhere loc fun k hk => hloc _ (List.mem_map_of_mem hk)
  have hearlier : ∀ p ∈ kind.earlier.map fun k => dir.join (FileName.device k),
      fs.AlikeAt after p := by
    intro p hp
    obtain ⟨k, hk, rfl⟩ := List.mem_map.1 hp
    have hother : ∀ k ∈ kind.earlier, FileName.device k ∉ kind.later.map FileName.device := by
      cases kind <;> decide
    exact halike _ (plain_device k) (hother k hk)
  have hkind : fs.AlikeAt after (dir.join (FileName.device kind)) :=
    halike _ (plain_device kind) (by cases kind <;> decide)
  have hhost : fs.AlikeAt after (dir.join FileName.host) :=
    halike _ plain_host (by cases kind <;> decide)
  have hlibrary : fs.AlikeAt after (dir.join FileName.sharedLibrary) :=
    halike _ plain_sharedLibrary (by cases kind <;> decide)
  have hthere : fs.HasText (dir.join (FileName.device kind)) := ⟨text, htext.held⟩
  have hstays : after.HasText (dir.join (FileName.device kind)) :=
    ⟨text, hkind.node?.trans htext.held⟩
  have hdevices : after.firstText (SourceKind.probeOrder.map fun k => dir.join (FileName.device k)) =
      fs.firstText (SourceKind.probeOrder.map fun k => dir.join (FileName.device k)) := by
    rw [SourceKind.probeOrder_split kind, List.map_append, List.map_cons]
    apply FileSystem.firstText_append_congr hearlier
    rw [FileSystem.firstText_of_hasText hthere, FileSystem.firstText_of_hasText hstays,
      hkind.tryText]
  unfold restore
  simp only [hdevices, hhost.tryText, hlibrary.find?]

/-! ## What a save comes to -/

theorem deposits_torch (exporter : Option (Exporter ε)) (key : String) (entry : Entry ε)
    (hget : (torch.inventory origin kernel).value.get? key = some entry)
    (hexec : entry.isExecutable = true) : ∀ x ∈ exporter, x.Deposits := by
  cases isExecutable_inventory hget hexec

section Saved

variable {summary : Summary}
  (hok : ((torch.inventory origin kernel).value.save fs dir exporter).answer = .ok summary)
include hok

theorem node?_device_saved (hsource : kernel.deviceSource = some source) :
    ((torch.inventory origin kernel).value.save fs dir exporter).files.node?
      (dir.join (FileName.device (SourceKind.ofTarget kernel.target))) =
        some (.file source.toUTF8) := by
  have hrow : (FileName.device (SourceKind.ofTarget kernel.target), _) ∈
      torch.table origin kernel := List.mem_cons_self
  have hget := get?_inventory hrow
  rw [deviceEntry, hsource] at hget
  obtain ⟨bytes, hfile, hsaved⟩ := Inventory.kept_of_saved (fun key => plain_of_inventory)
    (deposits_torch exporter) hok hget
  rw [hfile, hsaved _ rfl]

theorem node?_device_beside (hroot : fs.Opens dir root) (hk : k ≠ SourceKind.ofTarget kernel.target) :
    ((torch.inventory origin kernel).value.save fs dir exporter).files.node?
      (dir.join (FileName.device k)) = fs.node? (dir.join (FileName.device k)) := by
  refine Inventory.node?_beside_saved (fun key => plain_of_inventory) (deposits_torch exporter) hok
    (.inl ⟨root, hroot⟩) (plain_device k) (get?_inventory_eq_none ?_)
  have hall : ∀ kind, k ≠ kind → FileName.device k ∉ torch.names kind := by
    intro kind
    cases k <;> cases kind <;> decide
  exact hall _ hk

theorem present_library_saved (hroot : fs.Opens dir root)
    (hlibrary : fs.present (dir.join FileName.sharedLibrary) = true ∨
      (torch.inventory origin kernel).value.contains FileName.sharedLibrary = true) :
    ((torch.inventory origin kernel).value.save fs dir exporter).files.present
      (dir.join FileName.sharedLibrary) = true := by
  rw [FileSystem.present]
  cases hget : (torch.inventory origin kernel).value.get? FileName.sharedLibrary with
  | some entry =>
    obtain ⟨bytes, hfile, -⟩ := Inventory.kept_of_saved (fun key => plain_of_inventory)
      (deposits_torch exporter) hok hget
    rw [hfile]
    rfl
  | none =>
    rw [Inventory.node?_beside_saved (fun key => plain_of_inventory) (deposits_torch exporter) hok
      (.inl ⟨root, hroot⟩) plain_sharedLibrary hget]
    rw [OrderedMap.contains_eq_false_iff.2 hget] at hlibrary
    exact hlibrary.resolve_right Bool.false_ne_true

/-- The device source that is saved comes first, unless a text of an earlier kind was there. -/
theorem deviceText_saved (hroot : fs.Opens dir root) (hsource : kernel.deviceSource = some source) :
    let saved := ((torch.inventory origin kernel).value.save fs dir exporter).files
    let kind := SourceKind.ofTarget kernel.target
    ((∀ k ∈ kind.earlier, ¬fs.HasText (dir.join (FileName.device k))) →
      saved.DeviceText dir kind source) ∧
    ∀ k ∈ kind.earlier, ∀ text, fs.DeviceText dir k text → saved.DeviceText dir k text := by
  intro saved kind
  have hbeside : ∀ k ∈ kind.earlier, saved.node? (dir.join (FileName.device k)) =
      fs.node? (dir.join (FileName.device k)) := by
    intro k hk
    have hne : k ≠ kind := fun hkind => kind.not_mem_earlier_later.1 (hkind ▸ hk)
    exact node?_device_beside hok hroot hne
  constructor
  · intro hnone
    refine ⟨node?_device_saved hok hsource, fun k hk => ?_⟩
    rw [FileSystem.HasText, hbeside k hk]
    exact hnone k hk
  · intro k hk text htext
    refine htext.congr fun j hj => hbeside j ?_
    rcases hj with rfl | hj
    · exact hk
    · exact SourceKind.earlier_trans hk hj

end Saved

/-- In a directory with a library the device source is the text of the first kind whose file is
one; files that are missing, that are directories or that hold no text are passed over, and files of
later kinds make no difference. A device source that is saved there comes back, unless there was a
text of a kind that is looked for before its own: then that text does. -/
theorem device_sources (fs : FileSystem) (dir : Path) (root : Location)
    (hroot : fs.Opens dir root) :
    (fs.present (dir.join FileName.sharedLibrary) = true →
      ∃ restored, (torch.restore fs dir).value = some restored ∧
        (∀ text, restored.deviceSource = some text ↔ ∃ kind, fs.DeviceText dir kind text) ∧
        (restored.deviceSource = none ↔
          ∀ kind, ¬fs.HasText (dir.join (FileName.device kind)))) ∧
    (∀ kind text after, fs.DeviceText dir kind text → after.Opens dir root →
      (∀ loc, (∀ k ∈ kind.later, ¬(root ++ [FileName.device k] <+: loc)) →
        after.tree.lookup loc = fs.tree.lookup loc) →
      torch.restore after dir = torch.restore fs dir) ∧
    ∀ (origin : FileSystem) (kernel : CompiledKernel ε) exporter summary source,
      kernel.deviceSource = some source →
      let inventory := (torch.inventory origin kernel).value
      let out := inventory.save fs dir exporter
      let kind := SourceKind.ofTarget kernel.target
      out.answer = .ok summary →
      fs.present (dir.join FileName.sharedLibrary) = true ∨
        inventory.contains FileName.sharedLibrary = true →
      ∃ loaded, (torch.restore out.files dir).value = some loaded ∧
        ((∀ k ∈ kind.earlier, ¬fs.HasText (dir.join (FileName.device k))) →
          loaded.deviceSource = some source) ∧
        ∀ k ∈ kind.earlier, ∀ text, fs.DeviceText dir k text →
          loaded.deviceSource = some text := by
  refine ⟨fun hlibrary => ?_, fun kind text after htext hroot' helsewhere => ?_, ?_⟩
  · obtain ⟨restored, hrestored⟩ := exists_restore_torch hlibrary
    exact ⟨restored, hrestored, deviceSource_torch hrestored⟩
  · exact restore_torch_later hroot hroot' htext helsewhere
  · intro origin kernel exporter summary source hsource inventory out kind hok hlibrary
    obtain ⟨loaded, hloaded⟩ := exists_restore_torch (present_library_saved hok hroot hlibrary)
    obtain ⟨hfirst, hbefore⟩ := deviceText_saved hok hroot hsource
    have htexts := (deviceSource_torch hloaded).1
    refine ⟨loaded, hloaded, fun hnone => ?_, fun k hk text htext => ?_⟩
    · exact (htexts source).2 ⟨kind, hfirst hnone⟩
    · exact (htexts text).2 ⟨k, hbefore k hk text htext⟩

/-- A directory in the place of the first file is passed over, and a last file is not looked at. -/
theorem device_sources_metal :
    let common := ((FileTree.empty.put [] "c" .directory).put ["c"] "kernel_lib.so"
      (.file .empty)).put ["c"] "device_kernel.cu" .directory
    let fs : FileSystem := ⟨common.put ["c"] "device_kernel.metal" (.file "m".toUTF8), []⟩
    let after : FileSystem := ⟨fs.tree.put ["c"] "device_kernel.c" (.file "c".toUTF8), []⟩
    let kernel : CompiledKernel ByteArray :=
      ⟨some "new", none, some "Metal", none, none, none, none⟩
    let saved := ((torch.inventory fs kernel).value.save fs ⟨"c"⟩ none).files
    fs.Opens ⟨"c"⟩ ["c"] ∧
      (∃ restored, (torch.restore fs ⟨"c"⟩).value = some restored ∧
        restored.deviceSource = some "m") ∧
      torch.restore after ⟨"c"⟩ = torch.restore fs ⟨"c"⟩ ∧
      ∃ loaded, (torch.restore saved ⟨"c"⟩).value = some loaded ∧
        loaded.deviceSource = some "new" := by
  intro common fs after kernel saved
  have hroot : fs.Opens ⟨"c"⟩ ["c"] :=
    ⟨by decide +kernel, FileTree.hasDirectory_iff.1 (by decide +kernel)⟩
  have hroot' : after.Opens ⟨"c"⟩ ["c"] :=
    ⟨by decide +kernel, FileTree.hasDirectory_iff.1 (by decide +kernel)⟩
  have hlibrary : fs.present ((⟨"c"⟩ : Path).join FileName.sharedLibrary) = true := by
    decide +kernel
  have hdirectory : fs.node? ((⟨"c"⟩ : Path).join (FileName.device .cuda)) = some .directory := rfl
  have hnone : ∀ k ∈ SourceKind.metal.earlier,
      ¬fs.HasText ((⟨"c"⟩ : Path).join (FileName.device k)) := by
    intro k hk
    obtain rfl : k = .cuda := List.mem_singleton.1 hk
    rintro ⟨text, htext⟩
    rw [hdirectory] at htext
    cases htext
  have htext : fs.DeviceText ⟨"c"⟩ .metal "m" := ⟨rfl, hnone⟩
  have hadmits : fs.tree.admits ["c"] "device_kernel.c" (.file "c".toUTF8) = true := by
    decide +kernel
  have hok : ((torch.inventory fs kernel).value.save fs ⟨"c"⟩ none).answer =
      .ok ⟨[⟨"c/device_kernel.metal"⟩], [], 3⟩ := by decide +kernel
  obtain ⟨hrestored, hlater, hsaved⟩ :=
    device_sources (ε := ByteArray) fs ⟨"c"⟩ ["c"] hroot
  refine ⟨hroot, ?_, ?_, ?_⟩
  · obtain ⟨restored, hvalue, htexts, -⟩ := hrestored hlibrary
    exact ⟨restored, hvalue, (htexts "m").2 ⟨.metal, htext⟩⟩
  · refine hlater .metal "m" after htext hroot' fun loc hloc => ?_
    have hne : loc ≠ ["c"] ++ ["device_kernel.c"] := by
      rintro rfl
      exact hloc .c (by decide) (List.prefix_refl _)
    exact (FileTree.lookup_put hadmits _).trans (if_neg hne)
  · obtain ⟨loaded, hvalue, hfirst, -⟩ := hsaved fs kernel none _ "new" rfl hok (.inl hlibrary)
    exact ⟨loaded, hvalue, hfirst hnone⟩

end Backend
end KernelArchive
