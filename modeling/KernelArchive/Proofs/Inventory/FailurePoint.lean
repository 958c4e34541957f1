import KernelArchive.Proofs.Inventory.Checks

/-!
# Where a save fails

* `Inventory.Stopped`: what is left behind where one entry fails, one case for each way to fail.
* `Inventory.FailsAt`: the smaller keys are saved, and this one is not. There is at most one such
  key (`failsAt_unique`).
* `Inventory.save_fails_at`: a save that fails on the way has such a key; it leaves what the save
  of the smaller keys leaves and what this one entry has done.
-/

namespace KernelArchive
set_option autoImplicit false

variable {ε : Type}

/-! ## Directories around a path -/

/-- Directories on the way to the parent of a path have come to be, and nothing else has
happened. -/
structure MadeRoom (path : Path) (fs made : FileSystem) : Prop where
  working : made.working = fs.working
  frame : ∀ loc, made.tree.lookup loc = fs.tree.lookup loc ∨
    (fs.tree.lookup loc = none ∧ made.tree.lookup loc = some .directory ∧
      ∃ parent, path.parent? = some parent ∧ made.Passes parent loc)
  files : ∀ loc bytes,
    made.tree.lookup loc = some (.file bytes) ↔ fs.tree.lookup loc = some (.file bytes)

theorem madeRoom_of_grows {path : Path} {fs made : FileSystem}
    (h : FileSystem.Grows path.around fs made) : MadeRoom path fs made where
  working := h.working
  frame loc := by
    rcases h.frame loc with hsame | ⟨hfree, hdir, q, hq, hres⟩
    · exact .inl hsame
    · refine .inr ⟨hfree, hdir, ?_⟩
      cases hparent : path.parent? with
      | none => simp [Path.around, hparent] at hq
      | some parent =>
        have hline : q ∈ parent.lineage := by simpa [Path.around, hparent] using hq
        obtain ⟨left, hheads⟩ := Path.heads_of_mem_lineage hline
        exact ⟨parent, rfl, FileSystem.passes_of_heads hheads hres⟩
  files loc bytes := by
    rcases h.frame loc with hsame | ⟨hfree, hdir, -⟩
    · rw [hsame]
    · simp [hfree, hdir]

namespace Inventory

variable {dir : Path} {exporter : Option (Exporter ε)} {p p' : Progress ε} {key other : String}
  {entry : Entry ε} {inventory small big : Inventory ε} {e : SaveError} {fs : FileSystem}

/-! ## The entry that fails -/

/-- Where an entry fails with an error, these files and these calls are left. -/
inductive Stopped (exporter : Option (Exporter ε)) (found : FileSystem)
    (calls : List (ExportCall ε)) (path : Path) (content : Content ε) :
    SaveError → FileSystem → List (ExportCall ε) → Prop
  | blocked {made : FileSystem} {parent : Path} {cause : IoFailure}
      (hmade : MadeRoom path found made) (hparent : path.parent? = some parent) :
      Stopped exporter found calls path content (.writeFailed parent cause) made calls
  | refused {made : FileSystem} {bytes : ByteArray} {cause : IoFailure}
      (hmade : MadeRoom path found made) (hbytes : content.bytes? = some bytes)
      (hwrite : made.write path bytes = .error cause) :
      Stopped exporter found calls path content (.writeFailed path cause) made calls
  | declined {made left : FileSystem} {x : Exporter ε} {executable : ε} {cause : IoFailure}
      (hmade : MadeRoom path found made) (hcontent : content = .executable executable)
      (hx : exporter = some x) (hleft : x made executable path = (left, .error cause)) :
      Stopped exporter found calls path content (.exportFailed path cause) left
        (calls ++ [⟨executable, path, made, left, .error cause⟩])

theorem EntryStep.stopped (h : EntryStep dir exporter p key entry p' (.error e)) :
    Stopped exporter p.files p.calls (dir.join key) entry.content e p'.files p'.calls := by
  cases h with
  | blocked hroom hparent => exact .blocked (madeRoom_of_grows (grows_makeRoom hroom)) hparent
  | refused hroom hbytes hwrite =>
    exact .refused (madeRoom_of_grows (grows_makeRoom hroom)) hbytes hwrite
  | declined hroom hcontent hsome hexport =>
    exact .declined (madeRoom_of_grows (grows_makeRoom hroom)) hcontent hsome hexport

/-! ## Parts of an inventory -/

theorem fault?_of_subset {hasExporter : Bool} (hsub : small.entries ⊆ big.entries)
    (h : big.fault? hasExporter = none) : small.fault? hasExporter = none := by
  rw [fault?_eq_none_iff] at h ⊢
  intro key entry hmem
  exact h key entry (hsub hmem)

/-- Where an inventory is saved, so is every first part of it. -/
theorem save_ok_of_part {summary : Summary} (hpart : small.entries <+: big.entries)
    (h : (big.save fs dir exporter).answer = .ok summary) :
    ∃ summary', (small.save fs dir exporter).answer = .ok summary' := by
  obtain ⟨hfault, p, hrun, -, -⟩ := save_answer_ok h
  obtain ⟨more, hmore⟩ := hpart
  rw [← hmore] at hrun
  obtain ⟨mid, hmid, -⟩ := saveEntries_append_ok.1 hrun
  have hsmall : small.entries ⊆ big.entries := fun x hx => hmore ▸ List.mem_append_left _ hx
  exact ⟨mid.summary, by rw [save_of_ok (fault?_of_subset hsmall hfault) hmid]⟩

/-! ## The key that fails -/

/-- The entries with smaller keys. -/
def below (inventory : Inventory ε) (key : String) : Inventory ε :=
  inventory.filter (KeyOrder.before · key)

/-- The entries with keys that are not greater. -/
def upTo (inventory : Inventory ε) (key : String) : Inventory ε :=
  inventory.filter (!KeyOrder.before key ·)

/-- The entries with smaller keys can be saved, but not those up to the key. -/
structure FailsAt (fs : FileSystem) (dir : Path) (inventory : Inventory ε)
    (exporter : Option (Exporter ε)) (key : String) : Prop where
  bound : key ∈ inventory.keys
  below : ∃ summary, ((inventory.below key).save fs dir exporter).answer = .ok summary
  upTo : ∃ e, ((inventory.upTo key).save fs dir exporter).answer = .error e

theorem upTo_part_below (hmem : other ∈ inventory.keys) (hkey : key ∈ inventory.keys)
    (hbefore : KeyOrder.before other key = true) :
    (inventory.upTo other).entries <+: (inventory.below key).entries := by
  obtain ⟨⟨key, entry⟩, hentry, rfl⟩ := List.mem_map.1 hkey
  obtain ⟨⟨other, entry'⟩, hother, rfl⟩ := List.mem_map.1 hmem
  obtain ⟨done, rest, hsplit⟩ := List.append_of_mem hentry
  have hdone : (other, entry') ∈ done := by
    have hin : (other, entry') ∈ (inventory.below key).entries :=
      List.mem_filter.2 ⟨hother, hbefore⟩
    rwa [below, OrderedMap.entries_filter_before hsplit] at hin
  obtain ⟨first, last, rfl⟩ := List.append_of_mem hdone
  have hsplit' : inventory.entries = first ++ (other, entry') :: (last ++ (key, entry) :: rest) := by
    rw [hsplit, List.append_assoc, List.cons_append]
  rw [upTo, below, OrderedMap.entries_filter_before hsplit, OrderedMap.entries_filter_upto hsplit']
  exact ⟨last, by simp⟩

theorem FailsAt.not_before (h : FailsAt fs dir inventory exporter key)
    (h' : FailsAt fs dir inventory exporter other) : KeyOrder.before other key = false := by
  rw [Bool.eq_false_iff]
  intro hbefore
  obtain ⟨summary, hbelow⟩ := h.below
  obtain ⟨e, herror⟩ := h'.upTo
  have hpart := upTo_part_below h'.bound h.bound hbefore
  obtain ⟨summary', hok⟩ := save_ok_of_part hpart hbelow
  rw [herror] at hok
  cases hok

theorem failsAt_unique (h : FailsAt fs dir inventory exporter key)
    (h' : FailsAt fs dir inventory exporter other) : other = key :=
  KeyOrder.eq_of_not_before (h.not_before h') (h'.not_before h)

/-! ## All of it -/

theorem fault?_eq_none_of_late (h : (inventory.save fs dir exporter).answer = .error e)
    (hlate : (∃ path cause, e = .writeFailed path cause) ∨
      ∃ path cause, e = .exportFailed path cause) :
    inventory.fault? exporter.isSome = none := by
  cases hfault : inventory.fault? exporter.isSome with
  | none => rfl
  | some early =>
    obtain ⟨hanswer, hearly⟩ := save_early_iff.2 hfault
    rw [h] at hanswer
    obtain rfl := Except.error.inj hanswer
    rcases hlate with ⟨path, cause, rfl⟩ | ⟨path, cause, rfl⟩
    · exact absurd hearly id
    · exact absurd hearly id

theorem save_below {done rest : List (String × Entry ε)} {mid : Progress ε}
    (hfault : inventory.fault? exporter.isSome = none)
    (hsplit : inventory.entries = done ++ (key, entry) :: rest)
    (hdone : saveEntries dir exporter ⟨fs, .nothing, []⟩ done = (mid, .ok ())) :
    (inventory.below key).save fs dir exporter = ⟨.ok mid.summary, mid.files, mid.calls,
      [.saved dir mid.summary.written.length mid.summary.exported.length
        mid.summary.bytesWritten]⟩ := by
  have hentries : (inventory.below key).entries = done := OrderedMap.entries_filter_before hsplit
  have hpart : (inventory.below key).entries ⊆ inventory.entries :=
    fun x hx => (List.mem_filter.1 hx).1
  exact save_of_ok (fault?_of_subset hpart hfault) (hentries ▸ hdone)

theorem save_upTo {done rest : List (String × Entry ε)} {mid : Progress ε}
    (hfault : inventory.fault? exporter.isSome = none)
    (hsplit : inventory.entries = done ++ (key, entry) :: rest)
    (hdone : saveEntries dir exporter ⟨fs, .nothing, []⟩ done = (mid, .ok ()))
    (hfail : saveEntry dir exporter mid key entry = (p, .error e)) :
    (inventory.upTo key).save fs dir exporter = ⟨.error e, p.files, p.calls, []⟩ := by
  have hentries : (inventory.upTo key).entries = done ++ [(key, entry)] :=
    OrderedMap.entries_filter_upto hsplit
  have hpart : (inventory.upTo key).entries ⊆ inventory.entries :=
    fun x hx => (List.mem_filter.1 hx).1
  refine save_of_error (fault?_of_subset hpart hfault) ?_
  rw [hentries, saveEntries_append, hdone]
  exact saveEntries_singleton.trans hfail

/-- A save that fails while writing fails at one key. It comes to what the save up to this key
comes to; and it leaves what the save of the smaller keys leaves, but for directories around the
one path and what the exporter has done there. -/
theorem save_fails_at (fs : FileSystem) (dir : Path) (inventory : Inventory ε)
    (exporter : Option (Exporter ε)) {e : SaveError}
    (h : (inventory.save fs dir exporter).answer = .error e)
    (hlate : (∃ path cause, e = .writeFailed path cause) ∨
      ∃ path cause, e = .exportFailed path cause) :
    ∃ key entry, inventory.get? key = some entry ∧ FailsAt fs dir inventory exporter key ∧
      (∀ other, FailsAt fs dir inventory exporter other → other = key) ∧
      (inventory.upTo key).save fs dir exporter = inventory.save fs dir exporter ∧
      let before := (inventory.below key).save fs dir exporter
      let out := inventory.save fs dir exporter
      Stopped exporter before.files before.calls (dir.join key) entry.content e
        out.files out.calls := by
  have hfault := fault?_eq_none_of_late h hlate
  cases hrun : saveEntries dir exporter ⟨fs, .nothing, []⟩ inventory.entries with
  | mk p result =>
    cases result with
    | ok =>
      rw [save_of_ok hfault hrun] at h
      cases h
    | error e' =>
      have hout := save_of_error hfault hrun
      rw [hout] at h
      obtain rfl := Except.error.inj h
      -- what is done before this entry is the whole save of the smaller keys
      obtain ⟨done, key, entry, rest, mid, hsplit, hdone, hfail⟩ := saveEntries_split hrun
      have hmem : (key, entry) ∈ inventory.entries := by simp [hsplit]
      have hbelow := save_below hfault hsplit hdone
      have hupTo := save_upTo hfault hsplit hdone hfail
      have hat : FailsAt fs dir inventory exporter key :=
        ⟨OrderedMap.mem_keys_of_mem hmem, ⟨mid.summary, by rw [hbelow]⟩, ⟨e', by rw [hupTo]⟩⟩
      refine ⟨key, entry, (inventory.mem_entries_iff key entry).1 hmem, hat,
        fun other hother => failsAt_unique hat hother, by rw [hupTo, hout], ?_⟩
      rw [hbelow, hout]
      exact (entryStep hfail).stopped

/-- A file where a directory is needed stops the save there. -/
theorem save_fails_at_taken :
    let fs : FileSystem := ⟨FileTree.empty.put [] "b" (.file "b".toUTF8), []⟩
    let inventory : Inventory ByteArray :=
      Inventory.ofEntries [.ofText "a" "1", .ofText "b/c" "2", .ofText "d" "3"]
    (inventory.save fs ⟨"."⟩ none).answer = .error (.writeFailed ⟨"./b"⟩ .alreadyExists) ∧
      ∃ key, FailsAt fs ⟨"."⟩ inventory none key ∧
        (inventory.upTo key).save fs ⟨"."⟩ none = inventory.save fs ⟨"."⟩ none := by
  intro fs inventory
  have h : (inventory.save fs ⟨"."⟩ none).answer =
      .error (.writeFailed ⟨"./b"⟩ .alreadyExists) := by decide +kernel
  obtain ⟨key, entry, -, hat, -, hupTo, -⟩ :=
    save_fails_at fs ⟨"."⟩ inventory none h (.inl ⟨_, _, rfl⟩)
  exact ⟨h, key, hat, hupTo⟩

end Inventory
end KernelArchive
