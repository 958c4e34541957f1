import KernelArchive.Proofs.Inventory.Checks

/-!
# What a save that succeeds leaves behind

* `Summary.of`: the files and bytes that the entries of an inventory come to.
* `Inventory.saveEntries_stands`: a file that was written stands until a later entry names it.
* `Inventory.save_leaves`: the files, the summary and all that stays, from the keys and contents
  alone.
-/

namespace KernelArchive
set_option autoImplicit false

variable {ε : Type}

/-! ## The summary -/

/-- What saving entries under a directory comes to. -/
def Summary.of (dir : Path) (entries : List (String × Entry ε)) : Summary where
  written := (entries.filter fun e => !e.2.isExecutable).map fun e => dir.join e.1
  exported := (entries.filter fun e => e.2.isExecutable).map fun e => dir.join e.1
  bytesWritten :=
    (entries.filterMap fun e => e.2.content.bytes?.map ByteArray.size).foldl (· + ·) 0

/-! ## Bytes of a content -/

namespace Content

/-- The content can be saved as these bytes; an executable may come to any. -/
def SavedAs (content : Content ε) (bytes : ByteArray) : Prop :=
  ∀ known, content.bytes? = some known → bytes = known

theorem savedAs_of_bytes? {content : Content ε} {bytes : ByteArray}
    (h : content.bytes? = some bytes) : content.SavedAs bytes := by
  intro known hknown
  exact Option.some.inj (h.symm.trans hknown)

theorem savedAs_executable (executable : ε) (bytes : ByteArray) :
    (Content.executable executable).SavedAs bytes := by
  intro known hknown
  cases hknown

end Content

namespace Inventory

variable {dir : Path} {exporter : Option (Exporter ε)} {p p' : Progress ε} {key : String}
  {entry : Entry ε} {inventory : Inventory ε} {entries done rest : List (String × Entry ε)}
  {fs : FileSystem} {bytes : ByteArray}

theorem isExecutable_of_bytes? (h : entry.content.bytes? = some bytes) :
    entry.isExecutable = false := by
  cases hc : entry.content with
  | text s => simp [Entry.isExecutable, hc, Content.isExecutable]
  | binary b => simp [Entry.isExecutable, hc, Content.isExecutable]
  | executable e => simp [hc, Content.bytes?] at h

theorem summary_of_written (h : entry.content.bytes? = some bytes) :
    Summary.of dir (done ++ [(key, entry)]) =
      ⟨(Summary.of dir done).written ++ [dir.join key], (Summary.of dir done).exported,
        (Summary.of dir done).bytesWritten + bytes.size⟩ := by
  have hexec := isExecutable_of_bytes? h
  simp [Summary.of, List.filter_append, List.filterMap_append, hexec, h]

theorem summary_of_exported {executable : ε} (h : entry.content = .executable executable) :
    Summary.of dir (done ++ [(key, entry)]) =
      ⟨(Summary.of dir done).written, (Summary.of dir done).exported ++ [dir.join key],
        (Summary.of dir done).bytesWritten⟩ := by
  have hexec : entry.isExecutable = true := isExecutable_of_content h
  have hbytes : entry.content.bytes? = none := by rw [h]; rfl
  simp [Summary.of, List.filter_append, List.filterMap_append, hexec, hbytes]

theorem EntryStep.summary (h : EntryStep dir exporter p key entry p' (.ok ()))
    (hsome : entry.isExecutable = true → exporter.isSome = true)
    (hp : p.summary = Summary.of dir done) :
    p'.summary = Summary.of dir (done ++ [(key, entry)]) := by
  cases h with
  | written hroom hbytes hwrite => rw [summary_of_written hbytes, hp]
  | skipped hroom hcontent hnone =>
    have hexec : entry.isExecutable = true := isExecutable_of_content hcontent
    have hthere := hsome hexec
    rw [hnone] at hthere
    cases hthere
  | exported hroom hcontent hx hexport => rw [summary_of_exported hcontent, hp]

theorem summary_saveEntries
    (hsome : ∀ key entry, (key, entry) ∈ entries →
      entry.isExecutable = true → exporter.isSome = true)
    (hp : p.summary = .nothing) (h : saveEntries dir exporter p entries = (p', .ok ())) :
    p'.summary = Summary.of dir entries := by
  refine saveEntries_induction (I := fun done mid => mid.summary = Summary.of dir done) hp ?_ h
  intro done key entry rest mid after hsplit hmid hsave
  have hmem : (key, entry) ∈ entries := by simp [hsplit]
  exact (entryStep hsave).summary (hsome key entry hmem) hmid

theorem summary_of_save {summary : Summary}
    (h : (save fs dir inventory exporter).answer = .ok summary) :
    summary = Summary.of dir inventory.entries := by
  obtain ⟨hfault, p, hrun, rfl, -⟩ := save_answer_ok h
  have hchecked := fault?_eq_none_iff.1 hfault
  exact summary_saveEntries (fun key entry hmem => (hchecked key entry hmem).2) rfl hrun

/-! ## The files -/

theorem EntryStep.stands (h : EntryStep dir exporter p key entry p' (.ok ()))
    (hx : entry.isExecutable = true → ∃ x ∈ exporter, x.Deposits) :
    ∃ bytes loc, entry.content.SavedAs bytes ∧ p'.files.Names (dir.join key) loc ∧
      p'.files.tree.lookup loc = some (.file bytes) := by
  have hwritten : ∀ {made left : FileSystem} {bytes : ByteArray},
      made.write (dir.join key) bytes = .ok left →
      ∃ loc, left.Names (dir.join key) loc ∧ left.tree.lookup loc = some (.file bytes) := by
    intro made left bytes hwrite
    have halters := FileSystem.alters_write hwrite
    obtain ⟨loc, hnames, hne, hw, hlook⟩ := FileSystem.write_spec hwrite
    exact ⟨loc, hnames.of_keeps halters.working halters.keeps, by rw [hlook, if_pos rfl]⟩
  cases h with
  | @written made left bytes hroom hbytes hwrite =>
    obtain ⟨loc, hnames, hfile⟩ := hwritten hwrite
    exact ⟨bytes, loc, Content.savedAs_of_bytes? hbytes, hnames, hfile⟩
  | skipped hroom hcontent hnone =>
    obtain ⟨x, hsome, -⟩ := hx (isExecutable_of_content hcontent)
    rw [hnone] at hsome
    cases hsome
  | exported hroom hcontent hsome hexport =>
    obtain ⟨x, hsome', hdeposits⟩ := hx (isExecutable_of_content hcontent)
    rw [hsome] at hsome'
    obtain rfl := Option.some.inj hsome'
    obtain ⟨bytes, hwrite⟩ := hdeposits _ _ _ _ hexport
    obtain ⟨loc, hnames, hfile⟩ := hwritten hwrite
    exact ⟨bytes, loc, hcontent ▸ Content.savedAs_executable _ _, hnames, hfile⟩

/-- A file that was saved stands until a later entry names its location. -/
theorem saveEntries_stands (htidy : Tidy exporter rest)
    (hx : entry.isExecutable = true → ∃ x ∈ exporter, x.Deposits)
    (h : saveEntries dir exporter p (done ++ (key, entry) :: rest) = (p', .ok ())) :
    ∃ bytes loc, entry.content.SavedAs bytes ∧ p'.files.Names (dir.join key) loc ∧
      ((∀ dest ∈ destinations dir rest, ¬p'.files.Names dest loc) →
        p'.files.tree.lookup loc = some (.file bytes)) := by
  rw [List.append_cons, saveEntries_append_ok] at h
  obtain ⟨mid, hmid, hrest⟩ := h
  obtain ⟨before, -, hone⟩ := saveEntries_append_ok.1 hmid
  rw [saveEntries_singleton] at hone
  obtain ⟨bytes, loc, hsaved, hnames, hfile⟩ := (entryStep hone).stands hx
  -- from here on only what the later paths name can change
  have halters := alters_saveEntries_ok htidy hrest
  refine ⟨bytes, loc, hsaved, hnames.of_keeps halters.working halters.keeps, fun hlast => ?_⟩
  rcases halters.frame loc with hsame | ⟨dest, hdest, hnamed⟩ | ⟨hfree, -, -⟩
  · rw [hsame, hfile]
  · exact absurd hnamed (hlast dest hdest)
  · rw [hfile] at hfree
    cases hfree

/-! ## Keys and contents -/

/-- What saving looks at: the keys with their contents. -/
def contents (inventory : Inventory ε) : List (String × Content ε) :=
  inventory.entries.map fun e => (e.1, e.2.content)

theorem saveEntry_congr {other : Entry ε} (h : entry.content = other.content) :
    saveEntry dir exporter p key entry = saveEntry dir exporter p key other := by
  unfold saveEntry
  rw [h]

theorem saveEntries_congr {others : List (String × Entry ε)}
    (h : entries.map (fun e => (e.1, e.2.content)) = others.map fun e => (e.1, e.2.content)) :
    saveEntries dir exporter p entries = saveEntries dir exporter p others := by
  induction entries generalizing p others with
  | nil =>
    have hnil : others = [] := by simpa using h.symm
    rw [hnil]
  | cons first rest ih =>
    cases others with
    | nil => simp at h
    | cons first' rest' =>
      obtain ⟨key, entry⟩ := first
      obtain ⟨key', entry'⟩ := first'
      simp only [List.map_cons, List.cons.injEq, Prod.mk.injEq] at h
      obtain ⟨⟨rfl, hcontent⟩, hrest⟩ := h
      rw [saveEntries_cons, saveEntries_cons, saveEntry_congr hcontent]
      cases saveEntry dir exporter p key entry' with
      | mk mid result =>
        cases result with
        | error e => rfl
        | ok => exact ih hrest

theorem kinds_of_contents {other : Inventory ε} (h : inventory.contents = other.contents) :
    inventory.kinds = other.kinds := by
  have hkinds : ∀ i : Inventory ε, i.kinds = i.contents.map fun c => (c.1, c.2.isExecutable) := by
    intro i
    rw [contents, List.map_map]
    rfl
  rw [hkinds, hkinds, h]

/-- Inventories with the same keys and contents are saved alike. -/
theorem save_congr {other : Inventory ε} (h : inventory.contents = other.contents) :
    inventory.save fs dir exporter = other.save fs dir exporter := by
  unfold save
  rw [fault?_congr (kinds_of_contents h), saveEntries_congr h]

/-! ## All of it -/

/-- The last entry that names a location has its bytes there. -/
theorem save_stands {summary : Summary} {after : FileSystem} (hx : ∀ x ∈ exporter, x.Confined)
    (hok : (inventory.save fs dir exporter).answer = .ok summary)
    (hafter : after = (inventory.save fs dir exporter).files)
    (hkey : inventory.get? key = some entry) (hbytes : entry.content.bytes? = some bytes) :
    after.Names (dir.join key) (after.locate (dir.join key)) ∧
      ((∀ later ∈ inventory.keys, key < later →
          ¬after.Names (dir.join later) (after.locate (dir.join key))) →
        after.resolve (dir.join key) = .ok (after.locate (dir.join key)) ∧
        after.tree.lookup (after.locate (dir.join key)) = some (.file bytes)) := by
  obtain ⟨-, p, hrun, -, hfiles⟩ := save_answer_ok hok
  obtain rfl : after = p.files := hafter.trans hfiles
  have hmem : (key, entry) ∈ inventory.entries := (inventory.mem_entries_iff key entry).2 hkey
  obtain ⟨done, rest, hsplit⟩ := List.append_of_mem hmem
  have hbinary : entry.isExecutable = true → ∃ x ∈ exporter, x.Deposits := by
    rw [isExecutable_of_bytes? hbytes]
    exact fun h => absurd h Bool.false_ne_true
  rw [hsplit] at hrun
  obtain ⟨bytes', loc, hsaved, hnames, hstands⟩ :=
    saveEntries_stands (tidy_of_confined hx) hbinary hrun
  obtain rfl : bytes' = bytes := hsaved bytes hbytes
  obtain rfl := hnames.eq_locate
  refine ⟨hnames, fun hlast => ?_⟩
  have hfile : p.files.tree.lookup (p.files.locate (dir.join key)) = some (.file bytes') := by
    -- the entries that come later are those with greater keys
    refine hstands fun dest hdest => ?_
    obtain ⟨later, entry', hlater, rfl⟩ := mem_destinations.1 hdest
    have hbefore := (OrderedMap.before_of_entries hsplit).2 (later, entry') hlater
    have hin : (later, entry') ∈ inventory.entries := by simp [hsplit, hlater]
    exact hlast later (OrderedMap.mem_keys_of_mem hin) (KeyOrder.before_string_iff.1 hbefore)
  exact ⟨hnames.resolve (by rw [hfile]; simp), hfile⟩

/-- Nothing changes but what the keys name and, above it, directories that were missing. -/
theorem save_frame {after : FileSystem}
    (hfault : inventory.fault? exporter.isSome = none)
    (halters : FileSystem.Alters (destinations dir inventory.entries) fs after)
    (loc : Location) :
    after.tree.lookup loc = fs.tree.lookup loc ∨
      (∃ key ∈ inventory.keys, after.Names (dir.join key) loc) ∨
      (fs.tree.lookup loc = none ∧ after.tree.lookup loc = some .directory ∧
        ∃ key ∈ inventory.keys,
          (loc <+: after.locate (dir.join key) ∧ loc ≠ after.locate (dir.join key)) ∨
          (".." ∈ dir.segments ∧ after.Passes dir loc)) := by
  have hchecked := fault?_eq_none_iff.1 hfault
  rcases halters.frame loc with
    hsame | ⟨dest, hdest, hnames⟩ | ⟨hfree, hdir, dest, hdest, q, hq, hres⟩
  · exact .inl hsame
  · obtain ⟨key, entry, hmem, rfl⟩ := mem_destinations.1 hdest
    exact .inr (.inl ⟨key, OrderedMap.mem_keys_of_mem hmem, hnames⟩)
  · obtain ⟨key, entry, hmem, rfl⟩ := mem_destinations.1 hdest
    obtain ⟨hrel, hup⟩ := PathFault.of?_eq_none (hchecked key entry hmem).1
    obtain ⟨left, s, hheads, hs, hname⟩ := Path.heads_of_mem_around hq
    have hway := FileSystem.above_locate_join hrel hup hheads hs hname hres
    exact .inr (.inr ⟨hfree, hdir, key, OrderedMap.mem_keys_of_mem hmem, hway⟩)

/-- After a save that succeeds, the last entry that names a location has its bytes there, and
nothing else has changed but for directories on the way. These lead down to the locations, unless
the directory itself is reached by going up. -/
theorem save_leaves (fs : FileSystem) (dir : Path) (inventory : Inventory ε)
    (exporter : Option (Exporter ε)) (hx : ∀ x ∈ exporter, x.Confined) {summary : Summary}
    (hok : (inventory.save fs dir exporter).answer = .ok summary) :
    let after := (inventory.save fs dir exporter).files
    (∀ key entry bytes, inventory.get? key = some entry → entry.content.bytes? = some bytes →
      after.Names (dir.join key) (fs.locate (dir.join key)) ∧
      ((∀ later ∈ inventory.keys, key < later →
          ¬after.Names (dir.join later) (fs.locate (dir.join key))) →
        after.resolve (dir.join key) = .ok (fs.locate (dir.join key)) ∧
        after.tree.lookup (fs.locate (dir.join key)) = some (.file bytes))) ∧
    summary = Summary.of dir inventory.entries ∧
    after.working = fs.working ∧
    (∀ loc, after.tree.lookup loc = fs.tree.lookup loc ∨
      (∃ key ∈ inventory.keys, after.Names (dir.join key) loc) ∨
      (fs.tree.lookup loc = none ∧ after.tree.lookup loc = some .directory ∧
        ∃ key ∈ inventory.keys,
          (loc <+: fs.locate (dir.join key) ∧ loc ≠ fs.locate (dir.join key)) ∨
          (".." ∈ dir.segments ∧ after.Passes dir loc))) ∧
    ∀ other : Inventory ε, other.contents = inventory.contents →
      other.save fs dir exporter = inventory.save fs dir exporter := by
  intro after
  obtain ⟨hfault, p, hrun, hsum, -⟩ := save_answer_ok hok
  have hchecked := fault?_eq_none_iff.1 hfault
  have halters : FileSystem.Alters (destinations dir inventory.entries) fs after := alters_save hx
  have hlocate := FileSystem.locate_of_working halters.working
  refine ⟨?_, ?_, halters.working, ?_, fun other h => save_congr h⟩
  · intro key entry bytes hkey hbytes
    rw [← hlocate]
    exact save_stands hx hok rfl hkey hbytes
  · rw [← hsum]
    exact summary_saveEntries (fun key entry hmem => (hchecked key entry hmem).2) rfl hrun
  · intro loc
    have hframe := save_frame hfault halters loc
    simp only [hlocate] at hframe
    exact hframe

/-- Of two keys for one file the greater one gives the content. -/
theorem save_leaves_greater :
    let fs : FileSystem := ⟨FileTree.empty.put [] "d" .directory, ["d"]⟩
    let inventory : Inventory ByteArray :=
      Inventory.ofEntries [.ofText "x/y" "a", .ofText "x//y" "b", .ofExecutable "z" "c".toUTF8]
    let exporter : Exporter ByteArray := Exporter.writing .ok
    exporter.Confined ∧
      (inventory.save fs ⟨"k"⟩ (some exporter)).answer =
        .ok ⟨[⟨"k/x//y"⟩, ⟨"k/x/y"⟩], [⟨"k/z"⟩], 2⟩ ∧
      (inventory.save fs ⟨"k"⟩ (some exporter)).files.tree.lookup ["d", "k", "x", "y"] =
        some (.file "a".toUTF8) := by
  intro fs inventory exporter
  have hx : exporter.Confined := Exporter.confined_writing _
  have hok : (inventory.save fs ⟨"k"⟩ (some exporter)).answer =
      .ok ⟨[⟨"k/x//y"⟩, ⟨"k/x/y"⟩], [⟨"k/z"⟩], 2⟩ := by decide +kernel
  refine ⟨hx, hok, ?_⟩
  have hleaves := save_leaves fs ⟨"k"⟩ inventory (some exporter)
    (fun x h => Option.some.inj h ▸ hx) hok
  have hkey : inventory.get? "x/y" = some (.ofText "x/y" "a") := by
    simp [inventory, ofEntries, OrderedMap.ofList, OrderedMap.insertAll, Entry.ofText,
      Entry.ofExecutable]
  have hlast : ∀ later ∈ inventory.keys, "x/y" < later →
      (inventory.save fs ⟨"k"⟩ (some exporter)).files.locate ((⟨"k"⟩ : Path).join later) ≠
        fs.locate ((⟨"k"⟩ : Path).join "x/y") := by decide +kernel
  have hfile := (hleaves.1 "x/y" _ "a".toUTF8 hkey rfl).2 fun later hmem hlt hnames =>
    hlast later hmem hlt hnames.eq_locate.symm
  have hloc : fs.locate ((⟨"k"⟩ : Path).join "x/y") = ["d", "k", "x", "y"] := by decide +kernel
  rw [hloc] at hfile
  exact hfile.2

/-- A directory that is not above the files may come to be, where the path goes up again. -/
theorem save_leaves_beside :
    let fs : FileSystem := ⟨FileTree.empty, []⟩
    let inventory : Inventory ByteArray := Inventory.ofEntries [.ofText "x" "t"]
    let out := inventory.save fs ⟨"a/../b"⟩ none
    out.answer = .ok ⟨[⟨"a/../b/x"⟩], [], 1⟩ ∧
      ¬∀ loc, out.files.tree.lookup loc = fs.tree.lookup loc ∨
        ∃ key ∈ inventory.keys, ∃ there,
          out.files.resolve ((⟨"a/../b"⟩ : Path).join key) = .ok there ∧ loc <+: there := by
  intro fs inventory out
  refine ⟨by decide +kernel, fun h => ?_⟩
  have hmade : (out.files.tree.lookup ["a"]).isSome ≠ (fs.tree.lookup ["a"]).isSome := by
    decide +kernel
  have hkeys : ∀ key ∈ inventory.keys,
      out.files.resolve ((⟨"a/../b"⟩ : Path).join key) = .ok ["b", "x"] := by decide +kernel
  rcases h ["a"] with hsame | ⟨key, hkey, there, hres, habove⟩
  · exact hmade (by rw [hsame])
  · rw [hkeys key hkey] at hres
    obtain rfl := Except.ok.inj hres
    revert habove
    decide

end Inventory
end KernelArchive
