import KernelArchive.Proofs.FileSystem.Ways

/-!
# Files put in their place

* `FileSystem.Places fs p bytes after`: room is made for the path, and the bytes are written.
* `FileSystem.Ready`: when this can be done. `FileSystem.Placed`: what it comes to.
* `FileSystem.places_iff`: it succeeds exactly where all is ready, and it does just that.
* `FileSystem.ready_placed_iff`: when a second file can be placed after a first one.
* `FileSystem.places_comm`: two files at different locations can be placed in either order.
-/

namespace KernelArchive
set_option autoImplicit false

namespace Path

/-- The segments before the last one. -/
def approach (p : Path) : List String := p.segments.dropLast

/-- The last segment. -/
def last (p : Path) : String := p.segments.getLast p.segments_ne_nil

theorem segments_eq (p : Path) : p.segments = p.approach ++ [p.last] :=
  (List.dropLast_append_getLast p.segments_ne_nil).symm

theorem join_eq (dir : Path) {key name : String} {into : List String}
    (hrel : key.toList.head? ≠ some '/')
    (hkey : Text.segments '/' key = into ++ [name]) :
    (dir.join key).approach = dir.leading ++ into ∧ (dir.join key).last = name := by
  have hseg := segments_join dir hrel
  rw [hkey, segments_eq, ← List.append_assoc] at hseg
  obtain ⟨happroach, hlast⟩ := List.append_inj' hseg rfl
  exact ⟨happroach, List.singleton_inj.1 hlast⟩

end Path

namespace FileSystem

variable {fs made mid after : FileSystem} {p q : Path} {bytes x y : ByteArray}

/-- The locations that a path leads through before its last segment. -/
def way (fs : FileSystem) (p : Path) : List Location := Location.way (fs.start p) p.approach

theorem way_of_working (h : after.working = fs.working) (p : Path) : after.way p = fs.way p := by
  rw [way, way, start_of_working h]

/-- Room is made for a path and the bytes are written to it. -/
def Places (fs : FileSystem) (p : Path) (bytes : ByteArray) (after : FileSystem) : Prop :=
  ∃ made, fs.makeLine p.around = (made, .ok ()) ∧ made.write p bytes = .ok after

/-- Room can be made for a path and a file written to it: the path has a proper name for a file,
its way is clear, and the place is no directory, nor will it be one. -/
structure Ready (fs : FileSystem) (p : Path) : Prop where
  text : textFault? p = none
  ne_empty : p.last ≠ ""
  ne_here : p.last ≠ "."
  ne_up : p.last ≠ ".."
  short : p.last.utf8ByteSize ≤ nameLimit
  clear : fs.tree.Clear (fs.start p) p.approach
  beside : fs.locate p ∉ fs.way p
  free : fs.tree.lookup (fs.locate p) ≠ some .directory

/-- The place holds the bytes, the way consists of directories, and nothing else has changed. -/
structure Placed (fs : FileSystem) (p : Path) (bytes : ByteArray) (after : FileSystem) : Prop where
  working : after.working = fs.working
  lookup : ∀ at', after.tree.lookup at' =
    if at' = fs.locate p then some (.file bytes)
    else if at' ∈ fs.way p then some .directory else fs.tree.lookup at'

theorem locate_of_last (fs : FileSystem) (hempty : p.last ≠ "") (hhere : p.last ≠ ".")
    (hup : p.last ≠ "..") :
    fs.locate p = Location.follow (fs.start p) p.approach ++ [p.last] := by
  rw [locate, p.segments_eq, Location.follow_append, Location.follow_cons,
    Location.descend_name hempty hhere hup, Location.follow_nil]

/-! ## What is done where all is ready -/

theorem places_of_ready (h : fs.Ready p) (bytes : ByteArray) :
    ∃ after, Places fs p bytes after ∧ Placed fs p bytes after := by
  obtain ⟨htext, hempty, hhere, hup, hshort, hclear, hbeside, hfree⟩ := h
  have hcounts := Path.counts_of_ne hempty hhere
  obtain ⟨made, hline, hlaid⟩ := makeLine_around htext p.segments_eq hcounts hclear
  have hlocate := locate_of_last fs hempty hhere hup
  have hstart := start_of_working hlaid.working p
  have htarget : made.target p =
      .ok (.child (Location.follow (fs.start p) p.approach) p.last false) := by
    rw [target_of_segments htext p.segments_eq hempty, hstart, hlaid.enter hclear.short]
    simp [hhere, hup]
  have hplace : made.tree.lookup (Location.follow (fs.start p) p.approach ++ [p.last]) ≠
      some .directory := by
    rw [way] at hbeside
    rw [← hlocate, hlaid.lookup, if_neg hbeside]
    exact hfree
  refine ⟨_, ⟨made, hline, write_eq_ok_iff.2 ⟨_, _, htarget, hshort, hplace, rfl⟩⟩,
    hlaid.working, fun at' => ?_⟩
  rw [lookup_put_file htarget hplace, hlocate, hlaid.lookup]
  rfl

theorem ext_lookup {other : FileSystem} (hworking : after.working = other.working)
    (h : ∀ loc, after.tree.lookup loc = other.tree.lookup loc) : after = other := by
  have htree : after.tree = other.tree := FileTree.ext_lookup h
  cases after
  cases other
  cases htree
  cases hworking
  rfl

theorem Placed.unique {other : FileSystem} (h : Placed fs p bytes after)
    (h' : Placed fs p bytes other) : after = other :=
  ext_lookup (h.working.trans h'.working.symm) fun loc => (h.lookup loc).trans (h'.lookup loc).symm

/-! ## All is ready where it is done -/

/-- Nothing is made from a start that is no directory. -/
theorem makeLine_unstarted {line : List Path}
    (h : ∀ q ∈ line, ∀ made, fs.makeDirectory q ≠ .ok made) : (fs.makeLine line).1 = fs := by
  induction line with
  | nil => rfl
  | cons q line ih =>
    obtain ⟨hfirst, hline⟩ := List.forall_mem_cons.1 h
    have hrest := ih hline
    cases hq : fs.makeDirectory q with
    | ok made => exact absurd hq (hfirst made)
    | error e =>
      cases e with
      | notFound =>
        rw [makeLine, hq]
        cases hmade : fs.makeLine line with
        | mk made result =>
          obtain rfl : made = fs := by rw [hmade] at hrest; exact hrest
          cases result with
          | error e => rfl
          | ok => simp only [hq]
      | _ => rw [makeLine, hq]

theorem lookup_start_of_made {result : Except IoFailure Unit}
    (hline : fs.makeLine p.around = (made, result))
    (h : made.tree.lookup (fs.start p) = some .directory) :
    fs.tree.lookup (fs.start p) = some .directory := by
  by_contra hnone
  have hmade : (fs.makeLine p.around).1 = fs := by
    refine makeLine_unstarted fun q hq made hmade => hnone ?_
    obtain ⟨rest, s, hheads, -, -⟩ := Path.heads_of_mem_around hq
    obtain ⟨parent, name, slashed, htarget, -⟩ := makeDirectory_eq_ok_iff.1 hmade
    obtain ⟨-, -, -, -, above, blanks, -, -, henter, -⟩ := target_eq_child_iff.1 htarget
    have hstart : fs.start q = fs.start p := by rw [start, start, hheads.start]
    rw [hstart] at henter
    exact (FileTree.enter_iff_way.1 henter).2.2 _ (Location.start_mem_way _ _)
  rw [hline] at hmade
  exact hnone (hmade ▸ h)

theorem ready_of_places (h : Places fs p bytes after) : fs.Ready p := by
  obtain ⟨made, hline, hwrite⟩ := h
  have hgrows : Grows p.around fs made := by
    have hall := grows_makeLine fs p.around
    rwa [hline] at hall
  obtain ⟨parent, name, htarget, hshort, hplace, -⟩ := write_eq_ok_iff.1 hwrite
  have hnames : made.Names p (parent ++ [name]) := ⟨parent, name, htarget, hshort, rfl⟩
  obtain ⟨htext, hempty, hhere, hup, above, blanks, hseg, -, henter, hslash⟩ :=
    target_eq_child_iff.1 htarget
  obtain rfl : blanks = [] := by simpa using hslash
  rw [p.segments_eq] at hseg
  obtain ⟨rfl, hname⟩ := List.append_inj' hseg rfl
  obtain rfl := List.singleton_inj.1 hname
  rw [start_of_working hgrows.working] at henter
  obtain ⟨hparent, hshorts, hway⟩ := FileTree.enter_iff_way.1 henter
  have hlocate : parent ++ [p.last] = fs.locate p := by
    rw [hnames.eq_locate, locate_of_working hgrows.working]
  rw [hlocate] at hplace
  refine ⟨htext, hempty, hhere, hup, hshort, ⟨?_, hshorts, ?_⟩, ?_, ?_⟩
  · exact lookup_start_of_made hline (hway _ (Location.start_mem_way _ _))
  · -- a file would still be there
    intro at' hat bytes hfile
    have hsame := hgrows.lookup (by rw [hfile]; simp)
    rw [hway at' hat, hfile] at hsame
    cases hsame
  · intro hmem
    exact hplace (hway _ hmem)
  · intro hdir
    exact hplace (hgrows.keeps _ hdir)

/-- A file can be placed exactly where all is ready, and this does what is said and no more. -/
theorem places_iff : Places fs p bytes after ↔ fs.Ready p ∧ Placed fs p bytes after := by
  constructor
  · intro h
    have hready := ready_of_places h
    obtain ⟨other, ⟨made, hline, hwrite⟩, hplaced⟩ := places_of_ready hready bytes
    obtain ⟨made', hline', hwrite'⟩ := h
    rw [hline] at hline'
    obtain rfl := (Prod.mk.inj hline').1
    rw [hwrite] at hwrite'
    obtain rfl := Except.ok.inj hwrite'
    exact ⟨hready, hplaced⟩
  · rintro ⟨hready, hplaced⟩
    obtain ⟨other, hplaces, hother⟩ := places_of_ready hready bytes
    rw [hplaced.unique hother]
    exact hplaces

/-! ## Two files -/

theorem Ready.transfer (h : fs.Ready p) (hworking : after.working = fs.working)
    (hstart : after.tree.lookup (fs.start p) = some .directory)
    (hway : ∀ at' ∈ fs.way p, ∀ bytes, after.tree.lookup at' ≠ some (.file bytes))
    (hplace : after.tree.lookup (fs.locate p) ≠ some .directory) : after.Ready p := by
  obtain ⟨htext, hempty, hhere, hup, hshort, hclear, hbeside, -⟩ := h
  have hsame := start_of_working hworking p
  refine ⟨htext, hempty, hhere, hup, hshort, ⟨by rw [hsame, hstart], hclear.short, ?_⟩, ?_, ?_⟩
  · rw [hsame]
    exact hway
  · rwa [locate_of_working hworking, way_of_working hworking]
  · rwa [locate_of_working hworking]

theorem Placed.ready (h : Placed fs p x mid) (hq : fs.Ready q) (hbeside : fs.locate p ∉ fs.way q)
    (hbeside' : fs.locate q ∉ fs.way p) : mid.Ready q := by
  -- the way has not been touched but for directories
  have hlook : ∀ at' ∈ fs.way q, mid.tree.lookup at' =
      if at' ∈ fs.way p then some .directory else fs.tree.lookup at' := by
    intro at' hat
    have hne : at' ≠ fs.locate p := fun heq => hbeside (heq ▸ hat)
    rw [h.lookup, if_neg hne]
  refine hq.transfer h.working ?_ ?_ ?_
  · rw [hlook _ (Location.start_mem_way _ _), hq.clear.start, ite_self]
  · intro at' hat bytes
    rw [hlook at' hat]
    split
    · simp
    · exact hq.clear.free at' hat bytes
  · rw [h.lookup, if_neg hbeside']
    split
    · simp
    · exact hq.free

/-- After one file another can be placed exactly where it could have been placed before and neither
is on the way to the other. -/
theorem ready_placed_iff (h : Places fs p x mid) (hstart : fs.start p = fs.start q) :
    mid.Ready q ↔ fs.Ready q ∧ fs.locate p ∉ fs.way q ∧ fs.locate q ∉ fs.way p := by
  obtain ⟨hp, hplaced⟩ := places_iff.1 h
  refine ⟨fun hq => ?_, fun ⟨hq, hbeside, hbeside'⟩ => hplaced.ready hq hbeside hbeside'⟩
  have hw := hplaced.working
  have hway := way_of_working hw q
  have hlocate := locate_of_working hw q
  have hbeside : fs.locate p ∉ fs.way q := by
    intro hmem
    rw [← hway] at hmem
    exact hq.clear.free _ hmem x ((hplaced.lookup _).trans (if_pos rfl))
  have hbeside' : fs.locate q ∉ fs.way p := by
    intro hmem
    have hapart : fs.locate q ≠ fs.locate p := fun heq => hp.beside (heq ▸ hmem)
    refine hq.free ?_
    rw [hlocate, hplaced.lookup, if_neg hapart, if_pos hmem]
  refine ⟨hq.transfer hw.symm ?_ ?_ ?_, hbeside, hbeside'⟩
  · rw [start_of_working hw, ← hstart]
    exact hp.clear.start
  · intro at' hat bytes hfile
    rw [hway] at hat
    have hne : at' ≠ fs.locate p := fun heq => hbeside (heq ▸ hat)
    by_cases hcross : at' ∈ fs.way p
    · exact hp.clear.free at' hcross bytes hfile
    · refine hq.clear.free at' (by rwa [← way, hway]) bytes ?_
      rw [hplaced.lookup, if_neg hne, if_neg hcross, hfile]
  · rw [hlocate]
    intro hdir
    have hapart : fs.locate q ≠ fs.locate p := fun heq => hp.free (heq ▸ hdir)
    refine hq.free ?_
    rw [hlocate, hplaced.lookup, if_neg hapart, if_neg hbeside', hdir]

/-- Two files at different locations that can be placed one after the other can be placed the other
way round, and it comes to the same. -/
theorem places_comm (hapart : fs.locate p ≠ fs.locate q) (hstart : fs.start p = fs.start q)
    (h : Places fs p x mid) (h' : Places mid q y after) :
    ∃ mid', Places fs q y mid' ∧ Places mid' p x after := by
  obtain ⟨hp, hplaced⟩ := places_iff.1 h
  obtain ⟨hq, hafter⟩ := places_iff.1 h'
  obtain ⟨hfirst, hbeside, hbeside'⟩ := (ready_placed_iff h hstart).1 hq
  obtain ⟨mid', hplaces', hplaced'⟩ := places_of_ready hfirst y
  have hlast := (ready_placed_iff hplaces' hstart.symm).2 ⟨hp, hbeside', hbeside⟩
  obtain ⟨after', hplaces, hafter'⟩ := places_of_ready hlast x
  have hw := hplaced'.working
  have hsame : Placed mid q y after' := by
    refine ⟨hafter'.working.trans (hw.trans hplaced.working.symm), fun at' => ?_⟩
    rw [hafter'.lookup, hplaced'.lookup, hplaced.lookup, locate_of_working hw, way_of_working hw,
      locate_of_working hplaced.working, way_of_working hplaced.working]
    by_cases hatp : at' = fs.locate p
    · subst hatp
      rw [if_pos rfl, if_neg hapart, if_neg hbeside, if_pos rfl]
    · by_cases hatq : at' = fs.locate q
      · subst hatq
        rw [if_neg hatp, if_neg hbeside', if_pos rfl, if_pos rfl]
      · rw [if_neg hatp, if_neg hatq, if_neg hatp, if_neg hatq]
        by_cases hway : at' ∈ fs.way p
        · rw [if_pos hway, if_pos hway, ite_self]
        · rw [if_neg hway, if_neg hway]
  rw [hafter.unique hsame]
  exact ⟨mid', hplaces', hplaces⟩

end FileSystem
end KernelArchive
