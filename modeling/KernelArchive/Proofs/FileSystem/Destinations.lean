import KernelArchive.Proofs.FileSystem.Walking

/-!
# What paths name

* `FileSystem.Names p loc`: a file can stand at `loc` under the path `p`.
* `FileSystem.Opens dir root`: names put under `dir` start at the directory `root`.
* `FileSystem.Passes p loc`: some first segments of `p` lead to `loc`.
* `FileSystem.write_spec`, `FileSystem.makeDirectory_spec`: the one location that changes.
* `FileSystem.Names.below`, `FileSystem.resolve_heads_join`: a name put under a directory, if it
  never goes up, stays below it.
-/

namespace KernelArchive
set_option autoImplicit false

/-- The path, or `.` for the empty one: names put under either lead to the same place. -/
def Path.orHere (p : Path) : Path := if p.text = "" then ⟨"."⟩ else p

theorem getLast?_blanks {above blanks : List String} {name : String} (hname : name ≠ "")
    (hblanks : ∀ b ∈ blanks, b = "") :
    ((above ++ name :: blanks).getLast? == some "") = !blanks.isEmpty := by
  rcases List.eq_nil_or_concat blanks with rfl | ⟨more, b, rfl⟩
  · simp [hname]
  · have hb : b = "" := hblanks b (by simp)
    have hmore : above ++ name :: more.concat b = (above ++ name :: more) ++ [b] := by simp
    rw [hmore, List.getLast?_concat, hb]
    simp

namespace FileSystem

variable {fs made after : FileSystem} {p dir : Path} {line : List Path}
  {loc root parent : Location} {name : String}

/-! ## Targets -/

/-- The target of a path is the name before its closing slashes, in the directory before that. -/
theorem target_eq_child_iff {slashed : Bool} :
    fs.target p = .ok (.child parent name slashed) ↔
      textFault? p = none ∧ name ≠ "" ∧ name ≠ "." ∧ name ≠ ".." ∧ ∃ above blanks,
        p.segments = above ++ name :: blanks ∧ (∀ b ∈ blanks, b = "") ∧
        fs.tree.enter (fs.start p) above = .ok parent ∧ slashed = !blanks.isEmpty := by
  unfold target
  cases htext : textFault? p with
  | some e => simp
  | none =>
    simp only [true_and]
    constructor
    · intro h
      split at h
      · cases h
      · next last above hdrop =>
        obtain ⟨hlast, blanks, hblanks, hseg⟩ := reverse_dropWhile_eq_cons.1 hdrop
        simp only [beq_eq_false_iff_ne, beq_iff_eq] at hlast hblanks
        split at h
        · cases h
        · next henter =>
          split at h
          · cases h
          · next hname =>
            cases h
            rw [not_or] at hname
            refine ⟨hlast, hname.1, hname.2, above.reverse, blanks, hseg, hblanks, henter, ?_⟩
            rw [hseg]
            exact getLast?_blanks hlast hblanks
    · rintro ⟨hne, hdot, hup, above, blanks, hseg, hblanks, henter, rfl⟩
      have hdrop : p.segments.reverse.dropWhile (· == "") = name :: above.reverse :=
        reverse_dropWhile_eq_cons.2 ⟨by simpa using hne, blanks, by simpa using hblanks,
          by rw [List.reverse_reverse, hseg]⟩
      rw [hdrop]
      simp only [List.reverse_reverse, henter]
      rw [if_neg (by simp [hdot, hup]), hseg, getLast?_blanks hne hblanks]

/-- The path names a place for a file: a name, no longer than names may be and without a slash
behind it, in a directory that exists. -/
def Names (fs : FileSystem) (p : Path) (loc : Location) : Prop :=
  ∃ parent name, fs.target p = .ok (.child parent name false) ∧ name.utf8ByteSize ≤ nameLimit ∧
    loc = parent ++ [name]

theorem names_iff :
    fs.Names p loc ↔ textFault? p = none ∧ ∃ above name parent,
      p.segments = above ++ [name] ∧ name ≠ "" ∧ name ≠ "." ∧ name ≠ ".." ∧
      name.utf8ByteSize ≤ nameLimit ∧ fs.tree.enter (fs.start p) above = .ok parent ∧
      loc = parent ++ [name] := by
  unfold Names
  simp only [target_eq_child_iff]
  constructor
  · rintro ⟨parent, name, htarget, hlen, hloc⟩
    obtain ⟨htext, hne, hdot, hup, above, blanks, hseg, -, henter, hslash⟩ := htarget
    have hnil : blanks = [] := by simpa using hslash
    subst hnil
    exact ⟨htext, above, name, parent, hseg, hne, hdot, hup, hlen, henter, hloc⟩
  · rintro ⟨htext, above, name, parent, hseg, hne, hdot, hup, hlen, henter, hloc⟩
    exact ⟨parent, name, ⟨htext, hne, hdot, hup, above, [], hseg, by simp, henter, by simp⟩,
      hlen, hloc⟩

/-! ## Names where directories are kept -/

theorem start_of_working (h : after.working = fs.working) (p : Path) :
    after.start p = fs.start p := by
  rw [start, start, h]

theorem Names.of_keeps (h : fs.Names p loc) (hw : after.working = fs.working)
    (hk : fs.tree.Keeps after.tree) : after.Names p loc := by
  obtain ⟨htext, above, name, parent, hseg, hne, hdot, hup, hlen, henter, hloc⟩ := names_iff.1 h
  rw [← start_of_working hw] at henter
  exact names_iff.2 ⟨htext, above, name, parent, hseg, hne, hdot, hup, hlen,
    FileTree.enter_of_keeps hk henter, hloc⟩

theorem resolve_eq_ok_iff :
    fs.resolve p = .ok loc ↔
      textFault? p = none ∧ fs.tree.walk (fs.start p) p.segments = .ok loc := by
  unfold resolve
  cases textFault? p <;> simp

theorem lookup_of_resolve (h : fs.resolve p = .ok loc) : fs.tree.lookup loc ≠ none :=
  (FileTree.lookup_of_walk (resolve_eq_ok_iff.1 h).2 p.segments_ne_nil).2

theorem resolve_of_keeps (h : fs.resolve p = .ok loc) (hw : after.working = fs.working)
    (hk : fs.tree.Keeps after.tree) (hloc : after.tree.lookup loc ≠ none) :
    after.resolve p = .ok loc := by
  obtain ⟨htext, hwalk⟩ := resolve_eq_ok_iff.1 h
  rw [← start_of_working hw] at hwalk
  exact resolve_eq_ok_iff.2 ⟨htext, FileTree.walk_of_keeps hk hwalk hloc⟩

/-- The location that a path names by its segments, whether or not there is a node. -/
def locate (fs : FileSystem) (p : Path) : Location := Location.follow (fs.start p) p.segments

theorem locate_of_working (h : after.working = fs.working) (p : Path) :
    after.locate p = fs.locate p := by
  rw [locate, locate, start_of_working h]

theorem locate_of_no_parent (fs : FileSystem) (h : p.parent? = none) (hne : p.text ≠ "") :
    fs.locate p = [] := by
  obtain ⟨hroot, hsilent⟩ := Path.parts_of_no_parent h hne
  rw [locate, start, (Path.isAbsolute_iff p).2 hroot, if_pos rfl]
  refine Location.follow_silent ?_ []
  have hparts : p.parts = (.root, p.parts.2) := by rw [← hroot]
  rw [Path.segments_of_parts hparts]
  intro s hs
  rcases List.mem_cons.1 hs with rfl | hs
  · rfl
  · exact hsilent s hs

theorem resolve_eq_locate (h : fs.resolve p = .ok loc) : loc = fs.locate p :=
  FileTree.walk_eq_follow (resolve_eq_ok_iff.1 h).2

theorem Names.eq_locate (h : fs.Names p loc) : loc = fs.locate p := by
  obtain ⟨-, above, name, parent, hseg, hne, hdot, hup, -, henter, rfl⟩ := names_iff.1 h
  rw [locate, hseg, Location.follow_append, ← FileTree.enter_eq_follow henter,
    Location.follow_cons, Location.descend_name hne hdot hup, Location.follow_nil]

/-- A node that stands where a path names a file is the node that the path leads to. -/
theorem Names.resolve (h : fs.Names p loc) (hnode : fs.tree.lookup loc ≠ none) :
    fs.resolve p = .ok loc := by
  obtain ⟨htext, above, name, parent, hseg, hne, hdot, hup, hlen, henter, rfl⟩ := names_iff.1 h
  obtain ⟨hwalk, hdir⟩ := FileTree.enter_eq_ok_iff.1 henter
  refine resolve_eq_ok_iff.2 ⟨htext, ?_⟩
  have hstep := FileTree.step_name hdir hne hdot hup hlen hnode
  rw [hseg]
  exact FileTree.walk_append_eq_ok.2
    ⟨parent, hwalk, FileTree.walk_cons_eq_ok.2 ⟨parent ++ [name], hstep, rfl⟩⟩

/-! ## Operations on one location -/

theorem write_spec {bytes : ByteArray} (h : fs.write p bytes = .ok after) :
    ∃ loc, fs.Names p loc ∧ fs.tree.lookup loc ≠ some .directory ∧
      after.working = fs.working ∧ ∀ at', after.tree.lookup at' =
        if at' = loc then some (.file bytes) else fs.tree.lookup at' := by
  obtain ⟨parent, name, ht, hlen, hne, rfl⟩ := write_eq_ok_iff.1 h
  exact ⟨parent ++ [name], ⟨parent, name, ht, hlen, rfl⟩, hne, rfl, lookup_put_file ht hne⟩

theorem makeDirectory_spec (h : fs.makeDirectory p = .ok after) :
    ∃ loc, fs.tree.lookup loc = none ∧ after.working = fs.working ∧
      (∀ at', after.tree.lookup at' =
        if at' = loc then some .directory else fs.tree.lookup at') ∧
      after.resolve p = .ok loc := by
  obtain ⟨parent, name, slashed, ht, hlen, hfree, rfl⟩ := makeDirectory_eq_ok_iff.1 h
  have hlook := lookup_put_directory ht
  refine ⟨parent ++ [name], hfree, rfl, hlook, ?_⟩
  obtain ⟨htext, hne, hdot, hup, above, blanks, hseg, hblanks, henter, -⟩ := target_eq_child_iff.1 ht
  have hkeeps : fs.tree.Keeps (fs.put parent name .directory).tree := by
    intro loc hloc
    rw [hlook]
    split
    · rfl
    · exact hloc
  have hmade : (fs.put parent name .directory).tree.lookup (parent ++ [name]) = some .directory := by
    rw [hlook, if_pos rfl]
  have henter' := FileTree.enter_of_keeps hkeeps henter
  obtain ⟨hwalk, hdir⟩ := FileTree.enter_eq_ok_iff.1 henter'
  have hstep := FileTree.step_name hdir hne hdot hup hlen (by rw [hmade]; simp)
  have hsilent : ∀ s ∈ blanks, Path.isSilent s = true := by
    intro s hs
    rw [hblanks s hs]
    rfl
  refine resolve_eq_ok_iff.2 ⟨htext, ?_⟩
  rw [hseg]
  exact FileTree.walk_append_eq_ok.2 ⟨parent, hwalk,
    FileTree.walk_cons_eq_ok.2 ⟨parent ++ [name], hstep, FileTree.walk_silent hsilent hmade⟩⟩

theorem isDirectory_of_makeDirectory (h : fs.makeDirectory p = .ok made) :
    made.isDirectory p = true := by
  obtain ⟨loc, -, -, hlook, hres⟩ := makeDirectory_spec h
  simp [isDirectory, node?, hres, hlook, Node.isFile]

theorem isDirectory_of_makeLine (h : fs.makeLine (p :: line) = (made, .ok ())) :
    made.isDirectory p = true := by
  have hstands : ∀ {fs : FileSystem} {e : IoFailure},
      (fs, if fs.isDirectory p = true then Except.ok () else .error e) = (made, .ok ()) →
        made.isDirectory p = true := by
    intro fs e heq
    obtain ⟨rfl, hok⟩ := Prod.mk.inj heq
    by_contra hnone
    rw [if_neg hnone] at hok
    cases hok
  unfold makeLine at h
  split at h
  · next hmade =>
    cases h
    exact isDirectory_of_makeDirectory hmade
  · split at h
    · cases h
    · split at h
      · next hmade =>
        cases h
        exact isDirectory_of_makeDirectory hmade
      · exact hstands h
  · exact hstands h

/-! ## Names put under a directory -/

/-- Names put under the path start at the directory `root`. -/
def Opens (fs : FileSystem) (dir : Path) (root : Location) : Prop :=
  fs.resolve dir.orHere = .ok root ∧ fs.tree.lookup root = some .directory

/-- Some first segments of the path lead to `loc`. -/
def Passes (fs : FileSystem) (p : Path) (loc : Location) : Prop :=
  ∃ taken, taken ≠ [] ∧ taken <+: p.segments ∧ fs.tree.walk (fs.start p) taken = .ok loc

theorem walk_taken {q : Path} {taken : List String} {at' : Location}
    (htaken : q.segments = taken ∨ (taken = [""] ∧ q.segments = ["", ""]))
    (h : fs.tree.walk at' q.segments = .ok loc) : fs.tree.walk at' taken = .ok loc := by
  rcases htaken with hseg | ⟨hroot, hseg⟩
  · rw [← hseg, h]
  · rw [hseg, show ["", ""] = [""] ++ [""] from rfl, FileTree.walk_append_eq_ok] at h
    obtain ⟨mid, hmid, hlast⟩ := h
    rw [hroot, hmid, FileTree.walk_eq_follow hlast]
    rfl

theorem passes_of_heads {q : Path} {rest : List String} (hq : q.Heads p rest)
    (h : fs.resolve q = .ok loc) : fs.Passes p loc := by
  obtain ⟨taken, hne, htaken, hcase⟩ := hq.taken
  obtain ⟨-, hwalk⟩ := resolve_eq_ok_iff.1 h
  have hstart : fs.start q = fs.start p := by rw [start, start, hq.start]
  rw [hstart] at hwalk
  exact ⟨taken, hne, ⟨rest, htaken⟩, walk_taken hcase hwalk⟩

theorem enter_leading (t : FileTree) (loc root : Location) (dir : Path) :
    t.enter loc dir.leading = .ok root ↔ t.enter loc dir.segments = .ok root := by
  rcases dir.leading_cases with ⟨h, -⟩ | h
  · rw [h]
  · rw [h, FileTree.enter_append]
    constructor
    · intro hroot
      exact ⟨root, hroot, (FileTree.enter_silent rfl).2 ⟨rfl, (FileTree.enter_eq_ok_iff.1 hroot).2⟩⟩
    · rintro ⟨mid, hmid, hroot⟩
      rw [((FileTree.enter_silent rfl).1 hroot).1]
      exact hmid

theorem follow_leading (loc : Location) (dir : Path) :
    Location.follow loc dir.leading = Location.follow loc dir.segments := by
  rcases dir.leading_cases with ⟨h, -⟩ | h
  · rw [← h]
  · rw [h, Location.follow_append]
    rfl

theorem opens_iff :
    fs.Opens dir root ↔ (dir.text = "" ∨ textFault? dir = none) ∧
      fs.tree.enter (fs.start dir) dir.leading = .ok root := by
  unfold Opens
  rw [resolve_eq_ok_iff, and_assoc, ← FileTree.enter_eq_ok_iff]
  by_cases hempty : dir.text = ""
  · have hdir : dir = ⟨""⟩ := congrArg Path.mk hempty
    subst hdir
    have hhere : (⟨"."⟩ : Path).segments = ["."] := rfl
    have hlead : (⟨""⟩ : Path).leading = [] := rfl
    rw [show (⟨""⟩ : Path).orHere = ⟨"."⟩ from rfl, hhere, hlead, FileTree.enter_silent rfl,
      FileTree.enter_nil]
    exact and_congr_left fun _ => iff_of_true rfl (.inl rfl)
  · rw [Path.orHere, if_neg hempty, enter_leading]
    simp [hempty]

theorem Opens.of_keeps (h : fs.Opens dir root) (hw : after.working = fs.working)
    (hk : fs.tree.Keeps after.tree) : after.Opens dir root := by
  obtain ⟨htext, henter⟩ := opens_iff.1 h
  rw [← start_of_working hw] at henter
  exact opens_iff.2 ⟨htext, FileTree.enter_of_keeps hk henter⟩

theorem Opens.eq_locate (h : fs.Opens dir root) : root = fs.locate dir := by
  rw [FileTree.enter_eq_follow (opens_iff.1 h).2, follow_leading, locate]

theorem Opens.unique {other : Location} (h : fs.Opens dir root) (h' : fs.Opens dir other) :
    root = other := Except.ok.inj (h.1.symm.trans h'.1)

section Join

variable {key : String}

theorem text_prefix_join (hrel : key.toList.head? ≠ some '/') :
    dir.text.toList <+: (dir.join key).text.toList :=
  Path.text_prefix_of_segments (Path.segments_join dir hrel) (Text.segments_ne_nil '/' key)

theorem textFault?_of_join (hrel : key.toList.head? ≠ some '/')
    (h : textFault? (dir.join key) = none) : dir.text = "" ∨ textFault? dir = none := by
  by_cases hempty : dir.text = ""
  · exact .inl hempty
  · exact .inr (textFault?_of_shorter (text_prefix_join hrel) h hempty)

theorem isAbsolute_join (hrel : key.toList.head? ≠ some '/') :
    (dir.join key).isAbsolute = dir.isAbsolute := by
  have hjoined : dir.text.toList <+: (dir.join key).text.toList := text_prefix_join hrel
  obtain ⟨rest, hrest⟩ := hjoined
  unfold Path.isAbsolute
  cases hdir : dir.text.toList with
  | nil =>
    have hjoin : (dir.join key).text = key := by rw [Path.join, if_neg hrel, hdir]; rfl
    rw [hjoin]
    simpa using hrel
  | cons c cs =>
    rw [← hrest, hdir]
    rfl

theorem start_join (fs : FileSystem) (hrel : key.toList.head? ≠ some '/') :
    fs.start (dir.join key) = fs.start dir := by
  rw [start, start, isAbsolute_join hrel]

theorem locate_join (fs : FileSystem) (hrel : key.toList.head? ≠ some '/') :
    fs.locate (dir.join key) = Location.follow (fs.locate dir) (Text.segments '/' key) := by
  rw [locate, start_join fs hrel, Path.segments_join dir hrel, Location.follow_append,
    follow_leading, locate]

/-- A file named under a directory, by a name that never goes up, stands below it. -/
theorem Names.below (hrel : key.toList.head? ≠ some '/') (hup : ".." ∉ Text.segments '/' key)
    (h : fs.Names (dir.join key) loc) : ∃ root, fs.Opens dir root ∧ root <+: loc := by
  obtain ⟨htext, above, name, parent, hseg, -, -, -, -, henter, rfl⟩ := names_iff.1 h
  rw [Path.segments_join dir hrel] at hseg
  -- the last segment belongs to the key, so what is before it passes through the directory
  obtain ⟨into, last, hinto⟩ := List.eq_nil_or_concat (Text.segments '/' key) |>.resolve_left
    (Text.segments_ne_nil '/' key)
  rw [hinto, List.concat_eq_append, ← List.append_assoc] at hseg
  obtain ⟨habove, -⟩ := List.append_inj' hseg rfl
  rw [start_join fs hrel, ← habove, FileTree.enter_append] at henter
  obtain ⟨root, hroot, hparent⟩ := henter
  refine ⟨root, opens_iff.2 ⟨textFault?_of_join hrel htext, hroot⟩, ?_⟩
  have hdown : ".." ∉ into := by
    intro hm
    rw [hinto, List.concat_eq_append] at hup
    exact hup (List.mem_append_left _ hm)
  rw [FileTree.enter_eq_follow hparent]
  exact (Location.prefix_follow hdown root).trans (List.prefix_append _ _)

/-- What a path leads to, if it goes along the first segments of a name put under a directory: it
is on the way to the directory, or below it. -/
theorem resolve_heads_join {q : Path} {rest : List String} (hrel : key.toList.head? ≠ some '/')
    (hq : q.Heads (dir.join key) rest) (h : fs.resolve q = .ok loc) :
    fs.Passes dir loc ∨ ∃ root into, fs.Opens dir root ∧ into ++ rest = Text.segments '/' key ∧
      loc = Location.follow root into := by
  obtain ⟨taken, hne, htaken, hcase⟩ := hq.taken
  obtain ⟨htext, hwalk⟩ := resolve_eq_ok_iff.1 h
  have hstart : fs.start q = fs.start dir := by
    rw [start, start, hq.start, isAbsolute_join hrel]
  rw [hstart] at hwalk
  have hwalk' : fs.tree.walk (fs.start dir) taken = .ok loc := walk_taken hcase hwalk
  rw [Path.segments_join dir hrel] at htaken
  have hprefix : taken <+: dir.leading ++ Text.segments '/' key := ⟨rest, htaken⟩
  rcases List.prefix_or_prefix_of_prefix hprefix (List.prefix_append _ _) with hshort | hlong
  · exact .inl ⟨taken, hne, hshort.trans dir.leading_prefix, hwalk'⟩
  · obtain ⟨into, rfl⟩ := hlong
    by_cases hinto : into = []
    · subst hinto
      rw [List.append_nil] at hne hwalk'
      exact .inl ⟨dir.leading, hne, dir.leading_prefix, hwalk'⟩
    right
    obtain ⟨root, hroot, hdown⟩ := FileTree.walk_append_eq_ok.1 hwalk'
    refine ⟨root, into, opens_iff.2 ⟨?_, FileTree.enter_eq_ok_iff.2 ⟨hroot, ?_⟩⟩,
      List.append_cancel_left (by rw [← htaken, List.append_assoc]),
      FileTree.walk_eq_follow hdown⟩
    · by_cases hempty : dir.text = ""
      · exact .inl hempty
      · refine .inr (textFault?_of_shorter ?_ htext hempty)
        rcases hcase with hseg | ⟨hone, -⟩
        · exact Path.text_prefix_of_segments hseg hinto
        · -- with a single segment in all, none is left for the directory
          have hlead : dir.leading = [] := by
            have hlen := congrArg List.length hone
            have hpos := List.length_pos_iff.2 hinto
            rw [List.length_append, List.length_singleton] at hlen
            exact List.length_eq_zero_iff.1 (by omega)
          rcases dir.leading_cases with ⟨-, hne⟩ | hseg
          · exact absurd hlead hne
          · rw [hlead] at hseg
            exact absurd (Path.text_eq_empty_iff.2 hseg) hempty
    · exact (FileTree.lookup_of_walk hdown hinto).1

/-- Where such a path leads is above the location of the name, unless the directory is reached by
going up: then it may be on the way to the directory. -/
theorem above_locate_join {q : Path} {rest : List String} {s : String}
    (hrel : key.toList.head? ≠ some '/') (hup : ".." ∉ Text.segments '/' key)
    (hq : q.Heads (dir.join key) rest) (hs : s ∈ rest) (hname : Path.isSilent s = false)
    (h : fs.resolve q = .ok loc) :
    (loc <+: fs.locate (dir.join key) ∧ loc ≠ fs.locate (dir.join key)) ∨
      (".." ∈ dir.segments ∧ fs.Passes dir loc) := by
  obtain ⟨taken, -, htaken, hcase⟩ := hq.taken
  have hlocate : fs.locate (dir.join key) = Location.follow loc rest := by
    have hwalk := (resolve_eq_ok_iff.1 h).2
    have hstart : fs.start q = fs.start (dir.join key) := by rw [start, start, hq.start]
    rw [hstart] at hwalk
    rw [locate, ← htaken, Location.follow_append,
      ← FileTree.walk_eq_follow (walk_taken hcase hwalk)]
  have habove : ".." ∉ rest →
      loc <+: fs.locate (dir.join key) ∧ loc ≠ fs.locate (dir.join key) := by
    intro hdown
    rw [hlocate]
    exact ⟨Location.prefix_follow hdown loc, Location.follow_ne hdown hs hname loc⟩
  by_cases hdots : ".." ∈ dir.segments
  · rcases resolve_heads_join hrel hq h with hpass | ⟨root, into, -, hinto, -⟩
    · exact .inr ⟨hdots, hpass⟩
    · exact .inl (habove fun hm => hup (hinto ▸ List.mem_append_right into hm))
  · left
    refine habove fun hm => ?_
    have hin : ".." ∈ dir.leading ++ Text.segments '/' key := by
      rw [← Path.segments_join dir hrel, ← htaken]
      exact List.mem_append_right taken hm
    rcases List.mem_append.1 hin with hdir | hkey
    · exact hdots (dir.leading_prefix.subset hdir)
    · exact hup hkey

end Join

end FileSystem
end KernelArchive
