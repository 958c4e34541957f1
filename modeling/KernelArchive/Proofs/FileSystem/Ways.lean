import KernelArchive.Proofs.FileSystem.Frames

/-!
# Ways that can be made

* `Location.way loc segments`: the locations that segments lead through, both ends included.
* `FileTree.enter_iff_way`: a directory is entered where the whole way consists of directories.
* `FileTree.Clear`: no file stands in the way. Then only something that is missing can stop a walk
  (`enter_of_clear`).
* `FileSystem.Laid`: the way consists of directories now, and nothing else has changed.
* `FileSystem.makeLine_around`: where the way to a path is clear, making room for it does just this.
-/

namespace KernelArchive
set_option autoImplicit false

/-! ## Locations on the way -/

namespace Location

/-- The locations that segments lead through from a location, both ends included. -/
def way (loc : Location) : List String → List Location
  | [] => [loc]
  | s :: rest => loc :: way (descend loc s) rest

variable {loc at' : Location} {a b segments : List String}

theorem start_mem_way (loc : Location) (segments : List String) : loc ∈ way loc segments := by
  cases segments with
  | nil => exact List.mem_singleton_self loc
  | cons s rest => exact List.mem_cons_self

theorem way_concat (loc : Location) (a : List String) (s : String) :
    way loc (a ++ [s]) = way loc a ++ [descend (follow loc a) s] := by
  induction a generalizing loc with
  | nil => rfl
  | cons first rest ih =>
    rw [List.cons_append, way, ih, way, follow_cons, List.cons_append]

theorem mem_way_append :
    at' ∈ way loc (a ++ b) ↔ at' ∈ way loc a ∨ at' ∈ way (follow loc a) b := by
  induction a generalizing loc with
  | nil =>
    have hstart := start_mem_way loc b
    simp only [List.nil_append, way, List.mem_singleton, follow_nil]
    exact (or_iff_right_of_imp fun heq => heq ▸ hstart).symm
  | cons s rest ih => simp only [List.cons_append, way, List.mem_cons, ih, follow_cons, or_assoc]

/-- Segments that never go up lead through all locations between the two ends. -/
theorem mem_way_iff (hup : ".." ∉ segments) :
    at' ∈ way loc segments ↔ loc <+: at' ∧ at' <+: follow loc segments := by
  induction segments generalizing loc with
  | nil =>
    rw [way, List.mem_singleton, follow_nil]
    constructor
    · rintro rfl
      exact ⟨List.prefix_rfl, List.prefix_rfl⟩
    · rintro ⟨habove, hbelow⟩
      exact hbelow.eq_of_length_le habove.length_le
  | cons s rest ih =>
    rw [List.mem_cons, not_or] at hup
    have hdown := prefix_descend loc (Ne.symm hup.1)
    rw [way, List.mem_cons, ih hup.2, follow_cons]
    constructor
    · rintro (rfl | ⟨hbetween, hend⟩)
      · exact ⟨List.prefix_rfl, hdown.trans (prefix_follow hup.2 _)⟩
      · exact ⟨hdown.trans hbetween, hend⟩
    · rintro ⟨hstart, hend⟩
      -- a location further down than the start is as far down as the first step leads
      refine or_iff_not_imp_left.2 fun hne => ⟨?_, hend⟩
      refine List.prefix_of_prefix_length_le (prefix_follow hup.2 _) hend ?_
      have hlonger : loc.length < at'.length := by
        by_contra hshort
        exact hne (hstart.eq_of_length_le (by omega)).symm
      exact (length_descend_le loc s).trans hlonger

theorem follow_mem_way (loc : Location) (segments : List String) :
    follow loc segments ∈ way loc segments := by
  induction segments generalizing loc with
  | nil => exact List.mem_singleton_self loc
  | cons s rest ih => exact List.mem_cons_of_mem _ (ih (descend loc s))

end Location

/-! ## Ways that can be walked -/

namespace FileTree

variable {t : FileTree} {loc there : Location} {a b segments : List String} {s : String}

theorem enter_cons : t.enter loc (s :: segments) = .ok there ↔
    ∃ next, t.step loc s = .ok next ∧ t.enter next segments = .ok there := by
  simp only [enter_eq_ok_iff, walk_cons_eq_ok]
  constructor
  · rintro ⟨⟨next, hstep, hrest⟩, hdir⟩
    exact ⟨next, hstep, hrest, hdir⟩
  · rintro ⟨next, hstep, hrest, hdir⟩
    exact ⟨⟨next, hstep, hrest⟩, hdir⟩

theorem short_of_no_name (h : Path.isSilent s = true ∨ s = "..") :
    s.utf8ByteSize ≤ nameLimit := by
  rw [Path.isSilent_iff] at h
  obtain (rfl | rfl) | rfl := h <;> decide

theorem lookup_descend (hdir : t.lookup loc = some .directory)
    (h : Path.isSilent s = true ∨ s = "..") :
    t.lookup (Location.descend loc s) = some .directory := by
  unfold Location.descend
  split
  · exact hdir
  · next hsilent => rw [if_pos (h.resolve_left hsilent), lookup_dropLast hdir]

theorem enter_iff_way : t.enter loc segments = .ok there ↔
    there = Location.follow loc segments ∧ (∀ s ∈ segments, s.utf8ByteSize ≤ nameLimit) ∧
      ∀ at' ∈ Location.way loc segments, t.lookup at' = some .directory := by
  induction segments generalizing loc with
  | nil => simp [enter_nil, Location.follow_nil, Location.way]
  | cons s rest ih =>
    simp only [enter_cons, ih, step_eq_ok_iff, Location.way, List.forall_mem_cons,
      Location.follow_cons]
    constructor
    · rintro ⟨_, ⟨hdir, rfl, hname⟩, hthere, hshort, hway⟩
      refine ⟨hthere, ⟨?_, hshort⟩, hdir, hway⟩
      by_cases hplain : Path.isSilent s = true ∨ s = ".."
      · exact short_of_no_name hplain
      · rw [not_or] at hplain
        exact (hname (Bool.eq_false_iff.2 hplain.1) hplain.2).1
    · rintro ⟨hthere, ⟨hfirst, hshort⟩, hdir, hway⟩
      refine ⟨_, ⟨hdir, rfl, fun hsilent hup => ⟨hfirst, ?_⟩⟩, hthere, hshort, hway⟩
      have hnext := hway _ (Location.start_mem_way _ rest)
      rw [Location.descend, hsilent, if_neg Bool.false_ne_true, if_neg hup] at hnext
      rw [hnext]
      simp

/-- The way starts at a directory, no file stands in it, and its names are not too long. -/
structure Clear (t : FileTree) (loc : Location) (segments : List String) : Prop where
  start : t.lookup loc = some .directory
  short : ∀ s ∈ segments, s.utf8ByteSize ≤ nameLimit
  free : ∀ at' ∈ Location.way loc segments, ∀ bytes, t.lookup at' ≠ some (.file bytes)

theorem Clear.left (h : t.Clear loc (a ++ b)) : t.Clear loc a where
  start := h.start
  short s hs := h.short s (List.mem_append_left b hs)
  free at' hat := h.free at' (Location.mem_way_append.2 (.inl hat))

/-- The first step of a clear way can be taken, unless something is missing. -/
theorem Clear.step (h : t.Clear loc (s :: segments)) :
    (t.step loc s = .ok (Location.descend loc s) ∧ t.Clear (Location.descend loc s) segments) ∨
      t.step loc s = .error .notFound := by
  obtain ⟨hshort, hrest⟩ := List.forall_mem_cons.1 h.short
  have hnext : Location.descend loc s ∈ Location.way loc (s :: segments) :=
    List.mem_cons_of_mem loc (Location.start_mem_way _ segments)
  cases hlook : t.lookup (Location.descend loc s) with
  | some n =>
    have hdir : t.lookup (Location.descend loc s) = some .directory := by
      cases n with
      | file bytes => exact absurd hlook (h.free _ hnext bytes)
      | directory => exact hlook
    refine .inl ⟨step_eq_ok_iff.2 ⟨h.start, rfl, fun hsilent hup => ⟨hshort, ?_⟩⟩, hdir, hrest,
      fun at' hat => h.free at' (List.mem_cons_of_mem loc hat)⟩
    rw [Location.descend, hsilent, if_neg Bool.false_ne_true, if_neg hup] at hlook
    rw [hlook]
    simp
  | none =>
    right
    have hname : ¬(Path.isSilent s = true ∨ s = "..") := by
      intro hplain
      rw [lookup_descend h.start hplain] at hlook
      cases hlook
    rw [not_or] at hname
    rw [Location.descend, if_neg hname.1, if_neg hname.2] at hlook
    have hlong : ¬nameLimit < s.utf8ByteSize := by omega
    simp only [FileTree.step, h.start, if_neg hname.1, if_neg hname.2, if_neg hlong, hlook]

theorem enter_of_step_error {e : IoFailure} (h : t.step loc s = .error e) :
    t.enter loc (s :: segments) = .error e := by
  rw [enter, walk_cons, h]
  rfl

theorem enter_of_step {next : Location} (h : t.step loc s = .ok next) :
    t.enter loc (s :: segments) = t.enter next segments := by
  rw [enter, walk_cons, h]
  rfl

/-- A clear way can be walked, unless something is missing. -/
theorem enter_of_clear (h : t.Clear loc segments) :
    t.enter loc segments = .ok (Location.follow loc segments) ∨
      t.enter loc segments = .error .notFound := by
  induction segments generalizing loc with
  | nil => exact .inl (enter_nil.2 ⟨rfl, h.start⟩)
  | cons s rest ih =>
    obtain ⟨hstep, hrest⟩ | hmissing := h.step
    · rw [enter_of_step hstep, Location.follow_cons]
      exact ih hrest
    · exact .inr (enter_of_step_error hmissing)

theorem enter_concat (henter : t.enter loc a = .ok there) (hshort : s.utf8ByteSize ≤ nameLimit)
    (hlast : t.lookup (Location.descend there s) = some .directory) :
    t.enter loc (a ++ [s]) = .ok (Location.descend there s) := by
  obtain ⟨rfl, hshorts, hway⟩ := enter_iff_way.1 henter
  refine enter_iff_way.2 ⟨(Location.follow_append loc a [s]).symm, ?_, ?_⟩
  · intro s' hs
    rcases List.mem_append.1 hs with hs | hs
    · exact hshorts s' hs
    · rwa [List.mem_singleton.1 hs]
  · rw [Location.way_concat]
    intro at' hat
    rcases List.mem_append.1 hat with hat | hat
    · exact hway at' hat
    · rwa [List.mem_singleton.1 hat]

end FileTree

/-! ## Ways that are made -/

/-- What is around a path are the paths that end with its other segments. -/
theorem Path.around_of_segments {p : Path} {above : List String} {s : String}
    (hseg : p.segments = above ++ [s]) (hs : isSilent s = false) :
    ∃ r, p.parts.1.segments ++ r.reverse = above ∧ r.reverse ++ [s] = p.parts.2 ∧
      p.around = lineageFrom p.parts.1 r := by
  have hparts : p.segments = p.parts.1.segments ++ p.parts.2 := segments_of_parts rfl
  rw [hseg] at hparts
  obtain hnone | ⟨init, last, hbody⟩ := List.eq_nil_or_concat p.parts.2
  · -- the start alone has no segment that counts
    have hsilent : ∀ t ∈ p.parts.1.segments, isSilent t = true := by
      cases p.parts.1 <;> decide
    rw [hnone, List.append_nil] at hparts
    have hcounts := hsilent s (by rw [← hparts]; simp)
    rw [hs] at hcounts
    cases hcounts
  · rw [List.concat_eq_append] at hbody
    rw [hbody, ← List.append_assoc] at hparts
    obtain ⟨rfl, hlast⟩ := List.append_inj' hparts rfl
    obtain rfl := List.singleton_inj.1 hlast
    refine ⟨init.reverse, by rw [List.reverse_reverse], by rw [List.reverse_reverse, hbody], ?_⟩
    have hne : p.text ≠ "" := by
      intro hempty
      rw [text_eq_empty_iff.1 hempty] at hseg
      have hlast := congrArg List.getLast? hseg
      rw [List.getLast?_concat] at hlast
      rw [← Option.some.inj hlast] at hs
      cases hs
    have hreversed : p.reversedBody = s :: init.reverse := by
      rw [reversedBody, hbody, List.reverse_append, List.reverse_singleton, List.singleton_append,
        List.dropWhile_cons, hs, if_neg Bool.false_ne_true]
    have hline := lineage_eq_cons hne
    rw [lineage, if_neg hne, hreversed] at hline
    exact (List.cons.inj hline).2.symm

namespace FileSystem

variable {fs made later : FileSystem} {p q : Path} {loc there parent : Location}
  {a b above segments : List String} {s : String} {line : List Path}

/-- The way consists of directories, and nothing else has changed. -/
structure Laid (fs : FileSystem) (loc : Location) (segments : List String) (made : FileSystem) :
    Prop where
  working : made.working = fs.working
  lookup : ∀ at', made.tree.lookup at' =
    if at' ∈ Location.way loc segments then some .directory else fs.tree.lookup at'

theorem laid_of_entered (h : fs.tree.enter loc segments = .ok there) :
    Laid fs loc segments fs := by
  refine ⟨rfl, fun at' => ?_⟩
  split
  · next hat => exact (FileTree.enter_iff_way.1 h).2.2 at' hat
  · rfl

theorem Laid.enter (h : Laid fs loc segments made)
    (hshort : ∀ s ∈ segments, s.utf8ByteSize ≤ nameLimit) :
    made.tree.enter loc segments = .ok (Location.follow loc segments) :=
  FileTree.enter_iff_way.2 ⟨rfl, hshort, fun at' hat => (h.lookup at').trans (if_pos hat)⟩

theorem Laid.clear (h : Laid fs loc a made) (hclear : fs.tree.Clear loc b) :
    made.tree.Clear loc b where
  start := by
    rw [h.lookup]
    split
    · rfl
    · exact hclear.start
  short := hclear.short
  free at' hat bytes := by
    rw [h.lookup]
    split
    · simp
    · exact hclear.free at' hat bytes

theorem Laid.extend (h : Laid fs loc a made) (h' : Laid made loc (a ++ b) later) :
    Laid fs loc (a ++ b) later := by
  refine ⟨h'.working.trans h.working, fun at' => ?_⟩
  rw [h'.lookup]
  split
  · rfl
  · next hat => rw [h.lookup, if_neg fun hshort => hat (Location.mem_way_append.2 (.inl hshort))]

theorem Laid.silent (h : Laid fs loc a made) (hs : Path.isSilent s = true) :
    Laid fs loc (a ++ [s]) made := by
  refine ⟨h.working, fun at' => ?_⟩
  have hsame : at' ∈ Location.way loc (a ++ [s]) ↔ at' ∈ Location.way loc a := by
    rw [Location.way_concat, Location.descend, if_pos hs, List.mem_append, List.mem_singleton]
    exact or_iff_left_of_imp fun heq => heq ▸ Location.follow_mem_way loc a
  simp only [h.lookup, hsame]

/-! ### One directory -/

theorem target_of_segments (htext : textFault? q = none) (hseg : q.segments = above ++ [s])
    (hs : s ≠ "") :
    fs.target q = match fs.tree.enter (fs.start q) above with
      | .error e => .error e
      | .ok parent => if s = "." ∨ s = ".." then .ok .standing else .ok (.child parent s false) := by
  have hdrop : q.segments.reverse.dropWhile (· == "") = s :: above.reverse := by
    rw [hseg, List.reverse_append]
    simp [hs]
  have hlast : (q.segments.getLast? == some "") = false := by
    rw [hseg]
    simp [hs]
  cases henter : fs.tree.enter (fs.start q) above with
  | error e => simp [target, htext, hdrop, henter]
  | ok parent => simp [target, htext, hdrop, hlast, henter]

theorem isDirectory_of_entered (htext : textFault? q = none)
    (h : fs.tree.enter (fs.start q) q.segments = .ok there) : fs.isDirectory q = true := by
  obtain ⟨hwalk, hdir⟩ := FileTree.enter_eq_ok_iff.1 h
  have hres : fs.resolve q = .ok there := resolve_eq_ok_iff.2 ⟨htext, hwalk⟩
  have hnode : fs.node? q = some .directory := by rw [node?, hres]; exact hdir
  rw [isDirectory, hnode]
  rfl

/-- The directory is made now, or it stands already. -/
inductive Made (fs : FileSystem) (q : Path) : FileSystem → Prop
  | created {made : FileSystem} (h : fs.makeDirectory q = .ok made) : Made fs q made
  | standing {e : IoFailure} (h : fs.makeDirectory q = .error e) (hfound : e ≠ .notFound)
      (hdir : fs.isDirectory q = true) : Made fs q fs

/-- A directory in a directory can be made, if no file stands in its place. -/
theorem made_of_entered (htext : textFault? q = none) (hseg : q.segments = above ++ [s])
    (hs : Path.isSilent s = false) (hclear : fs.tree.Clear (fs.start q) (above ++ [s]))
    (henter : fs.tree.enter (fs.start q) above = .ok parent) :
    ∃ made, Made fs q made ∧ Laid fs (fs.start q) (above ++ [s]) made := by
  obtain ⟨hempty, hhere⟩ : s ≠ "" ∧ s ≠ "." := by simpa [Path.isSilent] using hs
  have htarget : fs.target q = _ := target_of_segments htext hseg hempty
  rw [henter] at htarget
  have hshort := hclear.short s (by simp)
  have hparent := FileTree.enter_eq_follow henter
  -- if the place is a directory, nothing needs to be done
  have hstanding : ∀ {e : IoFailure}, fs.makeDirectory q = .error e → e ≠ .notFound →
      fs.tree.lookup (Location.descend parent s) = some .directory →
      ∃ made, Made fs q made ∧ Laid fs (fs.start q) (above ++ [s]) made := by
    intro e herror hfound hdir
    have hlast := FileTree.enter_concat henter hshort hdir
    exact ⟨fs, .standing herror hfound (isDirectory_of_entered htext (hseg ▸ hlast)),
      laid_of_entered hlast⟩
  by_cases hup : s = ".."
  · have herror : fs.makeDirectory q = .error .alreadyExists := by
      rw [makeDirectory, htarget]
      simp [hup]
    have hdir := FileTree.lookup_descend (s := s) (FileTree.lookup_of_enter henter) (.inr hup)
    exact hstanding herror (by simp) hdir
  · have hdown : Location.descend parent s = parent ++ [s] :=
      Location.descend_name hempty hhere hup parent
    have hchild : fs.target q = .ok (.child parent s false) := by
      rw [htarget]
      simp [hhere, hup]
    have hfits : ¬nameLimit < s.utf8ByteSize := by omega
    cases hlook : fs.tree.lookup (parent ++ [s]) with
    | none =>
      have hmade : fs.makeDirectory q = .ok (fs.put parent s .directory) := by
        simp only [makeDirectory, hchild, if_neg hfits, hlook]
      refine ⟨_, .created hmade, rfl, fun at' => ?_⟩
      have hway : at' ∈ Location.way (fs.start q) (above ++ [s]) ↔
          at' ∈ Location.way (fs.start q) above ∨ at' = parent ++ [s] := by
        rw [Location.way_concat, ← hparent, hdown, List.mem_append, List.mem_singleton]
      rw [lookup_put_directory hchild]
      by_cases hat : at' = parent ++ [s]
      · rw [if_pos hat, if_pos (hway.2 (.inr hat))]
      · simp only [hway, hat, or_false, if_false]
        exact (laid_of_entered henter).lookup at'
    | some n =>
      have herror : fs.makeDirectory q = .error .alreadyExists := by
        simp only [makeDirectory, hchild, if_neg hfits, hlook]
      cases n with
      | directory => exact hstanding herror (by simp) (by rw [hdown, hlook])
      | file bytes =>
        have hway : parent ++ [s] ∈ Location.way (fs.start q) (above ++ [s]) := by
          rw [Location.way_concat, ← hparent, hdown]
          simp
        exact absurd hlook (hclear.free _ hway bytes)

/-! ### A line of directories -/

theorem makeLine_of_made (h : Made fs q made) : fs.makeLine (q :: line) = (made, .ok ()) := by
  cases h with
  | created h => rw [makeLine, h]
  | @standing e h hfound hdir =>
    rw [makeLine, h]
    cases e with
    | notFound => exact absurd rfl hfound
    | _ => simp [hdir]

theorem makeLine_of_missing (hmissing : fs.makeDirectory q = .error .notFound)
    (hline : fs.makeLine line = (made, .ok ())) (h : Made made q later) :
    fs.makeLine (q :: line) = (later, .ok ()) := by
  rw [makeLine, hmissing]
  simp only [hline]
  cases h with
  | created h => rw [h]
  | standing h hfound hdir =>
    rw [h]
    simp [hdir]

section Around

variable {anchor : Path.Anchor} {body r taken more : List String}

/-- A path made of first segments of another, the last of which counts. -/
theorem first_segments (fs : FileSystem) (hparts : p.parts = (anchor, body))
    (htext : textFault? p = none) (hbody : (taken ++ [s]) ++ more = body) (hmore : more ≠ [])
    (hs : s ≠ "") :
    (Path.ofParts anchor (taken ++ [s])).segments = anchor.segments ++ (taken ++ [s]) ∧
      textFault? (Path.ofParts anchor (taken ++ [s])) = none ∧
      fs.start (Path.ofParts anchor (taken ++ [s])) = fs.start p := by
  have hne : taken ++ [s] ≠ [] := by simp
  have hseg := Path.segments_ofParts hparts ⟨more, hbody⟩ hne
  have hlast : (Path.ofParts anchor (taken ++ [s])).segments.getLast? = some s := by
    rw [hseg, ← List.append_assoc, List.getLast?_concat]
  have hwhole : p.segments = (Path.ofParts anchor (taken ++ [s])).leading ++ more := by
    rw [Path.leading, hlast, if_neg (by simpa using hs), hseg, Path.segments_of_parts hparts,
      ← hbody]
    simp only [List.append_assoc]
  refine ⟨hseg, textFault?_of_shorter (Path.text_prefix_of_segments hwhole hmore) htext ?_, ?_⟩
  · intro hempty
    rw [Path.text_eq_empty_iff.1 hempty] at hlast
    exact hs (Option.some.inj hlast).symm
  · rw [start, start, (Path.heads_ofParts hparts hbody fun _ => hne).start]

/-- The starts of paths are directories that stand already. -/
theorem makeLine_start (hparts : p.parts = (anchor, body))
    (hdir : fs.tree.lookup (fs.start p) = some .directory) :
    fs.makeLine (Path.lineageFrom anchor []) = (fs, .ok ()) := by
  cases anchor with
  | bare => rfl
  | root =>
    have habsolute : p.isAbsolute = true := (Path.isAbsolute_iff p).2 (by rw [hparts])
    rw [start, if_pos habsolute] at hdir
    have herror : fs.makeDirectory (.ofParts .root []) = .error .alreadyExists := rfl
    have hstanding : fs.isDirectory (.ofParts .root []) = true :=
      isDirectory_of_entered (by decide) (FileTree.enter_eq_ok_iff.2
        ⟨FileTree.walk_silent (by decide) hdir, hdir⟩)
    exact makeLine_of_made (.standing herror (by simp) hstanding)
  | here =>
    have hrelative : p.isAbsolute = false := by
      rw [Bool.eq_false_iff, Ne, Path.isAbsolute_iff, hparts]
      simp
    rw [start, hrelative] at hdir
    have hhere : (Path.ofParts .here []).segments = [] ++ ["."] := rfl
    have herror : fs.makeDirectory (.ofParts .here []) = .error .alreadyExists := by
      have henter : fs.tree.enter (fs.start (.ofParts .here [])) [] = .ok fs.working :=
        FileTree.enter_nil.2 ⟨rfl, hdir⟩
      rw [makeDirectory, target_of_segments (by decide) hhere (by decide), henter]
      rfl
    have hstanding : fs.isDirectory (.ofParts .here []) = true :=
      isDirectory_of_entered (by decide) (FileTree.enter_eq_ok_iff.2
        ⟨FileTree.walk_silent (by decide) hdir, hdir⟩)
    exact makeLine_of_made (.standing herror (by simp) hstanding)

/-- The paths that end with the segments of a clear way become directories, and the way to them. -/
theorem makeLine_lineageFrom (hparts : p.parts = (anchor, body)) (htext : textFault? p = none)
    (hbody : r.reverse ++ more = body) (hmore : more ≠ [])
    (hclear : fs.tree.Clear (fs.start p) (anchor.segments ++ r.reverse)) :
    ∃ made, fs.makeLine (Path.lineageFrom anchor r) = (made, .ok ()) ∧
      Laid fs (fs.start p) (anchor.segments ++ r.reverse) made := by
  induction r generalizing more with
  | nil =>
    have hsilent : ∀ s ∈ anchor.segments ++ [], Path.isSilent s = true := by
      cases anchor <;> decide
    have hwalk := FileTree.walk_silent hsilent hclear.start
    exact ⟨fs, makeLine_start hparts hclear.start,
      laid_of_entered (FileTree.enter_eq_ok_iff.2 ⟨hwalk, hclear.start⟩)⟩
  | cons s r ih =>
    rw [List.reverse_cons] at hbody
    rw [List.reverse_cons, ← List.append_assoc] at hclear ⊢
    have hrest : r.reverse ++ ([s] ++ more) = body := by rw [← hbody, List.append_assoc]
    obtain ⟨made, hline, hlaid⟩ := ih hrest (by simp) hclear.left
    cases hs : Path.isSilent s with
    | true =>
      rw [Path.lineageFrom, if_pos hs]
      exact ⟨made, hline, hlaid.silent hs⟩
    | false =>
      rw [Path.lineageFrom, hs, if_neg Bool.false_ne_true, List.reverse_cons]
      have hempty : s ≠ "" := by
        rintro rfl
        cases hs
      obtain ⟨hseg, hfine, hstart⟩ := first_segments fs hparts htext hbody hmore hempty
      rw [← List.append_assoc] at hseg
      rw [← hstart] at hclear hlaid ⊢
      obtain henter | hmissing := FileTree.enter_of_clear hclear.left
      · obtain ⟨made', hmade, hlaid'⟩ := made_of_entered hfine hseg hs hclear henter
        exact ⟨made', makeLine_of_made hmade, hlaid'⟩
      · -- what is around it comes first, and then it can be made
        have hstart' : made.start (Path.ofParts anchor (r.reverse ++ [s])) =
            fs.start (Path.ofParts anchor (r.reverse ++ [s])) := start_of_working hlaid.working _
        have henter := hlaid.enter hclear.left.short
        have hclear' := hlaid.clear hclear
        rw [← hstart'] at henter hclear'
        obtain ⟨later, hmade, hlaid'⟩ := made_of_entered hfine hseg hs hclear' henter
        rw [hstart'] at hlaid'
        have hnone : fs.makeDirectory (Path.ofParts anchor (r.reverse ++ [s])) =
            .error .notFound := by
          rw [makeDirectory, target_of_segments hfine hseg hempty, hmissing]
        exact ⟨later, makeLine_of_missing hnone hline hmade, hlaid.extend hlaid'⟩

/-- Where the way to a path is clear, making room for it makes the way and does nothing else. -/
theorem makeLine_around (htext : textFault? p = none) (hseg : p.segments = above ++ [s])
    (hs : Path.isSilent s = false) (hclear : fs.tree.Clear (fs.start p) above) :
    ∃ made, fs.makeLine p.around = (made, .ok ()) ∧ Laid fs (fs.start p) above made := by
  obtain ⟨r, rfl, hbody, haround⟩ := Path.around_of_segments hseg hs
  rw [haround]
  exact makeLine_lineageFrom rfl htext hbody (by simp) hclear

end Around

end FileSystem
end KernelArchive
