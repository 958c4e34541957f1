import KernelArchive.FileSystem.Attempt
import KernelArchive.Proofs.FileSystem.Frames

/-!
# Plain names in a directory

* `Path.Plain`: a name that leads straight to a node of its directory.
* `FileSystem.locate_join_plain`: where such a name leads.
* `FileSystem.tryText_eq_some_iff`: a text can be read where there is a file with its bytes.
* `FileSystem.Settled`: no name in the directory comes to be on the way to another. There only
  what is written changes (`Alters.lookup_beside`, `Grows.lookup_beside`).
* `FileSystem.node?_join_of_same`: what a name leads to depends on the node there alone.
* `FileSystem.AlikeAt`: a path that leads to the same in two file systems; whatever is read under it
  is the same (`AlikeAt.tryText`, `AlikeAt.find?`).
-/

namespace KernelArchive
set_option autoImplicit false

/-- A name that is one segment and leads straight to a node of its directory. -/
structure Path.Plain (name : String) : Prop where
  single : '/' ∉ name.toList
  ne_empty : name ≠ ""
  ne_here : name ≠ "."
  ne_up : name ≠ ".."

namespace FileSystem

variable {fs after : FileSystem} {dir p : Path} {dests : List Path}
  {root loc : Location} {name : String}

/-! ## Where they lead -/

theorem segments_of_plain (h : Path.Plain name) : Text.segments '/' name = [name] := by
  rw [Text.segments, Text.cut_of_notMem h.single]
  simp

theorem relative_of_plain (h : Path.Plain name) : name.toList.head? ≠ some '/' := by
  intro hhead
  exact h.single (List.mem_of_head? hhead)

theorem locate_join_plain (fs : FileSystem) (dir : Path) (h : Path.Plain name) :
    fs.locate (dir.join name) = fs.locate dir ++ [name] := by
  rw [locate_join fs (relative_of_plain h), segments_of_plain h, Location.follow_cons,
    Location.descend_name h.ne_empty h.ne_here h.ne_up, Location.follow_nil]

theorem segments_join_plain (dir : Path) (h : Path.Plain name) :
    (dir.join name).segments = dir.leading ++ [name] := by
  rw [Path.segments_join dir (relative_of_plain h), segments_of_plain h]

theorem node?_of_resolve (h : fs.resolve p = .ok loc) : fs.node? p = fs.tree.lookup loc := by
  rw [node?, h]

theorem node?_eq_none (h : fs.tree.lookup (fs.locate p) = none) : fs.node? p = none := by
  unfold node?
  cases hres : fs.resolve p with
  | error e => rfl
  | ok loc => rw [← resolve_eq_locate hres] at h; exact h

theorem node?_of_write {bytes : ByteArray} (h : fs.write p bytes = .ok after) :
    after.node? p = some (.file bytes) := by
  have halters := alters_write h
  obtain ⟨loc, hnames, -, -, hlook⟩ := write_spec h
  have hfile : after.tree.lookup loc = some (.file bytes) := by rw [hlook, if_pos rfl]
  have hnames' := hnames.of_keeps halters.working halters.keeps
  rw [node?_of_resolve (hnames'.resolve (by rw [hfile]; simp)), hfile]

/-! ## Reading -/

theorem read_eq_ok_iff {bytes : ByteArray} :
    fs.read p = .ok bytes ↔ fs.node? p = some (.file bytes) := by
  unfold read node?
  cases fs.resolve p with
  | error e => simp
  | ok loc =>
    cases h : fs.tree.lookup loc with
    | none => simp [h]
    | some node => cases node <;> simp [h]

/-- Bytes are read as a text exactly if they are the bytes of that text. -/
theorem fromUTF8?_eq_some_iff {bytes : ByteArray} {text : String} :
    String.fromUTF8? bytes = some text ↔ bytes = text.toUTF8 := by
  unfold String.fromUTF8?
  constructor
  · intro h
    split at h
    · obtain rfl := Option.some.inj h
      rfl
    · cases h
  · rintro rfl
    rw [String.toUTF8_eq_toByteArray, dif_pos text.isValidUTF8]
    rfl

theorem readText_eq_ok_iff {text : String} :
    fs.readText p = .ok text ↔ fs.node? p = some (.file text.toUTF8) := by
  rw [← read_eq_ok_iff]
  unfold readText
  cases fs.read p with
  | error e => simp
  | ok bytes =>
    simp only [Except.ok.injEq]
    rw [← fromUTF8?_eq_some_iff]
    cases String.fromUTF8? bytes <;> simp

theorem tryText_eq_some_iff {text : String} :
    (fs.tryText p).value = some text ↔ fs.node? p = some (.file text.toUTF8) := by
  rw [value_tryText, ← readText_eq_ok_iff]
  cases fs.readText p <;> simp [Except.toOption]

theorem tryText_of_absent (h : fs.node? p = none) : (fs.tryText p).value = none := by
  refine Option.eq_none_iff_forall_ne_some.2 fun text htext => ?_
  rw [tryText_eq_some_iff, h] at htext
  cases htext

/-! ## What changes beside them -/

/-- What is on the way to a directory that exists is there already. -/
theorem Opens.lookup_of_passes (hroot : fs.Opens dir root) (hw : after.working = fs.working)
    (h : after.Passes dir loc) : fs.tree.lookup loc ≠ none := by
  obtain ⟨taken, hne, ⟨more, htaken⟩, hwalk⟩ := h
  have henter := (enter_leading fs.tree (fs.start dir) root dir).1 (opens_iff.1 hroot).2
  have hthere := (FileTree.enter_eq_ok_iff.1 henter).1
  rw [← htaken, FileTree.walk_append_eq_ok] at hthere
  obtain ⟨mid, hmid, -⟩ := hthere
  have hloc : mid = loc := by
    rw [FileTree.walk_eq_follow hmid, FileTree.walk_eq_follow hwalk, start_of_working hw]
  rw [← hloc]
  exact (FileTree.lookup_of_walk hmid hne).2

/-- The directory is there, or the way to it never goes up. -/
def Settled (fs : FileSystem) (dir : Path) : Prop :=
  (∃ root, fs.Opens dir root) ∨ ".." ∉ dir.segments

theorem Settled.of_keeps (h : fs.Settled dir) (hw : after.working = fs.working)
    (hk : fs.tree.Keeps after.tree) : after.Settled dir :=
  h.imp_left fun ⟨root, hroot⟩ => ⟨root, hroot.of_keeps hw hk⟩

/-- A directory created around a name in the directory is no name in it. -/
theorem Settled.ne_of_around {key : String} {q : Path} (hdir : fs.Settled dir)
    (hw : after.working = fs.working) (hkey : Path.Plain key)
    (hq : q ∈ (dir.join key).around) (hres : after.resolve q = .ok loc)
    (hfree : fs.tree.lookup loc = none) (name : String) : loc ≠ fs.locate dir ++ [name] := by
  obtain ⟨left, s, hheads, hs, hcounts⟩ := Path.heads_of_mem_around hq
  rintro rfl
  rcases hdir with ⟨root, hroot⟩ | hdots
  · rcases resolve_heads_join (relative_of_plain hkey) hheads hres with
      hpass | ⟨root', into, hopens, hinto, hloc⟩
    · exact hroot.lookup_of_passes hw hpass hfree
    · -- the one segment of the key is left, so this is the directory itself
      rw [segments_of_plain hkey] at hinto
      have hnil : into = [] := by
        have hlen := congrArg List.length hinto
        have hpos := List.length_pos_of_mem hs
        rw [List.length_append, List.length_singleton] at hlen
        exact List.length_eq_zero_iff.1 (by omega)
      rw [hnil, Location.follow_nil, hopens.eq_locate, locate_of_working hw] at hloc
      simp at hloc
  · have hup : ".." ∉ Text.segments '/' key := by
      rw [segments_of_plain hkey]
      simpa using hkey.ne_up.symm
    rcases above_locate_join (relative_of_plain hkey) hup hheads hs hcounts hres with
      ⟨habove, hne⟩ | ⟨hdots', -⟩
    · rw [locate_of_working hw, locate_join_plain fs dir hkey] at habove hne
      exact hne (habove.eq_of_length (by simp))
    · exact hdots hdots'

/-- Making room for plain names in a directory creates none there. -/
theorem Grows.lookup_beside {key : String} (h : Grows (dir.join key).around fs after)
    (hdir : fs.Settled dir) (hkey : Path.Plain key) (name : String) :
    after.tree.lookup (fs.locate dir ++ [name]) = fs.tree.lookup (fs.locate dir ++ [name]) := by
  rcases h.frame (fs.locate dir ++ [name]) with hsame | ⟨hfree, -, q, hq, hres⟩
  · exact hsame
  · exact absurd rfl (hdir.ne_of_around h.working hkey hq hres hfree name)

/-- Writing plain names into a directory changes no other names there. -/
theorem Alters.lookup_beside (h : Alters dests fs after) (hdir : fs.Settled dir)
    (hplain : ∀ dest ∈ dests, ∃ key, Path.Plain key ∧ key ≠ name ∧ dest = dir.join key) :
    after.tree.lookup (fs.locate dir ++ [name]) = fs.tree.lookup (fs.locate dir ++ [name]) := by
  rcases h.frame (fs.locate dir ++ [name]) with
    hsame | ⟨dest, hdest, hnames⟩ | ⟨hfree, -, dest, hdest, q, hq, hres⟩
  · exact hsame
  · obtain ⟨key, hkey, hne, rfl⟩ := hplain dest hdest
    have hloc := hnames.eq_locate
    rw [locate_of_working h.working, locate_join_plain fs dir hkey] at hloc
    exact absurd (by simpa using hloc) hne.symm
  · obtain ⟨key, hkey, -, rfl⟩ := hplain dest hdest
    exact absurd rfl (hdir.ne_of_around h.working hkey hq hres hfree name)

/-- In a directory that is there, a plain name is one step from it. -/
theorem Opens.resolve_join_eq (h : fs.Opens dir root) (hname : Path.Plain name) :
    fs.resolve (dir.join name) = match textFault? (dir.join name) with
      | some e => .error e
      | none => fs.tree.step root name := by
  obtain ⟨hwalk, -⟩ := FileTree.enter_eq_ok_iff.1 (opens_iff.1 h).2
  have hlast : fs.tree.walk root [name] = fs.tree.step root name := by
    rw [FileTree.walk_cons]
    cases fs.tree.step root name <;> rfl
  rw [resolve, segments_join_plain dir hname, start_join fs (relative_of_plain hname),
    FileTree.walk_append, hwalk]
  exact congrArg _ (funext fun _ => hlast)

theorem Opens.resolve_join (h : fs.Opens dir root) (hname : Path.Plain name) :
    fs.resolve (dir.join name) = .ok loc ↔ textFault? (dir.join name) = none ∧
      name.utf8ByteSize ≤ nameLimit ∧ loc = root ++ [name] ∧ fs.tree.lookup loc ≠ none := by
  have hroot := (FileTree.enter_eq_ok_iff.1 (opens_iff.1 h).2).2
  have hcounts := Path.counts_of_ne hname.ne_empty hname.ne_here
  rw [h.resolve_join_eq hname]
  cases textFault? (dir.join name) with
  | some e => simp
  | none =>
    rw [FileTree.step_eq_ok_iff, Location.descend_name hname.ne_empty hname.ne_here hname.ne_up]
    constructor
    · rintro ⟨-, rfl, hnode⟩
      obtain ⟨hlen, hthere⟩ := hnode hcounts hname.ne_up
      exact ⟨rfl, hlen, rfl, hthere⟩
    · rintro ⟨-, hlen, rfl, hthere⟩
      exact ⟨hroot, rfl, fun _ _ => ⟨hlen, hthere⟩⟩

theorem Settled.resolve_of_same (hdir : fs.Settled dir) (hw : after.working = fs.working)
    (hk : fs.tree.Keeps after.tree) (hname : Path.Plain name)
    (hsame : after.tree.lookup (fs.locate (dir.join name)) =
      fs.tree.lookup (fs.locate (dir.join name)))
    (h : after.resolve (dir.join name) = .ok loc) : fs.resolve (dir.join name) = .ok loc := by
  have hloc := resolve_eq_locate h
  rw [locate_of_working hw] at hloc
  rw [← hloc] at hsame
  rcases hdir with ⟨root, hroot⟩ | hdots
  · obtain ⟨htext, hlen, hat, hthere⟩ :=
      ((hroot.of_keeps hw hk).resolve_join hname).1 h
    exact (hroot.resolve_join hname).2 ⟨htext, hlen, hat, hsame ▸ hthere⟩
  · obtain ⟨htext, hwalk⟩ := resolve_eq_ok_iff.1 h
    rw [start_of_working hw] at hwalk
    have hup : ".." ∉ (dir.join name).segments := by
      rw [segments_join_plain dir hname, List.mem_append, List.mem_singleton, not_or]
      exact ⟨fun hm => hdots (dir.leading_prefix.subset hm), hname.ne_up.symm⟩
    exact resolve_eq_ok_iff.2 ⟨htext, FileTree.walk_of_same hup hwalk hsame.symm⟩

/-- Where directories are kept, what a name in the directory leads to changes only with the node at
its location. -/
theorem node?_join_of_same (hdir : fs.Settled dir) (hw : after.working = fs.working)
    (hk : fs.tree.Keeps after.tree) (hname : Path.Plain name)
    (hsame : after.tree.lookup (fs.locate dir ++ [name]) =
      fs.tree.lookup (fs.locate dir ++ [name])) :
    after.node? (dir.join name) = fs.node? (dir.join name) := by
  rw [← locate_join_plain fs dir hname] at hsame
  cases hres : fs.resolve (dir.join name) with
  | ok loc =>
    rw [← resolve_eq_locate hres] at hsame
    have hres' := resolve_of_keeps hres hw hk (hsame ▸ lookup_of_resolve hres)
    rw [node?_of_resolve hres, node?_of_resolve hres', hsame]
  | error e =>
    cases hres' : after.resolve (dir.join name) with
    | error e' => rw [node?, node?, hres, hres']
    | ok loc =>
      rw [hdir.resolve_of_same hw hk hname hsame hres'] at hres
      cases hres

/-! ## The same in two file systems -/

/-- The path leads to the same node, or fails to for the same reason. -/
structure AlikeAt (fs after : FileSystem) (p : Path) : Prop where
  resolve : after.resolve p = fs.resolve p
  lookup : ∀ loc, fs.resolve p = .ok loc → after.tree.lookup loc = fs.tree.lookup loc

theorem AlikeAt.node? (h : AlikeAt fs after p) : after.node? p = fs.node? p := by
  unfold FileSystem.node?
  rw [h.resolve]
  cases hres : fs.resolve p with
  | error e => rfl
  | ok loc => exact h.lookup loc hres

theorem AlikeAt.present (h : AlikeAt fs after p) : after.present p = fs.present p := by
  rw [FileSystem.present, FileSystem.present, h.node?]

theorem AlikeAt.read (h : AlikeAt fs after p) : after.read p = fs.read p := by
  unfold FileSystem.read
  rw [h.resolve]
  cases hres : fs.resolve p with
  | error e => rfl
  | ok loc => simp only [h.lookup loc hres]

theorem AlikeAt.tryText (h : AlikeAt fs after p) : after.tryText p = fs.tryText p := by
  rw [FileSystem.tryText, FileSystem.tryText, readText, readText, h.read]

theorem AlikeAt.find? (h : AlikeAt fs after (dir.join name)) :
    after.find? dir name = fs.find? dir name := by
  rw [FileSystem.find?, FileSystem.find?, h.present]

theorem firstText_append_congr {a b : List Path} (ha : ∀ q ∈ a, AlikeAt fs after q)
    (hb : after.firstText b = fs.firstText b) :
    after.firstText (a ++ b) = fs.firstText (a ++ b) := by
  induction a with
  | nil => exact hb
  | cons q rest ih =>
    obtain ⟨hq, hrest⟩ := List.forall_mem_cons.1 ha
    rw [List.cons_append, firstText, firstText, hq.tryText, ih hrest]

/-- Names in one directory lead to the same where their nodes are the same. -/
theorem Opens.alikeAt_join (h : fs.Opens dir root) (h' : after.Opens dir root)
    (hname : Path.Plain name)
    (hsame : after.tree.lookup (root ++ [name]) = fs.tree.lookup (root ++ [name])) :
    AlikeAt fs after (dir.join name) := by
  have hroot := (FileTree.enter_eq_ok_iff.1 (opens_iff.1 h).2).2
  have hroot' := (FileTree.enter_eq_ok_iff.1 (opens_iff.1 h').2).2
  have hstep : after.tree.step root name = fs.tree.step root name := by
    simp only [FileTree.step, hroot, hroot', hsame]
  refine ⟨?_, fun loc hres => ?_⟩
  · rw [h.resolve_join_eq hname, h'.resolve_join_eq hname, hstep]
  · obtain ⟨-, -, rfl, -⟩ := (h.resolve_join hname).1 hres
    exact hsame

/-- So they do where the file systems differ only at other names and below them. -/
theorem Opens.alikeAt_apart {names : List String} (h : fs.Opens dir root)
    (h' : after.Opens dir root) (hname : Path.Plain name) (hother : name ∉ names)
    (hapart : ∀ loc, (∀ other ∈ names, ¬(root ++ [other] <+: loc)) →
      after.tree.lookup loc = fs.tree.lookup loc) : AlikeAt fs after (dir.join name) := by
  apply h.alikeAt_join h' hname
  apply hapart
  intro other hmem hbelow
  rw [List.prefix_append_right_inj, List.cons_prefix_cons] at hbelow
  exact hother (hbelow.1 ▸ hmem)

end FileSystem
end KernelArchive
