import KernelArchive.Proofs.FileSystem.Destinations

/-!
# What operations leave alone

* `FileSystem.Grows line fs made`: some of the paths in `line` have become directories, and nothing
  else has happened. `makeLine` does no more (`grows_makeLine`).
* `FileSystem.Alters dests fs after`: files have changed under the paths in `dests`, directories
  have been created around them, and nothing else has happened. Such changes add up
  (`Alters.trans`).
* `FileSystem.Retains fs after`: every node is still there, of the same kind.
* `FileSystem.Lasting R`: `R` holds of whatever making room and writing do.
-/

namespace KernelArchive
namespace FileSystem
set_option autoImplicit false

variable {fs made after later : FileSystem} {line dests more : List Path} {p : Path}
  {loc : Location}

/-! ## New directories -/

/-- Some of the paths have become directories, and nothing else has happened. -/
structure Grows (line : List Path) (fs made : FileSystem) : Prop where
  working : made.working = fs.working
  frame : ∀ loc, made.tree.lookup loc = fs.tree.lookup loc ∨
    (fs.tree.lookup loc = none ∧ made.tree.lookup loc = some .directory ∧
      ∃ q ∈ line, made.resolve q = .ok loc)

theorem Grows.refl (line : List Path) (fs : FileSystem) : Grows line fs fs :=
  ⟨rfl, fun _ => .inl rfl⟩

theorem Grows.lookup (h : Grows line fs made) (hloc : fs.tree.lookup loc ≠ none) :
    made.tree.lookup loc = fs.tree.lookup loc := by
  rcases h.frame loc with heq | ⟨hnone, -, -⟩
  · exact heq
  · exact absurd hnone hloc

theorem Grows.keeps (h : Grows line fs made) : fs.tree.Keeps made.tree := by
  intro loc hloc
  rw [h.lookup (by rw [hloc]; simp), hloc]

theorem Grows.trans (h : Grows line fs made) (h' : Grows line made later) :
    Grows line fs later where
  working := h'.working.trans h.working
  frame loc := by
    rcases h'.frame loc with heq | ⟨hnone, hdir, q, hq, hres⟩
    · rw [heq]
      rcases h.frame loc with hsame | ⟨hfree, hdir, q, hq, hres⟩
      · exact .inl hsame
      · refine .inr ⟨hfree, hdir, q, hq, resolve_of_keeps hres h'.working h'.keeps ?_⟩
        rw [heq, hdir]
        simp
    · rcases h.frame loc with hsame | ⟨-, hsome, -⟩
      · exact .inr ⟨hsame ▸ hnone, hdir, q, hq, hres⟩
      · rw [hsome] at hnone
        cases hnone

theorem Grows.mono (h : Grows line fs made) (hsub : ∀ q ∈ line, q ∈ more) : Grows more fs made where
  working := h.working
  frame loc := by
    rcases h.frame loc with hsame | ⟨hfree, hdir, q, hq, hres⟩
    · exact .inl hsame
    · exact .inr ⟨hfree, hdir, q, hsub q hq, hres⟩

theorem grows_makeDirectory (h : fs.makeDirectory p = .ok made) : Grows [p] fs made := by
  obtain ⟨there, hfree, hw, hlook, hres⟩ := makeDirectory_spec h
  refine ⟨hw, fun loc => ?_⟩
  rw [hlook]
  by_cases hloc : loc = there
  · subst hloc
    rw [if_pos rfl]
    exact .inr ⟨hfree, rfl, p, List.mem_singleton_self p, hres⟩
  · rw [if_neg hloc]
    exact .inl rfl

/-- Whether or not a line of directories is completed, nothing but its paths comes to be. -/
theorem grows_makeLine (fs : FileSystem) (line : List Path) :
    Grows line fs (fs.makeLine line).1 := by
  induction line with
  | nil => exact Grows.refl [] fs
  | cons p above ih =>
    have habove := ih.mono fun q hq => List.mem_cons_of_mem p hq
    have hfirst : ∀ {a b : FileSystem}, a.makeDirectory p = .ok b → Grows (p :: above) a b := by
      intro a b h
      exact (grows_makeDirectory h).mono fun q hq => List.mem_singleton.1 hq ▸ List.mem_cons_self
    unfold makeLine
    split
    · next h => exact hfirst h
    · split
      · next h => rw [h] at habove; exact habove
      · next h =>
        rw [h] at habove
        split
        · next h' => exact habove.trans (hfirst h')
        · exact habove
    · exact Grows.refl _ fs

/-! ## Changed files -/

/-- Files have changed under the paths in `dests`, directories have been created around these, and
nothing else has happened. -/
structure Alters (dests : List Path) (fs after : FileSystem) : Prop where
  working : after.working = fs.working
  keeps : fs.tree.Keeps after.tree
  frame : ∀ loc, after.tree.lookup loc = fs.tree.lookup loc ∨
    (∃ dest ∈ dests, after.Names dest loc) ∨
    (fs.tree.lookup loc = none ∧ after.tree.lookup loc = some .directory ∧
      ∃ dest ∈ dests, ∃ q ∈ dest.around, after.resolve q = .ok loc)

theorem Alters.refl (dests : List Path) (fs : FileSystem) : Alters dests fs fs :=
  ⟨rfl, FileTree.Keeps.refl _, fun _ => .inl rfl⟩

theorem Alters.trans (h : Alters dests fs after) (h' : Alters dests after later) :
    Alters dests fs later where
  working := h'.working.trans h.working
  keeps := h.keeps.trans h'.keeps
  frame loc := by
    have hnames : ∀ dest, after.Names dest loc → later.Names dest loc :=
      fun dest hd => hd.of_keeps h'.working h'.keeps
    rcases h'.frame loc with heq | hchanged | ⟨hnone, hdir, dest, hd, q, hq, hres⟩
    · rcases h.frame loc with hsame | ⟨dest, hd, hname⟩ | ⟨hfree, hdir, dest, hd, q, hq, hres⟩
      · exact .inl (heq.trans hsame)
      · exact .inr (.inl ⟨dest, hd, hnames dest hname⟩)
      · have hdir' := heq.trans hdir
        have hres' := resolve_of_keeps hres h'.working h'.keeps (by rw [hdir']; simp)
        exact .inr (.inr ⟨hfree, hdir', dest, hd, q, hq, hres'⟩)
    · exact .inr (.inl hchanged)
    · rcases h.frame loc with hsame | ⟨dest, hd, hname⟩ | ⟨-, hsome, -⟩
      · exact .inr (.inr ⟨hsame ▸ hnone, hdir, dest, hd, q, hq, hres⟩)
      · exact .inr (.inl ⟨dest, hd, hnames dest hname⟩)
      · rw [hsome] at hnone
        cases hnone

theorem Alters.mono (h : Alters dests fs after) (hsub : ∀ dest ∈ dests, dest ∈ more) :
    Alters more fs after where
  working := h.working
  keeps := h.keeps
  frame loc := by
    rcases h.frame loc with hsame | ⟨dest, hd, hname⟩ | ⟨hfree, hdir, dest, hd, hq⟩
    · exact .inl hsame
    · exact .inr (.inl ⟨dest, hsub dest hd, hname⟩)
    · exact .inr (.inr ⟨hfree, hdir, dest, hsub dest hd, hq⟩)

/-- What is done around a path is done near it. -/
theorem Grows.alters (h : Grows p.around fs made) : Alters [p] fs made where
  working := h.working
  keeps := h.keeps
  frame loc := by
    rcases h.frame loc with hsame | ⟨hfree, hdir, q, hq, hres⟩
    · exact .inl hsame
    · exact .inr (.inr ⟨hfree, hdir, p, List.mem_singleton_self p, q, hq, hres⟩)

/-- A change of the one node that a path names, if it is no directory. -/
theorem alters_of_names (hw : after.working = fs.working)
    (h : ∀ loc, after.tree.lookup loc ≠ fs.tree.lookup loc →
      fs.Names p loc ∧ fs.tree.lookup loc ≠ some .directory) : Alters [p] fs after := by
  have hkeeps : fs.tree.Keeps after.tree := by
    intro loc hdir
    by_contra hne
    exact (h loc (by rw [hdir]; exact hne)).2 hdir
  refine ⟨hw, hkeeps, fun loc => ?_⟩
  by_cases hsame : after.tree.lookup loc = fs.tree.lookup loc
  · exact .inl hsame
  · exact .inr (.inl ⟨p, List.mem_singleton_self p, (h loc hsame).1.of_keeps hw hkeeps⟩)

theorem write_changes {bytes : ByteArray} (h : fs.write p bytes = .ok after) :
    after.working = fs.working ∧ ∀ loc, after.tree.lookup loc ≠ fs.tree.lookup loc →
      fs.Names p loc ∧ fs.tree.lookup loc ≠ some .directory := by
  obtain ⟨there, hnames, hne, hw, hlook⟩ := write_spec h
  refine ⟨hw, fun loc hchanged => ?_⟩
  have hloc : loc = there := by
    by_contra hloc
    exact hchanged (by rw [hlook, if_neg hloc])
  subst hloc
  exact ⟨hnames, hne⟩

theorem alters_write {bytes : ByteArray} (h : fs.write p bytes = .ok after) :
    Alters [p] fs after := alters_of_names (write_changes h).1 (write_changes h).2

/-! ## Nodes that stay -/

/-- Every node is still there, a file as a file and a directory as a directory. -/
structure Retains (fs after : FileSystem) : Prop where
  working : after.working = fs.working
  stays : fs.tree.Retains after.tree

theorem Retains.refl (fs : FileSystem) : Retains fs fs := ⟨rfl, FileTree.Retains.refl _⟩

theorem Retains.trans (h : Retains fs after) (h' : Retains after later) : Retains fs later :=
  ⟨h'.working.trans h.working, h.stays.trans h'.stays⟩

theorem Grows.retains (h : Grows line fs made) : Retains fs made :=
  ⟨h.working, fun _ n hn => ⟨n, (h.lookup (by rw [hn]; simp)).trans hn, rfl⟩⟩

theorem retains_write {bytes : ByteArray} (h : fs.write p bytes = .ok after) :
    Retains fs after := by
  obtain ⟨there, -, hne, hw, hlook⟩ := write_spec h
  refine ⟨hw, fun loc n hn => ?_⟩
  rw [hlook]
  by_cases hloc : loc = there
  · rw [if_pos hloc]
    refine ⟨.file bytes, rfl, ?_⟩
    cases n with
    | file before => rfl
    | directory => exact absurd (hloc ▸ hn) hne
  · rw [if_neg hloc]
    exact ⟨n, hn, rfl⟩

/-- A path still leads to a node of the same kind, if it starts where it did. -/
theorem node?_of_retains {n : Node} (hstart : after.start p = fs.start p)
    (h : fs.tree.Retains after.tree) (hn : fs.node? p = some n) :
    ∃ m, after.node? p = some m ∧ m.isFile = n.isFile := by
  unfold FileSystem.node? at hn ⊢
  cases hres : fs.resolve p with
  | error e =>
    rw [hres] at hn
    cases hn
  | ok loc =>
    rw [hres] at hn
    obtain ⟨m, hm, hkind⟩ := h loc n hn
    obtain ⟨htext, hwalk⟩ := resolve_eq_ok_iff.1 hres
    rw [← hstart] at hwalk
    have hwalk' := FileTree.walk_of_keeps h.keeps hwalk (by rw [hm]; simp)
    rw [resolve_eq_ok_iff.2 ⟨htext, hwalk'⟩]
    exact ⟨m, hm, hkind⟩

theorem present_of_retains (hstart : after.start p = fs.start p)
    (h : fs.tree.Retains after.tree) (hpresent : fs.present p = true) :
    after.present p = true := by
  obtain ⟨n, hn⟩ := Option.isSome_iff_exists.1 hpresent
  obtain ⟨m, hm, -⟩ := node?_of_retains hstart h hn
  rw [present, hm]
  rfl

theorem Retains.present (h : Retains fs after) (hpresent : fs.present p = true) :
    after.present p = true :=
  present_of_retains (start_of_working h.working p) h.stays hpresent

/-! ## What all operations respect -/

/-- A relation between file systems that holds of every change made by making room for a file and
by writing one, and of several such changes. -/
structure Lasting (R : FileSystem → FileSystem → Prop) : Prop where
  refl : ∀ fs, R fs fs
  trans : ∀ {fs after later}, R fs after → R after later → R fs later
  grows : ∀ {line fs made}, Grows line fs made → R fs made
  write : ∀ {p bytes fs after}, fs.write p bytes = .ok after → R fs after

theorem lasting_retains : Lasting Retains where
  refl := Retains.refl
  trans := Retains.trans
  grows := Grows.retains
  write := retains_write

theorem lasting_tree : Lasting fun fs after => fs.tree.Retains after.tree where
  refl fs := FileTree.Retains.refl fs.tree
  trans := FileTree.Retains.trans
  grows h := h.retains.stays
  write h := (retains_write h).stays

theorem lasting_working : Lasting fun fs after => after.working = fs.working where
  refl _ := rfl
  trans h h' := h'.trans h
  grows h := h.working
  write h := (retains_write h).working

end FileSystem
end KernelArchive
