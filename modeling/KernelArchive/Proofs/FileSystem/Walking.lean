import KernelArchive.FileSystem.Access
import KernelArchive.Proofs.FileSystem.Segments

/-!
# Walks through a tree

* `Location.follow`: the location that segments name, whether or not there is a node. Walks that
  succeed end there (`FileTree.walk_eq_follow`).
* `FileTree.step_eq_ok_iff`, `enter_eq_ok_iff`, `enter_append`: when a way can be taken.
* `FileTree.walk_of_same`: a walk that never goes up, told of the node that it ends at.
* `FileTree.Keeps`: directories stay directories. Walks survive it (`walk_of_keeps`).
  `FileTree.Retains`: all nodes stay, each of its kind.
-/

namespace KernelArchive
set_option autoImplicit false

/-! ## Locations by name -/

namespace Location

/-- The location that one segment names from a directory. -/
def descend (loc : Location) (segment : String) : Location :=
  if Path.isSilent segment then loc
  else if segment = ".." then loc.dropLast
  else loc ++ [segment]

/-- The location that segments name one after the other. -/
def follow (loc : Location) (segments : List String) : Location := segments.foldl descend loc

theorem follow_nil (loc : Location) : follow loc [] = loc := rfl

theorem follow_cons (loc : Location) (s : String) (rest : List String) :
    follow loc (s :: rest) = follow (descend loc s) rest := rfl

theorem follow_append (loc : Location) (a b : List String) :
    follow loc (a ++ b) = follow (follow loc a) b := List.foldl_append

theorem follow_silent {segments : List String} (h : ∀ s ∈ segments, Path.isSilent s = true)
    (loc : Location) : follow loc segments = loc := by
  induction segments with
  | nil => rfl
  | cons s rest ih =>
    obtain ⟨hs, hrest⟩ := List.forall_mem_cons.1 h
    rw [follow_cons, descend, if_pos hs]
    exact ih hrest

theorem prefix_descend (loc : Location) {s : String} (h : s ≠ "..") : loc <+: descend loc s := by
  unfold descend
  rw [if_neg h]
  split
  · exact List.prefix_rfl
  · exact List.prefix_append loc [s]

theorem length_descend_le (loc : Location) (s : String) :
    (descend loc s).length ≤ loc.length + 1 := by
  unfold descend
  split
  · omega
  · split
    · simp only [List.length_dropLast]
      omega
    · simp

theorem descend_name {name : String} (hne : name ≠ "") (hdot : name ≠ ".") (hup : name ≠ "..")
    (loc : Location) : descend loc name = loc ++ [name] := by
  rw [descend, Path.counts_of_ne hne hdot, if_neg Bool.false_ne_true, if_neg hup]

theorem not_concat_prefix (loc : Location) (name : String) : ¬(loc ++ [name] <+: loc) := by
  intro h
  have hle := h.length_le
  rw [List.length_append, List.length_singleton] at hle
  omega

/-- Segments that never go up lead further down. -/
theorem prefix_follow {segments : List String} (h : ".." ∉ segments) (loc : Location) :
    loc <+: follow loc segments := by
  induction segments generalizing loc with
  | nil => exact List.prefix_rfl
  | cons s rest ih =>
    have hs : s ≠ ".." := fun e => h (e ▸ List.mem_cons_self)
    have hrest : ".." ∉ rest := fun hm => h (List.mem_cons_of_mem s hm)
    exact (prefix_descend loc hs).trans (ih hrest (descend loc s))

/-- With a segment that counts they lead to another place. -/
theorem follow_ne {segments : List String} {s : String} (h : ".." ∉ segments)
    (hs : s ∈ segments) (hname : Path.isSilent s = false) (loc : Location) :
    loc ≠ follow loc segments := by
  have hlonger : loc.length < (follow loc segments).length := by
    induction segments generalizing loc with
    | nil => cases hs
    | cons first rest ih =>
      have hfirst : first ≠ ".." := fun e => h (e ▸ List.mem_cons_self)
      have hrest : ".." ∉ rest := fun hm => h (List.mem_cons_of_mem first hm)
      rw [follow_cons]
      rcases List.mem_cons.1 hs with rfl | hs
      · have hdown : descend loc s = loc ++ [s] := by
          rw [descend, hname, if_neg Bool.false_ne_true, if_neg hfirst]
        have hlen := (prefix_follow hrest (descend loc s)).length_le
        rw [hdown, List.length_append, List.length_singleton] at hlen
        rw [hdown]
        omega
      · have hlen := (prefix_descend loc hfirst).length_le
        have hmore := ih hrest hs (descend loc first)
        omega
  intro heq
  rw [← heq] at hlonger
  exact Nat.lt_irrefl _ hlonger

end Location

namespace FileTree

variable {t u : FileTree} {loc there : Location} {a b segments : List String}

/-! ## Walks that succeed -/

theorem lookup_dropLast (h : t.lookup loc = some .directory) :
    t.lookup loc.dropLast = some .directory := by
  rcases List.eq_nil_or_concat loc with rfl | ⟨above, name, rfl⟩
  · exact h
  · rw [List.concat_eq_append] at h ⊢
    rw [List.dropLast_concat]
    exact t.lookup_parent (by rw [h]; simp)

/-- A step is taken in a directory, and a name that goes down must be there. -/
theorem step_eq_ok_iff {s : String} {next : Location} :
    t.step loc s = .ok next ↔ t.lookup loc = some .directory ∧ next = Location.descend loc s ∧
      (Path.isSilent s = false → s ≠ ".." →
        s.utf8ByteSize ≤ nameLimit ∧ t.lookup (loc ++ [s]) ≠ none) := by
  unfold step Location.descend
  cases hloc : t.lookup loc with
  | none => simp
  | some n =>
    cases n with
    | file bytes => simp
    | directory =>
      simp only [true_and]
      by_cases hsilent : Path.isSilent s = true
      · rw [if_pos hsilent, if_pos hsilent, hsilent, Except.ok.injEq, eq_comm]
        simp
      · rw [if_neg hsilent, if_neg hsilent]
        by_cases hup : s = ".."
        · rw [if_pos hup, if_pos hup, Except.ok.injEq, eq_comm]
          simp [hup]
        · rw [if_neg hup, if_neg hup]
          by_cases hlong : nameLimit < s.utf8ByteSize
          · have hle : ¬s.utf8ByteSize ≤ nameLimit := by omega
            simp [hlong, hsilent, hup, hle]
          · have hle : s.utf8ByteSize ≤ nameLimit := by omega
            cases t.lookup (loc ++ [s]) <;> simp [hlong, hsilent, hup, hle, eq_comm]

theorem step_silent {s : String} (hs : Path.isSilent s = true)
    (hdir : t.lookup loc = some .directory) : t.step loc s = .ok loc := by
  refine step_eq_ok_iff.2 ⟨hdir, ?_, fun h => absurd hs (Bool.eq_false_iff.1 h)⟩
  rw [Location.descend, if_pos hs]

theorem step_name {name : String} (hdir : t.lookup loc = some .directory) (hne : name ≠ "")
    (hdot : name ≠ ".") (hup : name ≠ "..") (hlen : name.utf8ByteSize ≤ nameLimit)
    (hnode : t.lookup (loc ++ [name]) ≠ none) : t.step loc name = .ok (loc ++ [name]) :=
  step_eq_ok_iff.2
    ⟨hdir, (Location.descend_name hne hdot hup loc).symm, fun _ _ => ⟨hlen, hnode⟩⟩

theorem lookup_of_step {s : String} {next : Location} (h : t.step loc s = .ok next) :
    t.lookup next ≠ none := by
  obtain ⟨hdir, rfl, hname⟩ := step_eq_ok_iff.1 h
  unfold Location.descend
  split
  · rw [hdir]
    simp
  · next hsilent =>
    split
    · rw [lookup_dropLast hdir]
      simp
    · next hup => exact (hname (Bool.eq_false_iff.2 hsilent) hup).2

theorem walk_cons_eq_ok {s : String} {rest : List String} :
    t.walk loc (s :: rest) = .ok there ↔
      ∃ next, t.step loc s = .ok next ∧ t.walk next rest = .ok there := by
  rw [walk_cons]
  cases t.step loc s <;> simp [Except.bind]

theorem walk_silent (h : ∀ s ∈ segments, Path.isSilent s = true)
    (hdir : t.lookup loc = some .directory) : t.walk loc segments = .ok loc := by
  induction segments with
  | nil => rfl
  | cons s rest ih =>
    exact walk_cons_eq_ok.2 ⟨loc, step_silent (h s List.mem_cons_self) hdir,
      ih fun s' hs' => h s' (List.mem_cons_of_mem s hs')⟩

theorem walk_append_eq_ok :
    t.walk loc (a ++ b) = .ok there ↔
      ∃ mid, t.walk loc a = .ok mid ∧ t.walk mid b = .ok there := by
  rw [walk_append]
  cases t.walk loc a <;> simp [Except.bind]

theorem walk_eq_follow (h : t.walk loc segments = .ok there) :
    there = Location.follow loc segments := by
  induction segments generalizing loc with
  | nil => exact (Except.ok.inj h).symm
  | cons s rest ih =>
    obtain ⟨next, hstep, hrest⟩ := walk_cons_eq_ok.1 h
    rw [Location.follow_cons, ← (step_eq_ok_iff.1 hstep).2.1]
    exact ih hrest

theorem lookup_of_walk (h : t.walk loc segments = .ok there) (hne : segments ≠ []) :
    t.lookup loc = some .directory ∧ t.lookup there ≠ none := by
  obtain ⟨s, rest, rfl⟩ := List.exists_cons_of_ne_nil hne
  obtain ⟨next, hstep, hrest⟩ := walk_cons_eq_ok.1 h
  refine ⟨(step_eq_ok_iff.1 hstep).1, ?_⟩
  have hnext := lookup_of_step hstep
  clear h hstep hne
  induction rest generalizing next with
  | nil =>
    rw [walk_nil] at hrest
    exact Except.ok.inj hrest ▸ hnext
  | cons s' rest ih =>
    obtain ⟨next', hstep', hrest'⟩ := walk_cons_eq_ok.1 hrest
    exact ih next' hrest' (lookup_of_step hstep')

theorem enter_eq_ok_iff :
    t.enter loc segments = .ok there ↔
      t.walk loc segments = .ok there ∧ t.lookup there = some .directory := by
  unfold enter
  cases hw : t.walk loc segments with
  | error e => simp
  | ok l =>
    simp only [Except.ok.injEq]
    constructor
    · intro h
      split at h
      · cases h
      · cases h
      · next hdir =>
        cases h
        exact ⟨rfl, hdir⟩
    · rintro ⟨rfl, hdir⟩
      rw [hdir]

theorem enter_nil : t.enter loc [] = .ok there ↔ there = loc ∧ t.lookup loc = some .directory := by
  rw [enter_eq_ok_iff, walk_nil, Except.ok.injEq]
  constructor
  · rintro ⟨rfl, h⟩
    exact ⟨rfl, h⟩
  · rintro ⟨rfl, h⟩
    exact ⟨rfl, h⟩

theorem enter_append :
    t.enter loc (a ++ b) = .ok there ↔
      ∃ mid, t.enter loc a = .ok mid ∧ t.enter mid b = .ok there := by
  simp only [enter_eq_ok_iff, walk_append_eq_ok]
  constructor
  · rintro ⟨⟨mid, ha, hb⟩, hdir⟩
    refine ⟨mid, ⟨ha, ?_⟩, hb, hdir⟩
    by_cases hne : b = []
    · subst hne
      exact Except.ok.inj hb ▸ hdir
    · exact (lookup_of_walk hb hne).1
  · rintro ⟨mid, ⟨ha, -⟩, hb, hdir⟩
    exact ⟨⟨mid, ha, hb⟩, hdir⟩

theorem enter_silent {s : String} (hs : Path.isSilent s = true) :
    t.enter loc [s] = .ok there ↔ there = loc ∧ t.lookup loc = some .directory := by
  constructor
  · intro h
    obtain ⟨next, hstep, -⟩ := walk_cons_eq_ok.1 (enter_eq_ok_iff.1 h).1
    refine ⟨?_, (step_eq_ok_iff.1 hstep).1⟩
    rw [walk_eq_follow (enter_eq_ok_iff.1 h).1, Location.follow_cons, Location.descend, if_pos hs,
      Location.follow_nil]
  · rintro ⟨rfl, hdir⟩
    refine enter_eq_ok_iff.2 ⟨walk_silent ?_ hdir, hdir⟩
    intro s' hs'
    rw [List.mem_singleton.1 hs', hs]

theorem enter_eq_follow (h : t.enter loc segments = .ok there) :
    there = Location.follow loc segments := walk_eq_follow (enter_eq_ok_iff.1 h).1

/-! ## Trees that agree on a node -/

/-- Above a node there are directories. -/
theorem lookup_above {above : Location} (h : t.lookup loc ≠ none) (habove : above <+: loc)
    (hne : above ≠ loc) : t.lookup above = some .directory := by
  obtain ⟨more, rfl⟩ := habove
  induction more generalizing above with
  | nil => simp at hne
  | cons name rest ih =>
    rw [List.append_cons] at h
    have hbelow : t.lookup (above ++ [name]) ≠ none := by
      by_cases hrest : rest = []
      · rwa [hrest, List.append_nil] at h
      · rw [ih h (by simpa using hrest)]
        simp
    exact t.lookup_parent hbelow

/-- A walk that never goes up leads to the same place in every tree with the same node there. -/
theorem walk_of_same (hup : ".." ∉ segments) (h : u.walk loc segments = .ok there)
    (hsame : t.lookup there = u.lookup there) : t.walk loc segments = .ok there := by
  induction segments generalizing loc with
  | nil => exact h
  | cons s rest ih =>
    have hs : s ≠ ".." := fun e => hup (e ▸ List.mem_cons_self)
    have hrest : ".." ∉ rest := fun hm => hup (List.mem_cons_of_mem s hm)
    have hthere : t.lookup there ≠ none := by
      rw [hsame]
      exact (lookup_of_walk h (List.cons_ne_nil s rest)).2
    obtain ⟨next, hstep, hwalk⟩ := walk_cons_eq_ok.1 h
    obtain ⟨hdir, hnext, hname⟩ := step_eq_ok_iff.1 hstep
    -- whatever is passed lies above the end, or is the end
    have hend : next <+: there := walk_eq_follow hwalk ▸ Location.prefix_follow hrest next
    have hstart : loc <+: next := hnext ▸ Location.prefix_descend loc hs
    have hdir' : t.lookup loc = some .directory := by
      by_cases hloc : loc = there
      · rw [hloc, hsame, ← hloc, hdir]
      · exact lookup_above hthere (hstart.trans hend) hloc
    refine walk_cons_eq_ok.2 ⟨next, step_eq_ok_iff.2 ⟨hdir', hnext, fun hsilent hup' => ?_⟩,
      ih hrest hwalk⟩
    refine ⟨(hname hsilent hup').1, ?_⟩
    rw [Location.descend, if_neg (Bool.eq_false_iff.1 hsilent), if_neg hup'] at hnext
    rw [← hnext]
    by_cases hlast : next = there
    · rwa [hlast]
    · rw [lookup_above hthere hend hlast]
      simp

/-! ## Trees that keep their directories -/

/-- The directories of one tree are directories of another. -/
def Keeps (t u : FileTree) : Prop :=
  ∀ loc, t.lookup loc = some .directory → u.lookup loc = some .directory

theorem Keeps.refl (t : FileTree) : t.Keeps t := fun _ h => h

theorem Keeps.trans {v : FileTree} (h : t.Keeps u) (h' : u.Keeps v) : t.Keeps v :=
  fun loc hloc => h' loc (h loc hloc)

/-- A walk is still possible where directories are kept, if what it leads to is there. -/
theorem walk_of_keeps (hk : t.Keeps u) (h : t.walk loc segments = .ok there)
    (hthere : u.lookup there ≠ none) : u.walk loc segments = .ok there := by
  induction segments generalizing loc with
  | nil => exact h
  | cons s rest ih =>
    obtain ⟨next, hstep, hrest⟩ := walk_cons_eq_ok.1 h
    refine walk_cons_eq_ok.2 ⟨next, ?_, ih hrest⟩
    obtain ⟨hdir, hnext, hname⟩ := step_eq_ok_iff.1 hstep
    -- the node that the step leads to: a directory, unless it is the last step
    have hlook : u.lookup next ≠ none := by
      by_cases hne : rest = []
      · subst hne
        exact Except.ok.inj hrest ▸ hthere
      · rw [hk next (lookup_of_walk hrest hne).1]
        simp
    refine step_eq_ok_iff.2 ⟨hk loc hdir, hnext, fun hsilent hup => ?_⟩
    refine ⟨(hname hsilent hup).1, ?_⟩
    rw [hnext, Location.descend, if_neg (Bool.eq_false_iff.1 hsilent), if_neg hup] at hlook
    exact hlook

theorem enter_of_keeps (hk : t.Keeps u) (h : t.enter loc segments = .ok there) :
    u.enter loc segments = .ok there := by
  obtain ⟨hwalk, hdir⟩ := enter_eq_ok_iff.1 h
  have hdir' := hk there hdir
  exact enter_eq_ok_iff.2 ⟨walk_of_keeps hk hwalk (by rw [hdir']; simp), hdir'⟩

/-! ## Trees that keep all their nodes -/

/-- The nodes of one tree are nodes of another, files as files and directories as directories. -/
def Retains (t u : FileTree) : Prop :=
  ∀ loc n, t.lookup loc = some n → ∃ m, u.lookup loc = some m ∧ m.isFile = n.isFile

theorem Retains.refl (t : FileTree) : t.Retains t := fun _ n h => ⟨n, h, rfl⟩

theorem Retains.trans {v : FileTree} (h : t.Retains u) (h' : u.Retains v) : t.Retains v := by
  intro loc n hn
  obtain ⟨m, hm, hkind⟩ := h loc n hn
  obtain ⟨k, hk, hkind'⟩ := h' loc m hm
  exact ⟨k, hk, hkind'.trans hkind⟩

theorem Retains.keeps (h : t.Retains u) : t.Keeps u := by
  intro loc hloc
  obtain ⟨m, hm, hkind⟩ := h loc .directory hloc
  rw [hm, Node.isFile_eq_false_iff.1 hkind]

end FileTree
end KernelArchive
