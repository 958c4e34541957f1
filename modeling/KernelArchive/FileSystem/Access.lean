import KernelArchive.FileSystem.Walk

/-!
# Reading, writing and creating

* `FileSystem.read`, `FileSystem.readText`: the content of a file.
* `FileSystem.write`: a file with the given bytes, created or replaced.
* `FileSystem.makeDirectory`, `FileSystem.makeDirectories`: a directory, or a whole line of them.
* `FileSystem.remove`: a node and all below it. `FileSystem.listing`: all below the working
  directory.

An operation that fails leaves the file system as it was; only `makeDirectories` can fail after it
has created some directories, and so it returns the file system in both cases. A write that fails
midway, as on a full disk, is among what `FileSystem` leaves out.
-/

namespace KernelArchive
namespace FileSystem
set_option autoImplicit false

/-! ## Reading -/

/-- The bytes of the file that a path leads to. -/
def read (fs : FileSystem) (p : Path) : Except IoFailure ByteArray :=
  match fs.resolve p with
  | .error e => .error e
  | .ok loc =>
    match fs.tree.lookup loc with
    | none => .error .notFound
    | some .directory => .error .isADirectory
    | some (.file bytes) => .ok bytes

/-- The text of the file that a path leads to. -/
def readText (fs : FileSystem) (p : Path) : Except IoFailure String :=
  match fs.read p with
  | .error e => .error e
  | .ok bytes =>
    match String.fromUTF8? bytes with
    | none => .error .notUtf8
    | some text => .ok text

/-! ## Writing -/

/-- The file system with a node placed under a name in a directory. -/
def put (fs : FileSystem) (loc : Location) (name : String) (node : Node) : FileSystem :=
  { fs with tree := fs.tree.put loc name node }

/-- Writes a file, creating it or replacing its content. -/
def write (fs : FileSystem) (p : Path) (bytes : ByteArray) : Except IoFailure FileSystem :=
  match fs.target p with
  | .error e => .error e
  | .ok .standing => .error .isADirectory
  | .ok (.child parent name slashed) =>
    if slashed then .error .isADirectory
    else if nameLimit < name.utf8ByteSize then .error .nameTooLong
    else match fs.tree.lookup (parent ++ [name]) with
      | some .directory => .error .isADirectory
      | _ => .ok (fs.put parent name (.file bytes))

/-- Creates one directory in a directory that exists. -/
def makeDirectory (fs : FileSystem) (p : Path) : Except IoFailure FileSystem :=
  match fs.target p with
  | .error e => .error e
  | .ok .standing => .error .alreadyExists
  | .ok (.child parent name _) =>
    if nameLimit < name.utf8ByteSize then .error .nameTooLong
    else match fs.tree.lookup (parent ++ [name]) with
      | some _ => .error .alreadyExists
      | none => .ok (fs.put parent name .directory)

/-! ### What is written where -/

/-- A file is written under a name in a directory, and all else stays. -/
theorem write_eq_ok_iff {fs after : FileSystem} {p : Path} {bytes : ByteArray} :
    fs.write p bytes = .ok after ↔ ∃ parent name,
      fs.target p = .ok (.child parent name false) ∧ name.utf8ByteSize ≤ nameLimit ∧
      fs.tree.lookup (parent ++ [name]) ≠ some .directory ∧
      after = fs.put parent name (.file bytes) := by
  unfold write
  split
  · next h => simp [h]
  · next h => simp [h]
  · next parent name slashed h =>
    cases slashed with
    | true => simp [h]
    | false =>
      simp only [h, Bool.false_eq_true, if_false, Except.ok.injEq, Target.child.injEq]
      by_cases hlong : nameLimit < name.utf8ByteSize
      · simp only [hlong, if_true]
        constructor
        · intro h'; cases h'
        · rintro ⟨_, _, ⟨rfl, rfl, -⟩, hle, -⟩
          omega
      · simp only [hlong, if_false]
        split
        · next hdir =>
          constructor
          · intro h'; cases h'
          · rintro ⟨_, _, ⟨rfl, rfl, -⟩, -, hne, -⟩
            exact absurd hdir hne
        · next hne =>
          constructor
          · intro h'
            cases h'
            exact ⟨parent, name, ⟨rfl, rfl, trivial⟩, by omega, hne, rfl⟩
          · rintro ⟨_, _, ⟨rfl, rfl, -⟩, -, -, rfl⟩
            rfl

theorem lookup_put_file {fs : FileSystem} {p : Path} {parent : Location} {name : String}
    {slashed : Bool} {bytes : ByteArray} (ht : fs.target p = .ok (.child parent name slashed))
    (hne : fs.tree.lookup (parent ++ [name]) ≠ some .directory) (loc : Location) :
    (fs.put parent name (.file bytes)).tree.lookup loc =
      if loc = parent ++ [name] then some (.file bytes) else fs.tree.lookup loc :=
  FileTree.lookup_put (FileTree.admits_iff.2 ⟨lookup_of_target ht, .inl hne⟩) loc

/-- A directory is created under a free name in a directory, and all else stays. -/
theorem makeDirectory_eq_ok_iff {fs after : FileSystem} {p : Path} :
    fs.makeDirectory p = .ok after ↔ ∃ parent name slashed,
      fs.target p = .ok (.child parent name slashed) ∧ name.utf8ByteSize ≤ nameLimit ∧
      fs.tree.lookup (parent ++ [name]) = none ∧ after = fs.put parent name .directory := by
  unfold makeDirectory
  split
  · next h => simp [h]
  · next h => simp [h]
  · next parent name slashed h =>
    simp only [h, Except.ok.injEq, Target.child.injEq]
    by_cases hlong : nameLimit < name.utf8ByteSize
    · simp only [hlong, if_true]
      constructor
      · intro h'; cases h'
      · rintro ⟨_, _, _, ⟨rfl, rfl, -⟩, hle, -⟩
        omega
    · simp only [hlong, if_false]
      split
      · next hsome =>
        constructor
        · intro h'; cases h'
        · rintro ⟨_, _, _, ⟨rfl, rfl, -⟩, -, hnone, -⟩
          rw [hnone] at hsome
          cases hsome
      · next hnone =>
        constructor
        · intro h'
          cases h'
          exact ⟨parent, name, slashed, ⟨rfl, rfl, rfl⟩, by omega, hnone, rfl⟩
        · rintro ⟨_, _, _, ⟨rfl, rfl, -⟩, -, -, rfl⟩
          rfl

theorem lookup_put_directory {fs : FileSystem} {p : Path} {parent : Location} {name : String}
    {slashed : Bool} (ht : fs.target p = .ok (.child parent name slashed)) (loc : Location) :
    (fs.put parent name .directory).tree.lookup loc =
      if loc = parent ++ [name] then some .directory else fs.tree.lookup loc :=
  FileTree.lookup_put (FileTree.admits_iff.2 ⟨lookup_of_target ht, .inr rfl⟩) loc

/-! ### Lines of directories -/

/-- Creates the first of these directories; where something on the way to it is missing, the
others come first. Each is the parent of the one before it. -/
def makeLine (fs : FileSystem) : List Path → FileSystem × Except IoFailure Unit
  | [] => (fs, .ok ())
  | p :: above =>
    match fs.makeDirectory p with
    | .ok made => (made, .ok ())
    | .error .notFound =>
      match fs.makeLine above with
      | (made, .error e) => (made, .error e)
      | (made, .ok ()) =>
        match made.makeDirectory p with
        | .ok all => (all, .ok ())
        | .error e => (made, if made.isDirectory p then .ok () else .error e)
    | .error e => (fs, if fs.isDirectory p then .ok () else .error e)

/-- Makes sure that a path is a directory, creating it and its parents where they are missing. -/
def makeDirectories (fs : FileSystem) (p : Path) : FileSystem × Except IoFailure Unit :=
  fs.makeLine p.lineage

/-! ## Housekeeping -/

/-- Takes away the node that a path leads to and all below it, if there is one. -/
def remove (fs : FileSystem) (p : Path) : FileSystem :=
  match fs.resolve p with
  | .error _ => fs
  | .ok loc => { fs with tree := fs.tree.remove loc }

/-- All nodes below the working directory by their relative paths, in increasing order of these. -/
def listing (fs : FileSystem) : List (String × Node) :=
  (OrderedMap.ofList (fs.tree.nodes.entries.filterMap fun (loc, node) =>
    if fs.working.isPrefixOf loc && loc != fs.working then
      some (Text.joined '/' (loc.drop fs.working.length), node)
    else none)).entries

end FileSystem
end KernelArchive
