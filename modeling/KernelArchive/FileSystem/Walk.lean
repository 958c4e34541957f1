import KernelArchive.FileSystem.Failure
import KernelArchive.FileSystem.Path
import KernelArchive.FileSystem.Tree

/-!
# Where a path leads

* `FileSystem`: a tree and the directory in which relative paths start.
* `FileSystem.resolve`: the location of the node that a path leads to, segment by segment. Every
  segment is taken in a directory, so a file on the way, or a slash after a file, is an error.
* `FileSystem.target`: what a path is about to create or replace: a name in a directory, or a
  directory that stands already.
* `FileSystem.node?`, `FileSystem.present`, `FileSystem.isFile`, `FileSystem.isDirectory`.

Left out are links of both kinds, permissions, names that are not UTF-8, the room on a device, and
other programs at work in the same tree. So an operation fails only for what stands where, or for
the text of its path, and a file that was opened for writing is written to its end: on a full disk
it would be left empty or cut short.
-/

namespace KernelArchive
set_option autoImplicit false

/-- The longest name of a node, in bytes. -/
def nameLimit : Nat := 255

/-- The longest path, in bytes. -/
def pathLimit : Nat := 4095

/-- A tree and the directory in which relative paths start. -/
structure FileSystem where
  tree : FileTree
  working : Location

namespace FileTree

/-- The location that one segment leads to from a directory. -/
def step (t : FileTree) (loc : Location) (segment : String) : Except IoFailure Location :=
  match t.lookup loc with
  | none => .error .notFound
  | some (.file _) => .error .notADirectory
  | some .directory =>
    if Path.isSilent segment then .ok loc
    else if segment = ".." then .ok loc.dropLast
    else if nameLimit < segment.utf8ByteSize then .error .nameTooLong
    else match t.lookup (loc ++ [segment]) with
      | none => .error .notFound
      | some _ => .ok (loc ++ [segment])

/-- The location that several segments lead to, one after the other. -/
def walk (t : FileTree) : Location → List String → Except IoFailure Location
  | loc, [] => .ok loc
  | loc, segment :: rest =>
    match t.step loc segment with
    | .error e => .error e
    | .ok next => t.walk next rest

@[simp] theorem walk_nil (t : FileTree) (loc : Location) : t.walk loc [] = .ok loc := rfl

theorem walk_cons (t : FileTree) (loc : Location) (s : String) (rest : List String) :
    t.walk loc (s :: rest) = (t.step loc s).bind (fun next => t.walk next rest) := by
  simp only [walk]
  cases t.step loc s <;> rfl

theorem walk_append (t : FileTree) (loc : Location) (a b : List String) :
    t.walk loc (a ++ b) = (t.walk loc a).bind (fun next => t.walk next b) := by
  induction a generalizing loc with
  | nil => rfl
  | cons s rest ih =>
    simp only [List.cons_append, walk_cons]
    cases t.step loc s with
    | error e => rfl
    | ok next => exact ih next

/-- The directory that several segments lead to. -/
def enter (t : FileTree) (loc : Location) (segments : List String) : Except IoFailure Location :=
  match t.walk loc segments with
  | .error e => .error e
  | .ok there =>
    match t.lookup there with
    | none => .error .notFound
    | some (.file _) => .error .notADirectory
    | some .directory => .ok there

/-- Only directories are entered. -/
theorem lookup_of_enter {t : FileTree} {loc there : Location} {segments : List String}
    (h : t.enter loc segments = .ok there) : t.lookup there = some .directory := by
  unfold enter at h
  split at h
  · cases h
  · next loc' hw =>
    split at h
    · cases h
    · cases h
    · next hdir =>
      cases h
      exact hdir

end FileTree

namespace FileSystem

/-- What is wrong with the text of a path, whatever exists. -/
def textFault? (p : Path) : Option IoFailure :=
  if p.text.toList.contains '\x00' then some .nulInPath
  else if p.text = "" then some .notFound
  else if pathLimit < p.text.utf8ByteSize then some .nameTooLong
  else none

/-- Where a path starts. -/
def start (fs : FileSystem) (p : Path) : Location := if p.isAbsolute then [] else fs.working

/-- The location of the node that a path leads to. -/
def resolve (fs : FileSystem) (p : Path) : Except IoFailure Location :=
  match textFault? p with
  | some e => .error e
  | none => fs.tree.walk (fs.start p) p.segments

/-- What a path is about to create or replace. -/
inductive Target
  /-- The path ends at the root, in `.` or in `..`: a directory that stands already. -/
  | standing
  /-- A name in a directory, with or without slashes after it. -/
  | child (parent : Location) (name : String) (slashed : Bool)

/-- What a path is about to create or replace; the directory around it must exist. -/
def target (fs : FileSystem) (p : Path) : Except IoFailure Target :=
  match textFault? p with
  | some e => .error e
  | none =>
    match p.segments.reverse.dropWhile (· == "") with
    | [] => .ok .standing
    | last :: above =>
      match fs.tree.enter (fs.start p) above.reverse with
      | .error e => .error e
      | .ok parent =>
        if last = "." ∨ last = ".." then .ok .standing
        else .ok (.child parent last (p.segments.getLast? == some ""))

/-- What a path creates lies in a directory. -/
theorem lookup_of_target {fs : FileSystem} {p : Path} {parent : Location} {name : String}
    {slashed : Bool} (h : fs.target p = .ok (.child parent name slashed)) :
    fs.tree.lookup parent = some .directory := by
  unfold target at h
  split at h
  · cases h
  · split at h
    · cases h
    · split at h
      · cases h
      · next hdir =>
        split at h
        · cases h
        · cases h
          exact FileTree.lookup_of_enter hdir

/-- The node that a path leads to. -/
def node? (fs : FileSystem) (p : Path) : Option Node :=
  match fs.resolve p with
  | .error _ => none
  | .ok loc => fs.tree.lookup loc

/-- Does the path lead to a node? -/
def present (fs : FileSystem) (p : Path) : Bool := (fs.node? p).isSome

/-- Does the path lead to a file? -/
def isFile (fs : FileSystem) (p : Path) : Bool := (fs.node? p).any Node.isFile

/-- Does the path lead to a directory? -/
def isDirectory (fs : FileSystem) (p : Path) : Bool := (fs.node? p).any (!·.isFile)

end FileSystem
end KernelArchive
