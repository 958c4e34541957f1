import KernelArchive.Text.Segments

/-!
# Paths as texts

A path is its text; no operation here looks at a file system or tidies the text.

* `Path.segments`: the pieces between slashes. `Path.join`: a name put under a path.
* `Path.parent?`, `Path.lineage`: the directory around a path, and all of them up to the start.
  Empty segments and `.` are silent: they count for nothing, except for a `.` at the very start.
* `Path.fileName?`, `Path.extension?`, `Path.withExtension`: the last segment that is a name, and
  what follows its last dot.
-/

namespace KernelArchive
set_option autoImplicit false

/-- A path, given by its text. -/
structure Path where
  text : String
deriving DecidableEq

namespace Path

/-- The pieces of the text between slashes. -/
def segments (p : Path) : List String := Text.segments '/' p.text

/-- Does the path start at the root? -/
def isAbsolute (p : Path) : Bool := p.text.toList.head? == some '/'

/-- The name put under a path: a slash goes between them unless the path is empty or ends in one.
A name that starts at the root stands alone. -/
def join (dir : Path) (name : String) : Path :=
  if name.toList.head? = some '/' then ⟨name⟩
  else match dir.text.toList.getLast? with
    | none => ⟨name⟩
    | some '/' => ⟨dir.text ++ name⟩
    | some _ => ⟨dir.text ++ "/" ++ name⟩

/-! ## Parts -/

/-- What a path starts from. -/
inductive Anchor
  /-- The root, for a text that starts with a slash. -/
  | root
  /-- A `.` as first segment. -/
  | here
  /-- Nothing before the first segment. -/
  | bare
deriving DecidableEq

/-- A segment that counts for nothing in the middle of a path. -/
def isSilent (segment : String) : Bool := segment == "" || segment == "."

/-- The start of a path and the segments that follow it. -/
def parts (p : Path) : Anchor × List String :=
  match p.segments with
  | "" :: body@(_ :: _) => (.root, body)
  | "." :: body => (.here, body)
  | body => (.bare, body)

/-- The path with this start and these segments. -/
def ofParts : Anchor → List String → Path
  | .root, body => ⟨"/" ++ Text.joined '/' body⟩
  | .here, body => ⟨Text.joined '/' ("." :: body)⟩
  | .bare, body => ⟨Text.joined '/' body⟩

/-- The segments after the start, last one first, without the silent ones at the end. -/
def reversedBody (p : Path) : List String := p.parts.2.reverse.dropWhile isSilent

/-- The directory around a path: its last segment that is not silent goes, and so do the silent
ones beside it. A path that starts at the root and has no such segment has no parent, nor has the
empty path. -/
def parent? (p : Path) : Option Path :=
  match p.reversedBody with
  | _ :: above => some (ofParts p.parts.1 (above.dropWhile isSilent).reverse)
  | [] => match p.parts.1 with
    | .here => some ⟨""⟩
    | _ => none

/-- The paths that end with one of these segments (last one first), longest path first. -/
def lineageFrom (anchor : Anchor) : List String → List Path
  | [] => match anchor with
    | .root => [ofParts .root []]
    | .here => [ofParts .here []]
    | .bare => []
  | s :: above =>
    if isSilent s then lineageFrom anchor above
    else ofParts anchor (s :: above).reverse :: lineageFrom anchor above

/-- The path, its parent, the parent's parent and so on, as far as they are not empty. -/
def lineage (p : Path) : List Path :=
  if p.text = "" then []
  else match p.reversedBody with
    | _ :: above => p :: lineageFrom p.parts.1 above
    | [] => [p]

/-! ## File names -/

/-- The last segment that is not silent, if it is a name. -/
def fileName? (p : Path) : Option String :=
  match p.reversedBody with
  | s :: _ => if s = ".." then none else some s
  | [] => none

/-- A file name cut at its last dot. A name without a dot, or with only one at its start, has no
extension. -/
def stemAndExtension (name : String) : String × Option String :=
  let reversed := name.toList.reverse
  match reversed.dropWhile (· != '.') with
  | _ :: stem@(_ :: _) =>
    (String.ofList stem.reverse, some (String.ofList (reversed.takeWhile (· != '.')).reverse))
  | _ => (name, none)

/-- What follows the last dot of the file name. -/
def extension? (p : Path) : Option String := p.fileName?.bind (stemAndExtension · |>.2)

/-- Puts another extension in the place of the file name's own; a path without file name stays. -/
def replaceExtension (p : Path) (extension : String) : Path :=
  match p.fileName? with
  | none => p
  | some name =>
    let stem := (stemAndExtension name).1
    let above := p.reversedBody.tail
    ⟨(ofParts p.parts.1 (stem :: above).reverse).text ++ "." ++ extension⟩

/-- The path with another extension. As many characters as the old extension has are first taken
off the end of the text, and what is left gets the new one. So `k.cubin/` becomes `k.py`, but
`..cubin` is cut down to `..`, which has no file name and stays. -/
def withExtension (p : Path) (extension : String) : Path :=
  let kept := p.text.toList.length - (p.extension?.getD "").toList.length
  replaceExtension ⟨String.ofList (p.text.toList.take kept)⟩ extension

end Path
end KernelArchive
