import KernelArchive.Text.Quoted

/-!
# Files to keep

* `Content`: a text, bytes, or an executable of which only an exporter knows the form on disk.
* `OpenMode`: how the file is opened for writing.
* `Entry`: one file to keep, with `Entry.ofText`, `Entry.ofBytes` and `Entry.ofExecutable`.
* `Entry.describe`: the text shown for an entry.
-/

namespace KernelArchive
set_option autoImplicit false

/-- How a file is opened for writing. -/
inductive OpenMode
  | text
  | binary
deriving DecidableEq

namespace OpenMode

/-- The mode as file operations spell it. -/
def symbol : OpenMode → String
  | text => "w"
  | binary => "wb"

/-- The mode as it is written in data. -/
def name : OpenMode → String
  | text => "text"
  | binary => "binary"

/-- The text shown for a mode. -/
def describe : OpenMode → String
  | text => "Text"
  | binary => "Binary"

end OpenMode

/-- What a file will hold. -/
inductive Content (ε : Type)
  | text (text : String)
  | binary (bytes : ByteArray)
  | executable (executable : ε)

namespace Content

variable {ε : Type}

/-- The bytes of the file, unless only an exporter can tell them. -/
def bytes? : Content ε → Option ByteArray
  | text s => some s.toUTF8
  | binary b => some b
  | executable _ => none

/-- Is the content an executable? -/
def isExecutable : Content ε → Bool
  | executable _ => true
  | _ => false

/-- The text shown for a content. -/
def describe (describeExecutable : ε → String) : Content ε → String
  | text s => "Text(" ++ Text.quoted s ++ ")"
  | binary b => "Binary(" ++ Text.listed (b.toList.map fun n => toString n.toNat) ++ ")"
  | executable e => "Executable(" ++ describeExecutable e ++ ")"

end Content

/-- One file to keep of a compiled kernel. -/
structure Entry (ε : Type) where
  /-- Its path below the directory of the kernel. -/
  path : String
  content : Content ε
  mode : OpenMode
  /-- Is the kernel lost without this file? -/
  required : Bool
  /-- What the file is for. -/
  description : Option String

namespace Entry

variable {ε : Type}

/-- A required text file. -/
def ofText (path text : String) : Entry ε := ⟨path, .text text, .text, true, none⟩

/-- A required binary file. -/
def ofBytes (path : String) (bytes : ByteArray) : Entry ε :=
  ⟨path, .binary bytes, .binary, true, none⟩

/-- A required file that an exporter will write. -/
def ofExecutable (path : String) (executable : ε) : Entry ε :=
  ⟨path, .executable executable, .binary, true, none⟩

/-- The entry, required or not. -/
def withRequired (e : Entry ε) (required : Bool) : Entry ε := { e with required := required }

/-- The entry, not required. -/
def optional (e : Entry ε) : Entry ε := e.withRequired false

/-- The entry with a note on what the file is for. -/
def describedAs (e : Entry ε) (description : String) : Entry ε :=
  { e with description := some description }

/-- Is an exporter needed to write the file? -/
def isExecutable (e : Entry ε) : Bool := e.content.isExecutable

/-- The text shown for an entry. -/
def describe (describeExecutable : ε → String) (e : Entry ε) : String :=
  "FileManifestEntry \x7b path: " ++ Text.quoted e.path
    ++ ", content: " ++ e.content.describe describeExecutable
    ++ ", mode: " ++ e.mode.describe
    ++ ", required: " ++ (if e.required then "true" else "false")
    ++ ", description: "
    ++ (match e.description with
      | none => "None"
      | some d => "Some(" ++ Text.quoted d ++ ")")
    ++ " \x7d"

end Entry
end KernelArchive
