import KernelArchive.FileSystem.Access
import KernelArchive.Inventory.Basic
import KernelArchive.Inventory.PathFault
import KernelArchive.Log

/-!
# Saving an inventory

* `Exporter`: writes an executable to a path; it may change the file system as it likes.
* `Inventory.fault?`: the first entry, in key order, that must not be saved.
* `Inventory.save`: checks every entry, then creates the parents of each and writes or exports it,
  in key order, up to the first failure. What was done before a failure stays done.
* `Saving`: the answer, the file system left behind, the calls of the exporter and the events.
-/

namespace KernelArchive
set_option autoImplicit false

/-- Writes an executable to a path. It returns the file system as it left it, and whether it
succeeded. -/
abbrev Exporter (ε : Type) := FileSystem → ε → Path → FileSystem × Except IoFailure Unit

/-- Why an inventory could not be saved. -/
inductive SaveError
  /-- A key is no safe path. -/
  | unsafeKey (key : String) (fault : PathFault)
  /-- The entry with this key holds an executable, and there is no exporter. -/
  | missingExporter (key : String)
  /-- The exporter failed. -/
  | exportFailed (path : Path) (cause : IoFailure)
  /-- A file, or the directory for it, could not be written. -/
  | writeFailed (path : Path) (cause : IoFailure)
deriving DecidableEq

/-- The text shown for an error. -/
def SaveError.message : SaveError → String
  | unsafeKey key fault => "Unsafe manifest entry path '" ++ key ++ "': " ++ fault.message
  | missingExporter key =>
    "Manifest entry '" ++ key ++ "' holds an executable handle but no exporter was provided"
  | exportFailed path cause =>
    "Failed to export executable to " ++ path.text ++ ": " ++ cause.message
  | writeFailed path cause => "Failed to write cache file " ++ path.text ++ ": " ++ cause.message

/-- What was saved. -/
structure Summary where
  /-- The files written directly, in key order. -/
  written : List Path
  /-- The files left to the exporter, in key order. -/
  exported : List Path
  /-- The number of bytes written directly. -/
  bytesWritten : Nat
deriving DecidableEq

/-- Nothing saved. -/
def Summary.nothing : Summary := ⟨[], [], 0⟩

/-- One call of an exporter, with the file system that it found and the one that it left. -/
structure ExportCall (ε : Type) where
  executable : ε
  path : Path
  found : FileSystem
  left : FileSystem
  result : Except IoFailure Unit

/-- How far saving has come. -/
structure Progress (ε : Type) where
  files : FileSystem
  summary : Summary
  /-- The calls of the exporter so far, oldest first. -/
  calls : List (ExportCall ε)

/-- The outcome of saving an inventory. -/
structure Saving (ε : Type) where
  answer : Except SaveError Summary
  files : FileSystem
  calls : List (ExportCall ε)
  events : List Event

namespace Inventory

variable {ε : Type}

/-! ## Checks before anything is written -/

/-- Why one entry must not be saved, if so. -/
def entryFault? (hasExporter : Bool) (key : String) (entry : Entry ε) : Option SaveError :=
  match PathFault.of? key with
  | some fault => some (.unsafeKey key fault)
  | none => if entry.isExecutable && !hasExporter then some (.missingExporter key) else none

/-- The fault of the first entry, in key order, that must not be saved. -/
def fault? (inventory : Inventory ε) (hasExporter : Bool) : Option SaveError :=
  inventory.entries.findSome? fun (key, entry) => entryFault? hasExporter key entry

/-! ## One entry after the other -/

/-- Makes sure that the directory around a path exists. -/
def makeRoom (fs : FileSystem) (path : Path) : FileSystem × Except SaveError Unit :=
  match path.parent? with
  | none => (fs, .ok ())
  | some parent =>
    match fs.makeDirectories parent with
    | (made, .ok ()) => (made, .ok ())
    | (made, .error cause) => (made, .error (.writeFailed parent cause))

/-- Writes bytes to a path whose directory exists. -/
def writeOut (p : Progress ε) (path : Path) (bytes : ByteArray) :
    Progress ε × Except SaveError Unit :=
  match p.files.write path bytes with
  | .error cause => (p, .error (.writeFailed path cause))
  | .ok files =>
    ({ p with
        files := files
        summary := { p.summary with
          written := p.summary.written ++ [path]
          bytesWritten := p.summary.bytesWritten + bytes.size } }, .ok ())

/-- Leaves an executable to the exporter. -/
def exportOut (exporter : Exporter ε) (p : Progress ε) (path : Path) (executable : ε) :
    Progress ε × Except SaveError Unit :=
  let (left, result) := exporter p.files executable path
  let calls := p.calls ++ [⟨executable, path, p.files, left, result⟩]
  match result with
  | .error cause => ({ p with files := left, calls := calls }, .error (.exportFailed path cause))
  | .ok () =>
    ({ files := left
       summary := { p.summary with exported := p.summary.exported ++ [path] }
       calls := calls }, .ok ())

/-- Saves one entry under its key. -/
def saveEntry (dir : Path) (exporter : Option (Exporter ε)) (p : Progress ε) (key : String)
    (entry : Entry ε) : Progress ε × Except SaveError Unit :=
  let path := dir.join key
  match makeRoom p.files path with
  | (made, .error e) => ({ p with files := made }, .error e)
  | (made, .ok ()) =>
    let p := { p with files := made }
    match entry.content with
    | .text text => writeOut p path text.toUTF8
    | .binary bytes => writeOut p path bytes
    | .executable executable =>
      match exporter with
      | none => (p, .ok ())
      | some exporter => exportOut exporter p path executable

/-- Saves entries in turn, up to the first failure. -/
def saveEntries (dir : Path) (exporter : Option (Exporter ε)) :
    Progress ε → List (String × Entry ε) → Progress ε × Except SaveError Unit
  | p, [] => (p, .ok ())
  | p, (key, entry) :: rest =>
    match saveEntry dir exporter p key entry with
    | (p, .error e) => (p, .error e)
    | (p, .ok ()) => saveEntries dir exporter p rest

/-! ## All of it -/

/-- Saves an inventory under a directory. -/
def save (fs : FileSystem) (dir : Path) (inventory : Inventory ε)
    (exporter : Option (Exporter ε)) : Saving ε :=
  match inventory.fault? exporter.isSome with
  | some e => ⟨.error e, fs, [], []⟩
  | none =>
    match saveEntries dir exporter ⟨fs, .nothing, []⟩ inventory.entries with
    | (p, .error e) => ⟨.error e, p.files, p.calls, []⟩
    | (p, .ok ()) =>
      ⟨.ok p.summary, p.files, p.calls,
        [.saved dir p.summary.written.length p.summary.exported.length p.summary.bytesWritten]⟩

end Inventory
end KernelArchive
