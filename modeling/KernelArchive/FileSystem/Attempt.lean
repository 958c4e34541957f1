import KernelArchive.FileSystem.Access
import KernelArchive.Log

/-!
# Reads that may come to nothing

* `FileSystem.tryText`, `FileSystem.tryBytes`: the content of a file, or nothing and an event that
  tells why.
* `FileSystem.find?`: the path of a name under a directory, if there is a node.
-/

namespace KernelArchive
namespace FileSystem
set_option autoImplicit false

/-- The text of a file; where it cannot be had, an event tells why. -/
def tryText (fs : FileSystem) (p : Path) : Logged (Option String) :=
  match fs.readText p with
  | .ok text => ⟨some text, []⟩
  | .error cause => ⟨none, [.textSkipped p cause]⟩

/-- The bytes of a file; where they cannot be had, an event tells why. -/
def tryBytes (fs : FileSystem) (p : Path) : Logged (Option ByteArray) :=
  match fs.read p with
  | .ok bytes => ⟨some bytes, []⟩
  | .error cause => ⟨none, [.binarySkipped p cause]⟩

/-- The texts of several files, up to the first that can be read. -/
def firstText (fs : FileSystem) : List Path → Logged (Option String)
  | [] => pure none
  | p :: rest => do
    match ← fs.tryText p with
    | some text => pure (some text)
    | none => fs.firstText rest

/-- The path of a name under a directory, if there is a node, be it a file or a directory. -/
def find? (fs : FileSystem) (dir : Path) (name : String) : Option Path :=
  if fs.present (dir.join name) then some (dir.join name) else none

@[simp] theorem value_tryText (fs : FileSystem) (p : Path) :
    (fs.tryText p).value = (fs.readText p).toOption := by
  unfold tryText
  cases fs.readText p <;> rfl

@[simp] theorem value_tryBytes (fs : FileSystem) (p : Path) :
    (fs.tryBytes p).value = (fs.read p).toOption := by
  unfold tryBytes
  cases fs.read p <;> rfl

end FileSystem
end KernelArchive
