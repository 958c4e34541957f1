import KernelArchive.Discovery.Failure
import KernelArchive.FileSystem.Failure
import KernelArchive.FileSystem.Path

/-!
# Log events

* `Event`: everything that the library reports while it works, with `Event.level` and
  `Event.message`.
* `Logged`: a result together with the events that led to it, oldest first. Sequencing appends
  the events and passes the value on.
-/

namespace KernelArchive
set_option autoImplicit false

/-- How much a log line matters. -/
inductive LogLevel
  | debug
  | trace
deriving DecidableEq

/-- The name of a level. -/
def LogLevel.name : LogLevel → String
  | debug => "debug"
  | trace => "trace"

/-- Something that the library reports while it works. -/
inductive Event
  /-- A text file could not be read and is left out. -/
  | textSkipped (path : Path) (cause : IoFailure)
  /-- A binary file could not be read and is left out. -/
  | binarySkipped (path : Path) (cause : IoFailure)
  /-- An inventory was saved in full. -/
  | saved (dir : Path) (files exported bytes : Nat)
  /-- A kernel was restored. -/
  | hit (backend : String) (library : Path)
  /-- A required file is missing. -/
  | missIncomplete (backend : String) (dir : Path)
  /-- All required files exist, but the kernel could not be restored. -/
  | missUnrestorable (backend : String) (dir : Path)
  /-- Discovery added a scheme. -/
  | schemeAdded (name : String)
  /-- Discovery met a name that has a scheme already. -/
  | schemeKept (name : String)
  /-- Discovery met a backend that cannot be used. -/
  | schemeSkipped (name : String) (cause : ProbeFailure)
deriving DecidableEq

namespace Event

/-- Skipped reads are for tracing, all else is for debugging. -/
def level : Event → LogLevel
  | textSkipped .. => .trace
  | binarySkipped .. => .trace
  | _ => .debug

/-- The line written for an event. -/
def message : Event → String
  | textSkipped path cause => "Cache text read skipped: " ++ path.text ++ " (" ++ cause.message ++ ")"
  | binarySkipped path cause =>
    "Cache binary read skipped: " ++ path.text ++ " (" ++ cause.message ++ ")"
  | saved dir files exported bytes =>
    "Cache entry written: " ++ dir.text ++ " (" ++ toString files ++ " files, "
      ++ toString exported ++ " exported, " ++ toString bytes ++ " bytes)"
  | hit backend library => "Cache hit (" ++ backend ++ "): " ++ library.text
  | missIncomplete backend dir =>
    "Cache miss (" ++ backend ++ "): required files missing in " ++ dir.text
  | missUnrestorable backend dir => "Cache miss (" ++ backend ++ "): load failed for " ++ dir.text
  | schemeAdded name => "Registered cache adapter '" ++ name ++ "'"
  | schemeKept name => "Cache adapter '" ++ name ++ "' already registered, keeping it"
  | schemeSkipped name cause => "Skipping cache adapter '" ++ name ++ "': " ++ cause.message

end Event

/-! ## Results with their events -/

/-- A result and the events that led to it, oldest first. -/
structure Logged (α : Type) where
  value : α
  events : List Event

namespace Logged

instance : Monad Logged where
  pure a := ⟨a, []⟩
  bind x f := ⟨(f x.value).value, x.events ++ (f x.value).events⟩

/-- Reports one event. -/
def report (e : Event) : Logged Unit := ⟨(), [e]⟩

variable {α β : Type}

@[simp] theorem value_pure (a : α) : (pure a : Logged α).value = a := rfl

@[simp] theorem events_pure (a : α) : (pure a : Logged α).events = [] := rfl

@[simp] theorem value_bind (x : Logged α) (f : α → Logged β) :
    (x >>= f).value = (f x.value).value := rfl

@[simp] theorem events_bind (x : Logged α) (f : α → Logged β) :
    (x >>= f).events = x.events ++ (f x.value).events := rfl

@[simp] theorem value_map (x : Logged α) (f : α → β) : (f <$> x).value = f x.value := rfl

@[simp] theorem events_map (x : Logged α) (f : α → β) : (f <$> x).events = x.events :=
  List.append_nil _

end Logged
end KernelArchive
