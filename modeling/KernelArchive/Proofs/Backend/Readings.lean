import KernelArchive.Backend.Restore

/-!
# What a backend reads

* `Backend.assembled`: the kernel that a backend puts together from the texts that can be read.
* `Backend.mem_artifacts`: the paths in it.
* `Backend.value_restore`, `Backend.restore_eq_none`: so it does where all required files exist, and
  otherwise gives up.
* `Backend.value_fetch_eq_restore`: so the check for these files before a fetch changes nothing.
-/

namespace KernelArchive
namespace Backend
set_option autoImplicit false

variable {ε : Type}

/-- The kernel that a backend puts together of the texts in a directory; `wrapped` tells whether
there is a Python wrapper. -/
def assembled (dir : Path) (text : String → Option String) (wrapped : Bool) :
    Backend → Option RestoredKernel
  | tvmFfi => some
    { deviceSource := text (FileName.device .cuda)
      hostSource := text FileName.host
      library := dir.join FileName.executable
      pythonWrapper := none
      launcherLibrary := none
      launcherSource := none }
  | nvrtc => some
    { deviceSource := text (FileName.device .cuda)
      hostSource := text FileName.host
      library := dir.join FileName.cubin
      pythonWrapper := if wrapped then some (dir.join FileName.python) else none
      launcherLibrary := none
      launcherSource := none }
  | cutedsl => some
    { deviceSource := some ""
      hostSource := some ""
      library := dir.join FileName.python
      pythonWrapper := none
      launcherLibrary := some (dir.join FileName.launcherLibrary)
      launcherSource := text FileName.launcherSource }
  | cython => some
    { deviceSource := text (FileName.device .cuda)
      hostSource := text FileName.host
      library := dir.join FileName.sharedLibrary
      pythonWrapper := none
      launcherLibrary := none
      launcherSource := none }
  | torch => some
    { deviceSource := SourceKind.probeOrder.findSome? fun kind => text (FileName.device kind)
      hostSource := text FileName.host
      library := dir.join FileName.sharedLibrary
      pythonWrapper := none
      launcherLibrary := none
      launcherSource := none }
  | legacy => none

theorem isSome_assembled {b : Backend} (hb : b ≠ .legacy) (dir : Path)
    (text : String → Option String) (wrapped : Bool) :
    (b.assembled dir text wrapped).isSome = true := by
  cases b with
  | legacy => exact absurd rfl hb
  | _ => rfl

/-- Where the parts of a kernel come from that is put together. -/
theorem sources_of_assembled {b : Backend} {dir : Path} {text : String → Option String}
    {wrapped : Bool} {restored : RestoredKernel}
    (h : b.assembled dir text wrapped = some restored) :
    (b ≠ .cutedsl → restored.hostSource = text FileName.host) ∧
    (b = .tvmFfi ∨ b = .nvrtc ∨ b = .cython →
      restored.deviceSource = text (FileName.device .cuda)) ∧
    (b = .torch → restored.deviceSource =
      SourceKind.probeOrder.findSome? fun kind => text (FileName.device kind)) ∧
    (b = .nvrtc → (restored.pythonWrapper.isSome = true ↔ wrapped = true)) ∧
    (b = .cutedsl → restored.deviceSource = some "" ∧ restored.hostSource = some "" ∧
      restored.launcherSource = text FileName.launcherSource) := by
  cases b with
  | legacy => cases h
  | tvmFfi | cython =>
    obtain rfl := Option.some.inj h
    exact ⟨fun _ => rfl, fun _ => rfl, nofun, nofun, nofun⟩
  | nvrtc =>
    obtain rfl := Option.some.inj h
    refine ⟨fun _ => rfl, fun _ => rfl, nofun, fun _ => ?_, nofun⟩
    cases wrapped with
    | true => exact iff_of_true rfl rfl
    | false => exact iff_of_false Bool.false_ne_true Bool.false_ne_true
  | cutedsl =>
    obtain rfl := Option.some.inj h
    exact ⟨fun hb => absurd rfl hb, fun hb => by simp at hb, nofun, nofun,
      fun _ => ⟨rfl, rfl, rfl⟩⟩
  | torch =>
    obtain rfl := Option.some.inj h
    exact ⟨fun _ => rfl, fun hb => by simp at hb, fun _ => rfl, nofun, nofun⟩

theorem artifacts_of_assembled {b : Backend} {dir : Path} {text : String → Option String}
    {wrapped : Bool} {restored : RestoredKernel}
    (h : b.assembled dir text wrapped = some restored) :
    restored.artifacts = b.requiredFiles.map dir.join ++
      if b = .nvrtc ∧ wrapped = true then [dir.join FileName.python] else [] := by
  cases b with
  | legacy => cases h
  | tvmFfi | cutedsl | cython | torch =>
    obtain rfl := Option.some.inj h
    rfl
  | nvrtc =>
    obtain rfl := Option.some.inj h
    cases wrapped <;> rfl

theorem mem_artifacts {b : Backend} {dir path : Path} {text : String → Option String}
    {wrapped : Bool} {restored : RestoredKernel}
    (h : b.assembled dir text wrapped = some restored) (hpath : path ∈ restored.artifacts) :
    ∃ name, path = dir.join name ∧
      (name ∈ b.requiredFiles ∨ name = FileName.python ∧ wrapped = true) := by
  rw [artifacts_of_assembled h, List.mem_append, List.mem_map] at hpath
  rcases hpath with ⟨name, hname, rfl⟩ | hwrapper
  · exact ⟨name, rfl, .inl hname⟩
  · split at hwrapper
    · next hwrapped => exact ⟨_, List.mem_singleton.1 hwrapper, .inr ⟨rfl, hwrapped.2⟩⟩
    · cases hwrapper

/-! ## Restoring -/

theorem value_firstText (fs : FileSystem) (ps : List Path) :
    (fs.firstText ps).value = ps.findSome? fun p => (fs.tryText p).value := by
  induction ps with
  | nil => rfl
  | cons p rest ih =>
    rw [FileSystem.firstText, Logged.value_bind, List.findSome?_cons]
    cases (fs.tryText p).value with
    | none => exact ih
    | some text => rfl

/-- Where its required files exist, a backend puts a kernel together. -/
theorem value_restore {b : Backend} {fs : FileSystem} {dir : Path}
    (h : ∀ name ∈ b.requiredFiles, fs.present (dir.join name) = true) :
    (b.restore fs dir).value =
      b.assembled dir (fun name => (fs.tryText (dir.join name)).value)
        (fs.present (dir.join FileName.python)) := by
  have hfound : ∀ name ∈ b.requiredFiles, fs.find? dir name = some (dir.join name) :=
    fun name hname => if_pos (h name hname)
  cases b with
  | tvmFfi =>
    show (fs.find? dir FileName.executable).map (fun library =>
      (RestoredKernel.ofLibrary library).withSources
        (SourcePair.read fs dir SourceKind.cuda.extension).value) = _
    rw [hfound FileName.executable List.mem_cons_self]
    rfl
  | nvrtc =>
    show (fs.find? dir FileName.cubin).map (fun library =>
      { (RestoredKernel.ofLibrary library).withSources
          (SourcePair.read fs dir SourceKind.cuda.extension).value with
        pythonWrapper := fs.find? dir FileName.python }) = _
    rw [hfound FileName.cubin List.mem_cons_self]
    rfl
  | cutedsl =>
    have hpython := hfound FileName.python List.mem_cons_self
    have hlibrary := hfound FileName.launcherLibrary (List.mem_cons_of_mem _ List.mem_cons_self)
    unfold restore
    rw [hpython, hlibrary]
    rfl
  | cython =>
    show (fs.find? dir FileName.sharedLibrary).map (fun library =>
      (RestoredKernel.ofLibrary library).withSources
        (SourcePair.read fs dir SourceKind.cuda.extension).value) = _
    rw [hfound FileName.sharedLibrary List.mem_cons_self]
    rfl
  | torch =>
    show (fs.find? dir FileName.sharedLibrary).map (fun library =>
      (RestoredKernel.ofLibrary library).withSources
        ⟨(fs.firstText (SourceKind.probeOrder.map fun kind =>
          dir.join (FileName.device kind))).value, (fs.tryText (dir.join FileName.host)).value⟩) = _
    rw [hfound FileName.sharedLibrary List.mem_cons_self, value_firstText, List.findSome?_map]
    rfl
  | legacy => rfl

/-- Where one of them is missing, it gives up. -/
theorem restore_eq_none {b : Backend} {fs : FileSystem} {dir : Path} {name : String}
    (hname : name ∈ b.requiredFiles) (hmissing : fs.present (dir.join name) = false) :
    (b.restore fs dir).value = none := by
  have hnone : fs.find? dir name = none := if_neg (by rw [hmissing]; exact Bool.false_ne_true)
  cases b with
  | legacy => cases hname
  | cutedsl =>
    unfold restore
    rcases List.mem_cons.1 hname with rfl | hname
    · rw [hnone]
      rfl
    · obtain rfl := List.mem_singleton.1 hname
      rw [hnone]
      cases fs.find? dir FileName.python <;> rfl
  | tvmFfi | nvrtc | cython | torch =>
    obtain rfl := List.mem_singleton.1 hname
    show Option.map _ (fs.find? dir _) = none
    rw [hnone]
    rfl

theorem present_of_restore {b : Backend} {fs : FileSystem} {dir : Path} {restored : RestoredKernel}
    (h : (b.restore fs dir).value = some restored) :
    ∀ name ∈ b.requiredFiles, fs.present (dir.join name) = true := by
  intro name hname
  cases hfound : fs.present (dir.join name) with
  | true => rfl
  | false =>
    rw [restore_eq_none hname hfound] at h
    cases h

/-- What is restored is put together of the texts in the directory. -/
theorem assembled_of_restore {b : Backend} {fs : FileSystem} {dir : Path}
    {restored : RestoredKernel} (h : (b.restore fs dir).value = some restored) :
    b.assembled dir (fun name => (fs.tryText (dir.join name)).value)
      (fs.present (dir.join FileName.python)) = some restored := by
  rw [← value_restore (present_of_restore h), h]

theorem isSome_restore {b : Backend} (hb : b ≠ .legacy) (fs : FileSystem) (dir : Path) :
    (b.restore fs dir).value.isSome = true ↔
      ∀ name ∈ b.requiredFiles, fs.present (dir.join name) = true := by
  constructor
  · intro hsome
    obtain ⟨restored, hrestored⟩ := Option.isSome_iff_exists.1 hsome
    exact present_of_restore hrestored
  · intro hpresent
    rw [value_restore hpresent]
    exact isSome_assembled hb dir _ _

/-! ## Fetching -/

theorem isComplete_iff {b : Backend} {fs : FileSystem} {dir : Path} :
    (b.scheme : Scheme ε).isComplete fs dir = true ↔
      ∀ name ∈ b.requiredFiles, fs.present (dir.join name) = true := List.all_eq_true

/-- Looking for the required files first changes nothing: without them nothing is restored. -/
theorem value_fetch_eq_restore (b : Backend) (fs : FileSystem) (dir : Path) :
    ((b.scheme : Scheme ε).fetch fs dir).value = (b.restore fs dir).value := by
  have hscheme : (b.scheme : Scheme ε).restore fs dir = b.restore fs dir := rfl
  cases hrestored : (b.restore fs dir).value with
  | some kernel =>
    have hcomplete : (b.scheme : Scheme ε).isComplete fs dir = true :=
      isComplete_iff.2 (present_of_restore hrestored)
    rw [Scheme.fetch, if_pos hcomplete, Logged.value_bind, hscheme, hrestored]
    rfl
  | none =>
    unfold Scheme.fetch
    split
    · rw [Logged.value_bind, hscheme, hrestored]
      rfl
    · rfl

/-- A kernel is found where all required files exist, and then it is put together. -/
theorem value_fetch (b : Backend) (fs : FileSystem) (dir : Path) :
    ((b.scheme : Scheme ε).fetch fs dir).value =
      if (b.scheme : Scheme ε).isComplete fs dir then
        b.assembled dir (fun name => (fs.tryText (dir.join name)).value)
          (fs.present (dir.join FileName.python))
      else none := by
  split
  · next hcomplete =>
    rw [value_fetch_eq_restore, value_restore (isComplete_iff.1 hcomplete)]
  · next hmissing =>
    rw [Scheme.fetch, if_neg hmissing]
    rfl

theorem assembled_of_fetch {b : Backend} {fs : FileSystem} {dir : Path} {restored : RestoredKernel}
    (h : ((b.scheme : Scheme ε).fetch fs dir).value = some restored) :
    b.assembled dir (fun name => (fs.tryText (dir.join name)).value)
      (fs.present (dir.join FileName.python)) = some restored := by
  rw [value_fetch_eq_restore] at h
  exact assembled_of_restore h

theorem isSome_fetch {b : Backend} (hb : b ≠ .legacy) (fs : FileSystem) (dir : Path) :
    ((b.scheme : Scheme ε).fetch fs dir).value.isSome = true ↔
      ∀ name ∈ b.requiredFiles, fs.present (dir.join name) = true := by
  rw [value_fetch_eq_restore]
  exact isSome_restore hb fs dir

end Backend
end KernelArchive
