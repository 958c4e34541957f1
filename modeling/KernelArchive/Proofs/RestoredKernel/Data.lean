import KernelArchive.RestoredKernel.Data

/-!
# Kernels written as data and read back

* `RestoredKernel.ofMembers?_eq_ok_iff`: which objects stand for which kernel.
* `RestoredKernel.ofJson?_toJson`: a kernel written as data is read back, and what is read from an
  object and written again is the object with its known parts only.
-/

namespace KernelArchive
set_option autoImplicit false

namespace Json

variable {v : Json} {s : Option String} {expected : String}

/-- Is it null? -/
def isNull : Json → Bool
  | null => true
  | _ => false

/-- The member of a name, if it is there and not null. -/
def given (members : List (String × Json)) (name : String) : Option Json :=
  ((fields members).get? name).filter (!·.isNull)

theorem optionalText?_eq_ok_iff :
    v.optionalText? expected = .ok s ↔ (some v).filter (!·.isNull) = s.map text := by
  cases v <;> cases s <;> simp [optionalText?, text?, isNull, Except.map]

end Json

namespace RestoredKernel

variable {k : RestoredKernel} {f : Field} {v : Json} {s : Option String}
  {members : List (String × Json)}

/-! ## Parts and their names -/

namespace Field

theorem mem_all (f : Field) : f ∈ all := by cases f <;> decide

theorem ofName?_name (f : Field) : ofName? f.name = some f := by cases f <;> rfl

theorem name_of_ofName? {name : String} (h : ofName? name = some f) : f.name = name := by
  simpa using List.find?_some h

theorem name_inj {g : Field} (h : f.name = g.name) : f = g := by
  have hf := ofName?_name f
  rw [h, ofName?_name] at hf
  exact (Option.some.inj hf).symm

theorem name_ne_of_ofName? {name : String} (h : ofName? name = none) : f.name ≠ name := by
  rintro rfl
  rw [ofName?_name] at h
  cases h

/-- The names of all parts, in the order in which a list gives them. -/
def names : List String :=
  ["device_kernel_source", "host_kernel_source", "kernel_lib_path", "python_wrapper_path",
    "launcher_lib_path", "launcher_cpp_code"]

theorem names_eq : names = all.map Field.name := rfl

theorem mem_names_iff {name : String} : name ∈ names ↔ ∃ f : Field, f.name = name := by
  simp [names_eq, mem_all]

end Field

/-- A kernel is what its parts are. -/
theorem ext_get {l : RestoredKernel} (h : ∀ f, k.get f = l.get f) : k = l := by
  have hmap : ∀ {o o' : Option Path}, o.map Path.text = o'.map Path.text → o = o' :=
    fun h => Option.map_injective (fun ⟨_⟩ ⟨_⟩ => congrArg Path.mk) h
  obtain ⟨device, host, ⟨library⟩, wrapper, launcher, source⟩ := k
  obtain ⟨device', host', ⟨library'⟩, wrapper', launcher', source'⟩ := l
  obtain rfl : device = device' := h .deviceSource
  obtain rfl : host = host' := h .hostSource
  obtain rfl : library = library' := Option.some.inj (h .library)
  obtain rfl : wrapper = wrapper' := hmap (h .pythonWrapper)
  obtain rfl : launcher = launcher' := hmap (h .launcherLibrary)
  obtain rfl : source = source' := h .launcherSource
  rfl

/-! ## Reading -/

/-- What a part is read as. -/
def Field.take (f : Field) (v : Json) : Except DecodeError (Option String) :=
  if f.isMandatory then (v.text? f.expected).map some else v.optionalText? f.expected

theorem Field.take_eq_ok_iff :
    f.take v = .ok s ↔
      (some v).filter (!·.isNull) = s.map .text ∧ (f = library → s.isSome = true) := by
  rw [take]
  split
  · next hmandatory =>
    have hf : f = library := by simpa [isMandatory] using hmandatory
    cases v <;> cases s <;> simp [hf, Json.text?, Json.isNull, Except.map]
  · next hoptional =>
    have hf : f ≠ library := by simpa [isMandatory] using hoptional
    simp [hf, Json.optionalText?_eq_ok_iff]

namespace Draft

variable {d d' : Draft} {missing : DecodeError}

/-- A part of a draft. -/
def get (d : Draft) : Field → Option String
  | .deviceSource => d.deviceSource
  | .hostSource => d.hostSource
  | .library => d.library
  | .pythonWrapper => d.pythonWrapper
  | .launcherLibrary => d.launcherLibrary
  | .launcherSource => d.launcherSource

theorem get_blank (f : Field) : blank.get f = none := by cases f <;> rfl

theorem get_set (d : Draft) (f g : Field) (s : Option String) :
    (d.set f s).get g = if g = f then s else d.get g := by
  cases f <;> cases g <;> rfl

theorem ext_get (h : ∀ f, d.get f = d'.get f) : d = d' := by
  obtain ⟨device, host, library, wrapper, launcher, source⟩ := d
  obtain ⟨device', host', library', wrapper', launcher', source'⟩ := d'
  obtain rfl : device = device' := h .deviceSource
  obtain rfl : host = host' := h .hostSource
  obtain rfl : library = library' := h .library
  obtain rfl : wrapper = wrapper' := h .pythonWrapper
  obtain rfl : launcher = launcher' := h .launcherLibrary
  obtain rfl : source = source' := h .launcherSource
  rfl

theorem read_eq (d : Draft) (f : Field) (v : Json) : d.read f v = (f.take v).map (d.set f) := rfl

theorem readMembers_other {name : String} {rest : List (String × Json)}
    (h : Field.ofName? name = none) : d.readMembers ((name, v) :: rest) = d.readMembers rest := by
  rw [readMembers, h]

theorem readMembers_part (d : Draft) (f : Field) (v : Json) (rest : List (String × Json)) :
    d.readMembers ((f.name, v) :: rest) = (d.read f v).bind fun d => d.readMembers rest := by
  simp only [readMembers, Field.ofName?_name]
  cases d.read f v <;> rfl

/-- What reading does to a part: a member of its name sets it, and else it stays as it is. -/
def Read (es : List (String × Json)) (d d' : Draft) : Prop :=
  ∀ f : Field,
    match OrderedMap.findIn f.name es with
    | none => d'.get f = d.get f
    | some v => f.take v = .ok (d'.get f)

theorem readMembers_eq_ok_iff {es : List (String × Json)}
    (hes : es.Pairwise fun x y => x.1 ≠ y.1) :
    d.readMembers es = .ok d' ↔ Read es d d' := by
  induction es generalizing d with
  | nil =>
    refine ⟨fun h f => ?_, fun h => congrArg _ (ext_get fun f => (h f).symm)⟩
    rw [Except.ok.inj h]
    rfl
  | cons x rest ih =>
    obtain ⟨name, v⟩ := x
    obtain ⟨hfirst, hrest⟩ := List.pairwise_cons.1 hes
    cases hname : Field.ofName? name with
    | none =>
      have hother : ∀ f : Field, OrderedMap.findIn f.name ((name, v) :: rest) =
          OrderedMap.findIn f.name rest := fun f => if_neg (Field.name_ne_of_ofName? hname)
      simp only [readMembers_other hname, ih hrest, Read, hother]
    | some g =>
      obtain rfl := Field.name_of_ofName? hname
      rw [readMembers_part, read_eq]
      have hother : ∀ f : Field, f ≠ g → OrderedMap.findIn f.name ((g.name, v) :: rest) =
          OrderedMap.findIn f.name rest := fun f hf => if_neg fun h => hf (Field.name_inj h)
      have hself : OrderedMap.findIn g.name ((g.name, v) :: rest) = some v := if_pos rfl
      have hgone : OrderedMap.findIn g.name rest = none := OrderedMap.findIn_eq_none hfirst
      cases htake : g.take v with
      | error e =>
        simp only [Except.map, Except.bind]
        constructor
        · intro h
          cases h
        · intro h
          have hg := h g
          simp only [hself, htake] at hg
          cases hg
      | ok s =>
        simp only [Except.map, Except.bind]
        -- the part of this name is set now, and no later member sets it again
        refine (ih hrest).trans (forall_congr' fun f => ?_)
        by_cases hf : f = g
        · subst hf
          simp only [hself, hgone, htake, get_set, if_pos, Except.ok.injEq, eq_comm]
        · simp only [hother f hf, get_set, if_neg hf]

theorem finish_eq_ok_iff : d.finish missing = .ok k ↔ ∀ f, d.get f = k.get f := by
  have hread : ∀ o : Option String, (o.map Path.mk).map Path.text = o := fun o => by
    cases o <;> rfl
  constructor
  · intro h f
    rw [finish] at h
    split at h
    · cases h
    · next hlibrary =>
      obtain rfl := Except.ok.inj h
      cases f <;> simp [get, RestoredKernel.get, hlibrary, hread]
  · intro h
    have hlibrary : d.library = some k.library.text := h .library
    rw [finish, hlibrary]
    refine congrArg Except.ok (RestoredKernel.ext_get fun f => ?_)
    rw [← h f]
    cases f <;> simp [get, RestoredKernel.get, hlibrary, hread]

end Draft

/-- The draft of a kernel that is complete. -/
def draft (k : RestoredKernel) : Draft :=
  ⟨k.deviceSource, k.hostSource, k.library.text, k.pythonWrapper.map Path.text,
    k.launcherLibrary.map Path.text, k.launcherSource⟩

theorem get_draft (k : RestoredKernel) (f : Field) : k.draft.get f = k.get f := by
  cases f <;> rfl

theorem isSome_library (k : RestoredKernel) : (k.get .library).isSome = true := rfl

theorem finish_eq_ok_iff_eq_draft {d : Draft} {missing : DecodeError} :
    d.finish missing = .ok k ↔ d = k.draft := by
  refine Draft.finish_eq_ok_iff.trans ⟨fun h => Draft.ext_get fun f => ?_, fun h f => ?_⟩
  · rw [h f, get_draft]
  · rw [h, get_draft]

theorem ofMembers?_eq_ok_iff_readMembers :
    ofMembers? members = .ok k ↔
      Draft.blank.readMembers (Json.fields members).entries = .ok k.draft := by
  rw [ofMembers?]
  cases Draft.blank.readMembers (Json.fields members).entries with
  | error e => simp
  | ok d => simp only [finish_eq_ok_iff_eq_draft, Except.ok.injEq]

/-- An object stands for a kernel if its members other than null are the parts of the kernel, but
for names of no part. -/
theorem ofMembers?_eq_ok_iff :
    ofMembers? members = .ok k ↔ ∀ f : Field, Json.given members f.name = (k.get f).map .text := by
  rw [ofMembers?_eq_ok_iff_readMembers, Draft.readMembers_eq_ok_iff (Json.fields members).distinct]
  refine forall_congr' fun f => ?_
  rw [Json.given, OrderedMap.get?]
  cases OrderedMap.findIn f.name (Json.fields members).entries with
  | none =>
    simp only [get_draft, Draft.get_blank]
    cases k.get f <;> simp
  | some v =>
    have hlibrary : f = .library → (k.get f).isSome = true := by
      rintro rfl
      exact isSome_library k
    simp only [get_draft, Field.take_eq_ok_iff]
    exact and_iff_left hlibrary

/-! ## Writing -/

/-- The parts of a kernel, each under its name. -/
def parts (k : RestoredKernel) : List (String × Option String) :=
  [("device_kernel_source", k.deviceSource), ("host_kernel_source", k.hostSource),
    ("kernel_lib_path", some k.library.text),
    ("python_wrapper_path", k.pythonWrapper.map Path.text),
    ("launcher_lib_path", k.launcherLibrary.map Path.text),
    ("launcher_cpp_code", k.launcherSource)]

/-- The members that are written for a kernel. -/
def written (k : RestoredKernel) : List (String × Json) :=
  Field.all.filterMap fun f => (k.get f).map fun s => (f.name, .text s)

variable {name : String} {o : Option String}

theorem mem_parts_iff : (name, o) ∈ k.parts ↔ ∃ f : Field, f.name = name ∧ k.get f = o := by
  have hparts : k.parts = Field.all.map fun f => (f.name, k.get f) := rfl
  simp [hparts, Field.mem_all]

theorem mem_part_names_iff : name ∈ k.parts.map (·.1) ↔ ∃ f : Field, f.name = name :=
  Field.mem_names_iff

theorem mem_written_iff :
    (name, v) ∈ k.written ↔ ∃ f : Field, f.name = name ∧ ∃ s, k.get f = some s ∧ v = .text s := by
  simp only [written, List.mem_filterMap, Field.mem_all, true_and, Option.map_eq_some_iff,
    Prod.mk.injEq]
  refine exists_congr fun f => ?_
  constructor
  · rintro ⟨s, hs, hname, rfl⟩
    exact ⟨hname, s, hs, rfl⟩
  · rintro ⟨hname, s, hs, rfl⟩
    exact ⟨s, hs, hname, rfl⟩

theorem written_nodup (k : RestoredKernel) : (k.written.map (·.1)).Nodup := by
  have hall : Field.all.Pairwise (· ≠ ·) := by decide
  refine List.pairwise_map.2 (hall.filterMap _ fun f g hfg x hx y hy hname => hfg ?_)
  obtain ⟨s, -, rfl⟩ := Option.map_eq_some_iff.1 hx
  obtain ⟨t, -, rfl⟩ := Option.map_eq_some_iff.1 hy
  exact Field.name_inj hname

theorem get?_written (f : Field) :
    (Json.fields k.written).get? f.name = (k.get f).map .text := by
  cases hs : k.get f with
  | none =>
    refine OrderedMap.get?_ofList_of_ne fun x hx hname => ?_
    obtain ⟨g, hg, s, hs', -⟩ := mem_written_iff.1 hx
    obtain rfl := Field.name_inj (hg.trans hname)
    rw [hs] at hs'
    cases hs'
  | some s =>
    refine OrderedMap.get?_ofList_of_mem (mem_written_iff.2 ⟨f, rfl, s, hs, rfl⟩) ?_
    intro x hx hname
    obtain ⟨g, hg, t, ht, hv⟩ := mem_written_iff.1 hx
    obtain rfl := Field.name_inj (hg.trans hname)
    rw [hs] at ht
    rw [hv, Option.some.inj ht]

theorem get?_written_eq_none (h : ∀ f : Field, f.name ≠ name) :
    (Json.fields k.written).get? name = none := by
  refine OrderedMap.get?_ofList_of_ne fun x hx hname => ?_
  obtain ⟨f, hf, -⟩ := mem_written_iff.1 hx
  exact h f (hf.trans hname)

theorem ofJson?_written (k : RestoredKernel) : ofJson? k.toJson = .ok k := by
  refine ofMembers?_eq_ok_iff.2 fun f => ?_
  rw [Json.given, ← written, get?_written]
  cases k.get f <;> rfl

/-- The members written for a kernel that was read from an object. -/
theorem get?_written_of_read (h : ofMembers? members = .ok k) (name : String) :
    (Json.fields k.written).get? name =
      if name ∈ k.parts.map (·.1) then Json.given members name else none := by
  by_cases hname : ∃ f : Field, f.name = name
  · rw [if_pos (mem_part_names_iff.2 hname)]
    obtain ⟨f, rfl⟩ := hname
    rw [get?_written, ofMembers?_eq_ok_iff.1 h f]
  · rw [if_neg (mt mem_part_names_iff.1 hname)]
    exact get?_written_eq_none fun f hf => hname ⟨f, hf⟩

/-- A kernel written as data is read back as it was; it is written as an object with one member for
each part that is present. Whatever a kernel is read from, it is written so that it is read again,
and from an object it is written with the known members only, those that are null left out. -/
theorem ofJson?_toJson :
    (∀ k : RestoredKernel, ofJson? k.toJson = .ok k) ∧
    (∀ k : RestoredKernel, ∃ out, k.toJson = .object out ∧ (out.map (·.1)).Nodup ∧
      ∀ name v, (name, v) ∈ out ↔ ∃ s, (name, some s) ∈ k.parts ∧ v = .text s) ∧
    (∀ v k, ofJson? v = .ok k → ofJson? k.toJson = .ok k) ∧
    ∀ members k out, ofJson? (.object members) = .ok k → k.toJson = .object out →
      ∀ name, (Json.fields out).get? name =
        if name ∈ k.parts.map (·.1) then Json.given members name else none := by
  refine ⟨ofJson?_written, fun k => ⟨k.written, rfl, written_nodup k, fun name v => ?_⟩,
    fun v k _ => ofJson?_written k, fun members k out hread hout => ?_⟩
  · rw [mem_written_iff]
    constructor
    · rintro ⟨f, hname, s, hs, hv⟩
      exact ⟨s, mem_parts_iff.2 ⟨f, hname, hs⟩, hv⟩
    · rintro ⟨s, hs, hv⟩
      obtain ⟨f, hname, hs⟩ := mem_parts_iff.1 hs
      exact ⟨f, hname, s, hs, hv⟩
  · obtain rfl : k.written = out := Json.object.inj hout
    exact get?_written_of_read hread

/-- A member that is null and a member of no part are not written again. -/
theorem ofJson?_toJson_known :
    let members : List (String × Json) :=
      [("kernel_lib_path", .text "c/kernel.cubin"), ("host_kernel_source", .text ""),
        ("launcher_cpp_code", .null), ("kept_for", .whole 3)]
    let k : RestoredKernel := { RestoredKernel.ofLibrary ⟨"c/kernel.cubin"⟩ with hostSource := "" }
    let out : List (String × Json) :=
      [("host_kernel_source", .text ""), ("kernel_lib_path", .text "c/kernel.cubin")]
    ofJson? (.object members) = .ok k ∧ k.toJson = .object out ∧ ofJson? (.object out) = .ok k ∧
      ∀ name, (Json.fields out).get? name =
        if name ∈ k.parts.map (·.1) then Json.given members name else none := by
  intro members k out
  have hread : ofJson? (.object members) = .ok k := rfl
  have hwritten : k.toJson = .object out := rfl
  obtain ⟨-, -, hagain, hknown⟩ := ofJson?_toJson
  exact ⟨hread, hwritten, hagain _ k hread, hknown members k out hread hwritten⟩

end RestoredKernel
end KernelArchive
