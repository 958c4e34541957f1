import Mathlib.Tactic.Choose
import KernelArchive.Proofs.RestoredKernel.Data

/-!
# Objects and lists that stand for kernels

* `RestoredKernel.exists_ofMembers?_iff`: which objects stand for a kernel.
* `RestoredKernel.ofMembers?_congr`: names of no part have no say, nor in the error.
* `RestoredKernel.ofItems?_eq_ok_iff`: a list of up to six values stands for the kernel of the
  object that puts them under the names of the parts, so one of two orders of reading is enough.
* `RestoredKernel.ofJson?_forms`: which values stand for a kernel, and for which one.
-/

namespace KernelArchive
set_option autoImplicit false

/-! ## Values under keys of their places -/

namespace OrderedMap

variable {κ α : Type} {keys : List κ} {values : List α} {key : κ} {i : Nat}

theorem distinct_zip (hkeys : keys.Nodup) :
    (keys.zip values).Pairwise fun x y => x.1 ≠ y.1 := by
  induction keys generalizing values with
  | nil => exact .nil
  | cons first keys ih =>
    obtain ⟨hfresh, hkeys⟩ := List.nodup_cons.1 hkeys
    cases values with
    | nil => exact .nil
    | cons value values =>
      refine List.pairwise_cons.2 ⟨?_, ih hkeys⟩
      rintro ⟨other, w⟩ hmem rfl
      exact hfresh (List.of_mem_zip hmem).1

theorem findIn_zip [DecidableEq κ] (hkeys : keys.Nodup) (hkey : keys[i]? = some key) :
    findIn key (keys.zip values) = values[i]? := by
  induction keys generalizing values i with
  | nil => cases hkey
  | cons first keys ih =>
    obtain ⟨hfresh, hkeys⟩ := List.nodup_cons.1 hkeys
    cases values with
    | nil => rfl
    | cons value values =>
      cases i with
      | zero =>
        obtain rfl : first = key := Option.some.inj hkey
        exact if_pos rfl
      | succ i =>
        have hkey : keys[i]? = some key := hkey
        have hother : key ≠ first := by
          rintro rfl
          exact hfresh (List.mem_of_getElem? hkey)
        exact (if_neg hother).trans (ih hkeys hkey)

end OrderedMap

/-! ## Texts and nulls -/

namespace Json

variable {members : List (String × Json)} {name s : String}

/-- A text, or null in its place. -/
def TextOrNull (v : Json) : Prop := v = .null ∨ ∃ s, v = .text s

theorem given_eq_text_iff :
    given members name = some (.text s) ↔ (fields members).get? name = some (.text s) := by
  rw [given, Option.filter_eq_some_iff]
  exact and_iff_left rfl

theorem exists_map_text_iff {v : Json} :
    (∃ o : Option String, (some v).filter (!·.isNull) = o.map .text) ↔ v.TextOrNull := by
  constructor
  · rintro ⟨o, ho⟩
    cases o with
    | none =>
      cases v with
      | null => exact .inl rfl
      | _ => cases ho
    | some s => exact .inr ⟨s, Option.some.inj (Option.filter_eq_some_iff.1 ho).1⟩
  · rintro (rfl | ⟨s, rfl⟩)
    · exact ⟨none, rfl⟩
    · exact ⟨some s, rfl⟩

theorem exists_given_iff :
    (∃ o : Option String, given members name = o.map .text) ↔
      ∀ v, (fields members).get? name = some v → v.TextOrNull := by
  rw [given]
  cases (fields members).get? name with
  | none => exact ⟨fun _ v hv => absurd hv.symm (Option.some_ne_none v), fun _ => ⟨none, rfl⟩⟩
  | some v => simp only [exists_map_text_iff, Option.some.injEq, forall_eq']

end Json

namespace RestoredKernel

variable {k : RestoredKernel} {members others : List (String × Json)} {items : List Json}

/-! ## Parts -/

namespace Field

/-- Is it the name of a part? -/
def isName (name : String) : Bool := (ofName? name).isSome

/-- The place of a part in a list. -/
def place (f : Field) : Nat := all.idxOf f

theorem names_nodup : names.Nodup := by decide

theorem getElem?_names (f : Field) : names[f.place]? = some f.name := by cases f <;> rfl

theorem place_eq_two_iff {f : Field} : f.place = 2 ↔ f = library := by cases f <;> decide

theorem exists_place {i : Nat} (hi : i < 6) : ∃ f : Field, f.place = i := by
  have hplaces : ∀ i < 6, ∃ f ∈ all, place f = i := by decide
  obtain ⟨f, -, hf⟩ := hplaces i hi
  exact ⟨f, hf⟩

end Field

/-- Any texts are the parts of a kernel, if there is one for the library. -/
theorem exists_get {parts : Field → Option String} (h : (parts .library).isSome = true) :
    ∃ k : RestoredKernel, ∀ f, k.get f = parts f := by
  obtain ⟨library, hlibrary⟩ := Option.isSome_iff_exists.1 h
  refine ⟨⟨parts .deviceSource, parts .hostSource, ⟨library⟩, (parts .pythonWrapper).map Path.mk,
    (parts .launcherLibrary).map Path.mk, parts .launcherSource⟩, fun f => ?_⟩
  cases f <;> simp [get, hlibrary, Function.comp_def]

/-! ## Objects -/

theorem exists_ofMembers?_iff :
    (∃ k, ofMembers? members = .ok k) ↔
      (∃ s, (Json.fields members).get? Field.library.name = some (.text s)) ∧
      ∀ f : Field, f ≠ .library → ∀ v,
        (Json.fields members).get? f.name = some v → v.TextOrNull := by
  simp only [ofMembers?_eq_ok_iff]
  constructor
  · rintro ⟨k, hk⟩
    exact ⟨⟨k.library.text, Json.given_eq_text_iff.1 (hk .library)⟩,
      fun f _ => Json.exists_given_iff.1 ⟨k.get f, hk f⟩⟩
  · rintro ⟨⟨s, hlibrary⟩, hoptional⟩
    have hgiven := Json.given_eq_text_iff.2 hlibrary
    have hparts : ∀ f : Field, ∃ o : Option String, Json.given members f.name = o.map .text := by
      intro f
      by_cases hf : f = .library
      · exact ⟨some s, hf ▸ hgiven⟩
      · exact Json.exists_given_iff.2 (hoptional f hf)
    choose parts hparts using hparts
    have hsome : (parts .library).isSome = true := by
      have htext := (hparts .library).symm.trans hgiven
      rw [← Option.isSome_map, htext, Option.isSome_some]
    obtain ⟨k, hk⟩ := exists_get hsome
    exact ⟨k, fun f => by rw [hk f, hparts f]⟩

namespace Draft

/-- Members of no part are passed over. -/
theorem readMembers_filter (d : Draft) (es : List (String × Json)) :
    d.readMembers (es.filter fun x => Field.isName x.1) = d.readMembers es := by
  induction es generalizing d with
  | nil => rfl
  | cons x rest ih =>
    obtain ⟨name, v⟩ := x
    cases hname : Field.ofName? name with
    | none =>
      rw [List.filter_cons_of_neg (by simp [Field.isName, hname]), readMembers_other hname]
      exact ih d
    | some f =>
      rw [List.filter_cons_of_pos (by simp [Field.isName, hname])]
      obtain rfl := Field.name_of_ofName? hname
      simp only [readMembers_part, ih]

/-- Items are read as members under the names of the fields that stand for them. -/
theorem readItems_eq (d : Draft) (fields : List Field) (items : List Json) :
    d.readItems fields items = d.readMembers ((fields.map Field.name).zip items) := by
  induction fields generalizing d items with
  | nil => rfl
  | cons f fields ih =>
    cases items with
    | nil => rfl
    | cons v items =>
      have hcons : d.readItems (f :: fields) (v :: items) =
          (d.read f v).bind fun d => d.readItems fields items := by
        rw [readItems]
        cases d.read f v <;> rfl
      rw [hcons, List.map_cons, List.zip_cons_cons, readMembers_part]
      simp only [ih]

end Draft

/-- Two objects with the same parts are read alike, whatever else they hold. -/
theorem ofMembers?_congr
    (h : ∀ f : Field, (Json.fields members).get? f.name = (Json.fields others).get? f.name) :
    ofMembers? members = ofMembers? others := by
  have hknown : (Json.fields members).filter Field.isName =
      (Json.fields others).filter Field.isName := by
    refine OrderedMap.ext_get? fun name => ?_
    rw [OrderedMap.get?_filter, OrderedMap.get?_filter]
    cases hname : Field.ofName? name with
    | none => rw [Field.isName, hname]; rfl
    | some f => rw [← Field.name_of_ofName? hname, h f]
  have hread : ∀ members, Draft.blank.readMembers (Json.fields members).entries =
      Draft.blank.readMembers ((Json.fields members).filter Field.isName).entries :=
    fun members => (Draft.readMembers_filter _ _).symm
  rw [ofMembers?, ofMembers?, hread members, hread others, hknown]

/-! ## Lists -/

theorem ofItems?_eq_ok_iff_readMembers :
    ofItems? items = .ok k ↔ items.length ≤ 6 ∧
      Draft.blank.readMembers (Field.names.zip items) = .ok k.draft := by
  rw [ofItems?, Draft.readItems_eq, ← Field.names_eq]
  cases Draft.blank.readMembers (Field.names.zip items) with
  | error e => simp
  | ok d =>
    dsimp only
    generalize DecodeError.wrongLength libraryPlace _ = missing
    have hfinish : d.finish missing = .ok k ↔ d = k.draft := finish_eq_ok_iff_eq_draft
    rw [Except.ok.injEq, ← hfinish]
    cases d.finish missing with
    | error e => simp
    | ok l =>
      dsimp only
      split
      · next hlong => exact iff_of_false (by simp) fun h => Nat.not_le.2 hlong h.1
      · next hshort => exact (and_iff_right (Nat.not_lt.1 hshort)).symm

/-- The order in which the parts are read matters for the error, but not for the kernel. -/
theorem ofItems?_eq_ok_iff :
    ofItems? items = .ok k ↔
      items.length ≤ 6 ∧ ofMembers? (Field.names.zip items) = .ok k := by
  have hdistinct : (Field.names.zip items).Pairwise fun x y => x.1 ≠ y.1 :=
    OrderedMap.distinct_zip Field.names_nodup
  -- a part is found under its name alike, whichever of the two orders the names stand in
  have hfind : ∀ name, OrderedMap.findIn name (Json.fields (Field.names.zip items)).entries =
      OrderedMap.findIn name (Field.names.zip items) := OrderedMap.get?_ofList hdistinct
  rw [ofItems?_eq_ok_iff_readMembers, ofMembers?_eq_ok_iff_readMembers,
    Draft.readMembers_eq_ok_iff hdistinct, Draft.readMembers_eq_ok_iff (OrderedMap.distinct _)]
  simp only [Draft.Read, hfind]

example :
    let items : List Json := [.null, .null, .text "k", .bool true, .null, .whole 5]
    ofItems? items = .error (.wrongType (Json.bool true).kind "path string") ∧
      ofMembers? (Field.names.zip items) = .error (.wrongType (Json.whole 5).kind "a string") :=
  ⟨rfl, rfl⟩

theorem get?_zip_names (f : Field) :
    (Json.fields (Field.names.zip items)).get? f.name = items[f.place]? :=
  (OrderedMap.get?_ofList (OrderedMap.distinct_zip Field.names_nodup) _).trans
    (OrderedMap.findIn_zip Field.names_nodup f.getElem?_names)

theorem exists_ofItems?_iff :
    (∃ k, ofItems? items = .ok k) ↔
      3 ≤ items.length ∧ items.length ≤ 6 ∧ (∃ s, items[2]? = some (.text s)) ∧
      ∀ i v, i ≠ 2 → items[i]? = some v → v.TextOrNull := by
  simp only [ofItems?_eq_ok_iff, exists_and_left, exists_ofMembers?_iff, get?_zip_names]
  constructor
  · rintro ⟨hlong, ⟨s, hlibrary⟩, hoptional⟩
    have hlibrary : items[2]? = some (.text s) := hlibrary
    obtain ⟨hshort, -⟩ := List.getElem?_eq_some_iff.1 hlibrary
    refine ⟨hshort, hlong, ⟨s, hlibrary⟩, fun i v hi hv => ?_⟩
    obtain ⟨hlt, -⟩ := List.getElem?_eq_some_iff.1 hv
    obtain ⟨f, rfl⟩ := Field.exists_place (Nat.lt_of_lt_of_le hlt hlong)
    exact hoptional f (fun hf => hi (Field.place_eq_two_iff.2 hf)) v hv
  · rintro ⟨-, hlong, hlibrary, hoptional⟩
    exact ⟨hlong, hlibrary, fun f hf v hv =>
      hoptional f.place v (fun hi => hf (Field.place_eq_two_iff.1 hi)) hv⟩

/-! ## All values -/

theorem ofMembers?_eq_ok_iff_parts :
    ofMembers? members = .ok k ↔
      ∀ name o, (name, o) ∈ k.parts → Json.given members name = o.map .text := by
  simp only [ofMembers?_eq_ok_iff, mem_parts_iff]
  constructor
  · rintro h name o ⟨f, rfl, rfl⟩
    exact h f
  · exact fun h f => h f.name (k.get f) ⟨f, rfl, rfl⟩

/-- An object stands for a kernel if its library is a text and each other part a text, null or
missing; the parts of the kernel are the members of their names, and members of other names change
neither the kernel nor the error. A list stands for a kernel if it has three to six items, the third
a text and each other one a text or null; it is the kernel of the object that gives the items, in
their order, the names of the parts. No other value stands for a kernel. -/
theorem ofJson?_forms :
    (∀ members, (∃ k, ofJson? (.object members) = .ok k) ↔
      (∃ s, (Json.fields members).get? "kernel_lib_path" = some (.text s)) ∧
      ∀ name ∈ Field.names, name ≠ "kernel_lib_path" → ∀ v,
        (Json.fields members).get? name = some v → v.TextOrNull) ∧
    (∀ members k, ofJson? (.object members) = .ok k ↔
      ∀ name o, (name, o) ∈ k.parts → Json.given members name = o.map .text) ∧
    (∀ members others,
      (∀ name ∈ Field.names,
        (Json.fields members).get? name = (Json.fields others).get? name) →
      ofJson? (.object members) = ofJson? (.object others)) ∧
    (∀ items, (∃ k, ofJson? (.list items) = .ok k) ↔
      3 ≤ items.length ∧ items.length ≤ 6 ∧ (∃ s, items[2]? = some (.text s)) ∧
      ∀ i v, i ≠ 2 → items[i]? = some v → v.TextOrNull) ∧
    (∀ items k, ofJson? (.list items) = .ok k ↔
      items.length ≤ 6 ∧ ofJson? (.object (Field.names.zip items)) = .ok k) ∧
    ∀ v, (∃ members, v = .object members) ∨ (∃ items, v = .list items) ∨
      ofJson? v = .error (.wrongType v.kind "struct LoadedKernel") := by
  refine ⟨fun members => ?_, fun _ _ => ofMembers?_eq_ok_iff_parts, fun members others h => ?_,
    fun _ => exists_ofItems?_iff, fun _ _ => ofItems?_eq_ok_iff, fun v => ?_⟩
  · refine exists_ofMembers?_iff.trans (and_congr_right fun _ => ⟨?_, ?_⟩)
    · intro hoptional name hname hother
      obtain ⟨f, rfl⟩ := Field.mem_names_iff.1 hname
      exact hoptional f fun hf => hother (congrArg Field.name hf)
    · intro hoptional f hf
      exact hoptional f.name (Field.mem_names_iff.2 ⟨f, rfl⟩) fun hname => hf (Field.name_inj hname)
  · exact ofMembers?_congr fun f => h f.name (Field.mem_names_iff.2 ⟨f, rfl⟩)
  · cases v with
    | object members => exact .inl ⟨members, rfl⟩
    | list items => exact .inr (.inl ⟨items, rfl⟩)
    | _ => exact .inr (.inr rfl)

/-- A list without its last item, the object with its names, and that object with more members. -/
theorem ofJson?_forms_agree :
    let items : List Json :=
      [.null, .text "", .text "c/kernel.cubin", .null, .text "c/launcher_lib.so"]
    let k : RestoredKernel :=
      { RestoredKernel.ofLibrary ⟨"c/kernel.cubin"⟩ with
        hostSource := "", launcherLibrary := some ⟨"c/launcher_lib.so"⟩ }
    let members := Field.names.zip items
    let more : List (String × Json) :=
      ("Kernel_Lib_Path", .null) :: members ++ [("kept_for", .whole 3)]
    ofJson? (.list items) = .ok k ∧ ofJson? (.object members) = .ok k ∧
      ofJson? (.object more) = .ok k ∧ ¬ ∃ k, ofJson? (.list (items.take 2)) = .ok k := by
  intro items k members more
  obtain ⟨-, -, hunknown, hitems, hagree, -⟩ := ofJson?_forms
  have hlist : ofJson? (.list items) = .ok k := rfl
  have hobject : ofJson? (.object members) = .ok k := ((hagree items k).1 hlist).2
  have hmore : ofJson? (.object more) = ofJson? (.object members) := by
    refine hunknown more members fun name hname => ?_
    have hcapitals : name ≠ "Kernel_Lib_Path" := ne_of_mem_of_not_mem hname (by decide)
    have hkept : name ≠ "kept_for" := ne_of_mem_of_not_mem hname (by decide)
    simp [more, members, items, Field.names, Json.fields, OrderedMap.ofList, OrderedMap.insertAll,
      hcapitals, hkept]
  exact ⟨hlist, hobject, hmore.trans hobject, fun h => absurd ((hitems _).1 h).1 (by decide)⟩

end RestoredKernel
end KernelArchive
