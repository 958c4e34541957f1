import KernelArchive.Ordered.Key

/-!
# Maps kept in key order

* `OrderedMap κ α`: a finite map whose entries are listed by strictly increasing key, so the
  order in which a map is read out is part of its type.
* `OrderedMap.insert`, `OrderedMap.filter`, `OrderedMap.ofList`, `OrderedMap.overlay`: building; a
  later binding of a key replaces an earlier one.
* `OrderedMap.get?_insert`, `OrderedMap.get?_filter`, `OrderedMap.get?_ofList_of_mem`: what each
  operation does to the view `get?`.
* `OrderedMap.ext_get?`: two maps that answer alike are equal.
-/

namespace KernelArchive
set_option autoImplicit false
set_option linter.unusedSectionVars false

universe u v

/-- A finite map listed by strictly increasing key. -/
structure OrderedMap (κ : Type u) (α : Type v) [KeyOrder κ] where
  /-- The bindings, smallest key first. -/
  entries : List (κ × α)
  /-- Keys strictly increase along the list, so no key is bound twice. -/
  increasing : entries.Pairwise (fun a b => KeyOrder.before a.1 b.1 = true)

namespace OrderedMap

variable {κ : Type u} {α : Type v} [KeyOrder κ] [DecidableEq κ]

/-! ## Entry lists -/

/-- The value that an entry list gives to a key. -/
def findIn (k : κ) : List (κ × α) → Option α
  | [] => none
  | (k', a) :: rest => if k = k' then some a else findIn k rest

/-- Places a binding before the first larger key, replacing a binding of the same key. -/
def placeIn (k : κ) (a : α) : List (κ × α) → List (κ × α)
  | [] => [(k, a)]
  | (k', a') :: rest =>
    if KeyOrder.before k k' then (k, a) :: (k', a') :: rest
    else if k = k' then (k, a) :: rest
    else (k', a') :: placeIn k a rest

theorem mem_placeIn {k : κ} {a : α} {p : κ × α} :
    ∀ {l : List (κ × α)}, p ∈ placeIn k a l → p = (k, a) ∨ p ∈ l
  | [], h => by simpa [placeIn] using h
  | (k', a') :: rest, h => by
    unfold placeIn at h
    split at h
    · simpa using h
    · split at h
      · rcases List.mem_cons.1 h with h | h
        · exact .inl h
        · exact .inr (List.mem_cons_of_mem _ h)
      · rcases List.mem_cons.1 h with h | h
        · exact .inr (h ▸ List.mem_cons_self)
        · exact (mem_placeIn h).imp id (List.mem_cons_of_mem _)

theorem placeIn_increasing (k : κ) (a : α) :
    ∀ {l : List (κ × α)}, l.Pairwise (fun x y => KeyOrder.before x.1 y.1 = true) →
      (placeIn k a l).Pairwise (fun x y => KeyOrder.before x.1 y.1 = true)
  | [], _ => List.pairwise_singleton _ _
  | (k', a') :: rest, h => by
    obtain ⟨hhead, htail⟩ := List.pairwise_cons.1 h
    unfold placeIn
    split
    · next hk =>
      refine List.pairwise_cons.2 ⟨?_, h⟩
      intro p hp
      rcases List.mem_cons.1 hp with rfl | hp
      · exact hk
      · exact KeyOrder.before_trans hk (hhead p hp)
    · next hlt =>
      split
      · next hk => exact List.pairwise_cons.2 ⟨fun p hp => hk ▸ hhead p hp, htail⟩
      · next hne =>
        refine List.pairwise_cons.2 ⟨?_, placeIn_increasing k a htail⟩
        intro p hp
        rcases mem_placeIn hp with rfl | hp
        · exact KeyOrder.before_of_not_before (Bool.eq_false_iff.2 hlt) hne
        · exact hhead p hp

theorem findIn_placeIn (k k' : κ) (a : α) :
    ∀ l : List (κ × α), findIn k' (placeIn k a l) = if k' = k then some a else findIn k' l
  | [] => by simp [placeIn, findIn]
  | (k₀, a₀) :: rest => by
    unfold placeIn
    split
    · simp [findIn]
    · split
      · next h => subst h; by_cases h' : k' = k <;> simp [findIn, h']
      · next h =>
        simp only [findIn, findIn_placeIn k k' a rest]
        by_cases h₀ : k' = k₀
        · have : k' ≠ k := fun e => h (e ▸ h₀)
          simp [h₀] at this ⊢
          simp [this]
        · simp [h₀]

theorem mem_of_findIn {k : κ} {a : α} :
    ∀ {l : List (κ × α)}, findIn k l = some a → (k, a) ∈ l
  | [], h => by simp [findIn] at h
  | (k', a') :: rest, h => by
    unfold findIn at h
    split at h
    · next e => cases h; subst e; exact List.mem_cons_self
    · exact List.mem_cons_of_mem _ (mem_of_findIn h)

theorem findIn_eq_none {k : κ} {l : List (κ × α)} (h : ∀ p ∈ l, k ≠ p.1) : findIn k l = none := by
  cases hfound : findIn k l with
  | none => rfl
  | some a => exact absurd rfl (h (k, a) (mem_of_findIn hfound))

theorem findIn_of_mem {k : κ} {a : α} :
    ∀ {l : List (κ × α)}, l.Pairwise (fun x y => KeyOrder.before x.1 y.1 = true) →
      (k, a) ∈ l → findIn k l = some a
  | [], _, h => by simp at h
  | (k', a') :: rest, hp, h => by
    obtain ⟨hhead, htail⟩ := List.pairwise_cons.1 hp
    rcases List.mem_cons.1 h with h | h
    · cases h; simp [findIn]
    · have hne : k ≠ k' := (KeyOrder.ne_of_before (hhead _ h)).symm
      simp [findIn, hne, findIn_of_mem htail h]

/-- A strictly increasing entry list is determined by what it answers. -/
theorem eq_of_findIn_eq :
    ∀ {l m : List (κ × α)}, l.Pairwise (fun x y => KeyOrder.before x.1 y.1 = true) →
      m.Pairwise (fun x y => KeyOrder.before x.1 y.1 = true) →
      (∀ k, findIn k l = findIn k m) → l = m
  | [], [], _, _, _ => rfl
  | [], (k, a) :: m, _, _, h => by have := h k; simp [findIn] at this
  | (k, a) :: l, [], _, _, h => by have := h k; simp [findIn] at this
  | (k₁, a₁) :: l, (k₂, a₂) :: m, hl, hm, h => by
    obtain ⟨hl₁, hl₂⟩ := List.pairwise_cons.1 hl
    obtain ⟨hm₁, hm₂⟩ := List.pairwise_cons.1 hm
    have hkey : k₁ = k₂ := by
      by_cases hk : k₁ = k₂
      · exact hk
      exfalso
      have h₁ : findIn k₁ m = some a₁ := by
        have := h k₁
        simpa [findIn, hk, eq_comm] using this
      have h₂ : findIn k₂ l = some a₂ := by
        have := h k₂
        simpa [findIn, Ne.symm hk, eq_comm] using this
      have g₁ : KeyOrder.before k₂ k₁ = true := hm₁ _ (mem_of_findIn h₁)
      have g₂ : KeyOrder.before k₁ k₂ = true := hl₁ _ (mem_of_findIn h₂)
      exact KeyOrder.ne_of_before (KeyOrder.before_trans g₁ g₂) rfl
    subst hkey
    have hval : a₁ = a₂ := by
      have := h k₁
      simpa [findIn] using this
    subst hval
    have htail : l = m := by
      refine eq_of_findIn_eq hl₂ hm₂ fun k => ?_
      by_cases hk : k = k₁
      · subst hk
        rw [findIn_eq_none fun p hp => KeyOrder.ne_of_before (hl₁ p hp),
          findIn_eq_none fun p hp => KeyOrder.ne_of_before (hm₁ p hp)]
      · have := h k
        simpa [findIn, hk] using this
    rw [htail]

/-! ## The map -/

/-- The map without bindings. -/
def empty : OrderedMap κ α := ⟨[], .nil⟩

/-- The value bound to a key. -/
def get? (m : OrderedMap κ α) (k : κ) : Option α := findIn k m.entries

/-- Is the key bound? -/
def contains (m : OrderedMap κ α) (k : κ) : Bool := (m.get? k).isSome

/-- Binds a key, replacing its earlier binding. -/
def insert (m : OrderedMap κ α) (k : κ) (a : α) : OrderedMap κ α :=
  ⟨placeIn k a m.entries, placeIn_increasing k a m.increasing⟩

/-- Binds each pair in turn, so that the last binding of a key stays. -/
def insertAll (m : OrderedMap κ α) (pairs : List (κ × α)) : OrderedMap κ α :=
  pairs.foldl (fun m p => m.insert p.1 p.2) m

/-- The bindings of both maps, those of the second over those of the first. -/
def overlay (m n : OrderedMap κ α) : OrderedMap κ α := m.insertAll n.entries

/-- The map with the given bindings, the last binding of a key winning. -/
def ofList (pairs : List (κ × α)) : OrderedMap κ α := empty.insertAll pairs

/-- The bound keys in increasing order. -/
def keys (m : OrderedMap κ α) : List κ := m.entries.map (·.1)

/-- The number of bindings. -/
def size (m : OrderedMap κ α) : Nat := m.entries.length

/-- Is nothing bound? -/
def isEmpty (m : OrderedMap κ α) : Bool := m.entries.isEmpty

/-- Keeps the bindings whose key passes the test. -/
def filter (m : OrderedMap κ α) (keep : κ → Bool) : OrderedMap κ α :=
  ⟨m.entries.filter (fun p => keep p.1), m.increasing.filter _⟩

@[simp] theorem get?_empty (k : κ) : (empty : OrderedMap κ α).get? k = none := rfl

@[simp] theorem get?_insert (m : OrderedMap κ α) (k k' : κ) (a : α) :
    (m.insert k a).get? k' = if k' = k then some a else m.get? k' :=
  findIn_placeIn k k' a m.entries

/-- No key is bound twice. -/
theorem distinct (m : OrderedMap κ α) : m.entries.Pairwise fun x y => x.1 ≠ y.1 :=
  m.increasing.imp KeyOrder.ne_of_before

theorem get?_insertAll (m : OrderedMap κ α) {l : List (κ × α)}
    (hl : l.Pairwise fun x y => x.1 ≠ y.1) (k : κ) :
    (m.insertAll l).get? k = (findIn k l).or (m.get? k) := by
  induction l generalizing m with
  | nil => rfl
  | cons p rest ih =>
    obtain ⟨k', a⟩ := p
    obtain ⟨hhead, htail⟩ := List.pairwise_cons.1 hl
    show ((m.insert k' a).insertAll rest).get? k = _
    rw [ih _ htail, get?_insert, findIn]
    by_cases hk : k = k'
    · subst hk
      rw [findIn_eq_none hhead, if_pos rfl, if_pos rfl]
      rfl
    · rw [if_neg hk, if_neg hk]

theorem get?_insertAll_of_ne {m : OrderedMap κ α} {pairs : List (κ × α)} {k : κ}
    (h : ∀ p ∈ pairs, p.1 ≠ k) : (m.insertAll pairs).get? k = m.get? k := by
  induction pairs generalizing m with
  | nil => rfl
  | cons p rest ih =>
    show ((m.insert p.1 p.2).insertAll rest).get? k = m.get? k
    rw [ih fun q hq => h q (List.mem_cons_of_mem _ hq), get?_insert,
      if_neg (h p List.mem_cons_self).symm]

theorem get?_insertAll_of_mem {m : OrderedMap κ α} {pairs : List (κ × α)} {k : κ} {a : α}
    (hmem : (k, a) ∈ pairs ∨ m.get? k = some a) (h : ∀ p ∈ pairs, p.1 = k → p.2 = a) :
    (m.insertAll pairs).get? k = some a := by
  induction pairs generalizing m with
  | nil => exact hmem.resolve_left List.not_mem_nil
  | cons p rest ih =>
    refine ih ?_ fun q hq => h q (List.mem_cons_of_mem _ hq)
    rw [get?_insert]
    by_cases hk : k = p.1
    · rw [if_pos hk, h p List.mem_cons_self hk.symm]
      exact .inr rfl
    · rw [if_neg hk]
      refine hmem.imp_left fun hmem => (List.mem_cons.1 hmem).resolve_left fun hp => hk ?_
      rw [← hp]

/-- A key that is not listed is not bound. -/
theorem get?_ofList_of_ne {pairs : List (κ × α)} {k : κ} (h : ∀ p ∈ pairs, p.1 ≠ k) :
    (ofList pairs).get? k = none :=
  get?_insertAll_of_ne h

/-- A key that is listed with one value only is bound to it. -/
theorem get?_ofList_of_mem {pairs : List (κ × α)} {k : κ} {a : α} (hmem : (k, a) ∈ pairs)
    (h : ∀ p ∈ pairs, p.1 = k → p.2 = a) : (ofList pairs).get? k = some a :=
  get?_insertAll_of_mem (.inl hmem) h

/-- A list without repeated keys is a map already. -/
theorem get?_ofList {pairs : List (κ × α)} (h : pairs.Pairwise fun x y => x.1 ≠ y.1) (k : κ) :
    (ofList pairs).get? k = findIn k pairs :=
  (get?_insertAll empty h k).trans (by rw [get?_empty, Option.or_none])

theorem get?_overlay (m n : OrderedMap κ α) (k : κ) :
    (m.overlay n).get? k = (n.get? k).or (m.get? k) := get?_insertAll m n.distinct k

theorem get?_filter (m : OrderedMap κ α) (keep : κ → Bool) (k : κ) :
    (m.filter keep).get? k = if keep k then m.get? k else none := by
  show findIn k (m.entries.filter _) = if keep k then findIn k m.entries else none
  induction m.entries with
  | nil => simp [findIn]
  | cons p rest ih =>
    obtain ⟨k', a⟩ := p
    by_cases hk : k = k'
    · subst hk
      by_cases h : keep k <;> simp [findIn, h]
      · simpa [h] using ih
    · by_cases h : keep k' <;> simp [findIn, h, hk, ih]

theorem mem_entries_iff (m : OrderedMap κ α) (k : κ) (a : α) :
    (k, a) ∈ m.entries ↔ m.get? k = some a :=
  ⟨findIn_of_mem m.increasing, mem_of_findIn⟩

theorem contains_iff (m : OrderedMap κ α) (k : κ) : m.contains k = true ↔ k ∈ m.keys := by
  simp only [contains, keys, Option.isSome_iff_exists, List.mem_map, Prod.exists]
  constructor
  · rintro ⟨a, h⟩
    exact ⟨k, a, (m.mem_entries_iff k a).2 h, rfl⟩
  · rintro ⟨k', a, h, rfl⟩
    exact ⟨a, (m.mem_entries_iff k' a).1 h⟩

theorem contains_eq_false_iff {m : OrderedMap κ α} {k : κ} :
    m.contains k = false ↔ m.get? k = none :=
  Option.isSome_eq_false_iff.trans Option.isNone_iff_eq_none

@[simp] theorem contains_insert (m : OrderedMap κ α) (k k' : κ) (a : α) :
    (m.insert k a).contains k' = (decide (k' = k) || m.contains k') := by
  by_cases h : k' = k <;> simp [contains, h]

theorem contains_insertAll_iff {m : OrderedMap κ α} {pairs : List (κ × α)} {k : κ} :
    (m.insertAll pairs).contains k = true ↔ k ∈ pairs.map (·.1) ∨ m.contains k = true := by
  induction pairs generalizing m with
  | nil => simp [insertAll]
  | cons p rest ih =>
    show ((m.insert p.1 p.2).insertAll rest).contains k = true ↔ _
    rw [ih, contains_insert, Bool.or_eq_true, decide_eq_true_iff, List.map_cons, List.mem_cons,
      or_left_comm, or_assoc]

/-- The keys that are bound are those that are listed. -/
theorem contains_ofList_iff {pairs : List (κ × α)} {k : κ} :
    (ofList pairs).contains k = true ↔ k ∈ pairs.map (·.1) :=
  contains_insertAll_iff.trans (or_iff_left Bool.false_ne_true)

theorem keys_increasing (m : OrderedMap κ α) :
    m.keys.Pairwise (fun a b => KeyOrder.before a b = true) :=
  List.pairwise_map.2 m.increasing

theorem mem_keys_of_mem {m : OrderedMap κ α} {p : κ × α} (h : p ∈ m.entries) : p.1 ∈ m.keys :=
  List.mem_map.2 ⟨p, h, rfl⟩

/-! ### Before and after one key -/

section Around

variable {m : OrderedMap κ α} {done rest : List (κ × α)} {key : κ} {a : α}

theorem before_of_entries (h : m.entries = done ++ (key, a) :: rest) :
    (∀ p ∈ done, KeyOrder.before p.1 key = true) ∧ ∀ p ∈ rest, KeyOrder.before key p.1 = true := by
  have hinc := m.increasing
  rw [h, List.pairwise_append] at hinc
  obtain ⟨-, hrest, hdone⟩ := hinc
  exact ⟨fun p hp => hdone p hp (key, a) List.mem_cons_self, (List.pairwise_cons.1 hrest).1⟩

theorem mem_keys_before {k : κ} (h : m.entries = done ++ (key, a) :: rest) :
    k ∈ done.map (·.1) ↔ k ∈ m.keys ∧ KeyOrder.before k key = true := by
  obtain ⟨hdone, hrest⟩ := before_of_entries h
  rw [keys, h, List.map_append, List.mem_append, List.map_cons, List.mem_cons]
  constructor
  · intro hk
    obtain ⟨p, hp, rfl⟩ := List.mem_map.1 hk
    exact ⟨.inl hk, hdone p hp⟩
  · rintro ⟨hk | rfl | hk, hbefore⟩
    · exact hk
    · rw [KeyOrder.before_irrefl] at hbefore
      cases hbefore
    · obtain ⟨p, hp, rfl⟩ := List.mem_map.1 hk
      rw [KeyOrder.not_before_of_before (hrest p hp)] at hbefore
      cases hbefore

/-- The bindings of smaller keys. -/
theorem entries_filter_before (h : m.entries = done ++ (key, a) :: rest) :
    (m.filter (KeyOrder.before · key)).entries = done := by
  obtain ⟨hdone, hrest⟩ := before_of_entries h
  have hkept : done.filter (fun p => KeyOrder.before p.1 key) = done :=
    List.filter_eq_self.2 hdone
  have hleft : rest.filter (fun p => KeyOrder.before p.1 key) = [] := by
    refine List.filter_eq_nil_iff.2 fun p hp => ?_
    rw [KeyOrder.not_before_of_before (hrest p hp)]
    exact Bool.false_ne_true
  show m.entries.filter (fun p => KeyOrder.before p.1 key) = done
  rw [h, List.filter_append, List.filter_cons, KeyOrder.before_irrefl, hkept, hleft]
  simp

/-- The bindings of keys that are not greater. -/
theorem entries_filter_upto (h : m.entries = done ++ (key, a) :: rest) :
    (m.filter (!KeyOrder.before key ·)).entries = done ++ [(key, a)] := by
  obtain ⟨hdone, hrest⟩ := before_of_entries h
  have hkept : done.filter (fun p => !KeyOrder.before key p.1) = done := by
    refine List.filter_eq_self.2 fun p hp => ?_
    rw [KeyOrder.not_before_of_before (hdone p hp)]
    rfl
  have hleft : rest.filter (fun p => !KeyOrder.before key p.1) = [] := by
    refine List.filter_eq_nil_iff.2 fun p hp => ?_
    rw [hrest p hp]
    exact Bool.false_ne_true
  show m.entries.filter (fun p => !KeyOrder.before key p.1) = done ++ [(key, a)]
  rw [h, List.filter_append, List.filter_cons, KeyOrder.before_irrefl, hkept, hleft]
  rfl

end Around

/-- Two maps that answer alike are equal. -/
theorem ext_get? {m n : OrderedMap κ α} (h : ∀ k, m.get? k = n.get? k) : m = n := by
  obtain ⟨l, hl⟩ := m
  obtain ⟨l', hl'⟩ := n
  have : l = l' := eq_of_findIn_eq hl hl' h
  subst this
  rfl

theorem mem_keys_overlay {m n : OrderedMap κ α} {k : κ} :
    k ∈ (m.overlay n).keys ↔ k ∈ m.keys ∨ k ∈ n.keys := by
  rw [← contains_iff, ← contains_iff, ← contains_iff, contains, contains, contains, get?_overlay,
    Option.isSome_or, Bool.or_eq_true, or_comm]

theorem empty_overlay (m : OrderedMap κ α) : empty.overlay m = m :=
  ext_get? fun k => by rw [get?_overlay, get?_empty, Option.or_none]

end OrderedMap
end KernelArchive
