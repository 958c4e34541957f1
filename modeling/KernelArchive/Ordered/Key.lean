/-!
# Orders by which keys are listed

* `KeyOrder`: a strict linear order on the keys of a map.
* Strings are ordered by their code points, which is also the order of their bytes; lists are
  ordered by the first place where they differ, a list before its extensions.
-/

namespace KernelArchive
set_option autoImplicit false

universe u

/-- A strict linear order on keys. -/
class KeyOrder (κ : Type u) where
  /-- Does one key stand before another? -/
  before : κ → κ → Bool
  before_irrefl : ∀ a, before a a = false
  before_trans : ∀ {a b c}, before a b = true → before b c = true → before a c = true
  /-- Of two different keys one stands before the other. -/
  eq_of_not_before : ∀ {a b}, before a b = false → before b a = false → a = b

namespace KeyOrder

variable {κ : Type u} [KeyOrder κ]

theorem ne_of_before {a b : κ} (h : before a b = true) : a ≠ b := by
  rintro rfl
  rw [before_irrefl] at h
  exact Bool.false_ne_true h

theorem not_before_of_before {a b : κ} (h : before a b = true) : before b a = false := by
  cases hb : before b a with
  | false => rfl
  | true => exact absurd rfl (ne_of_before (before_trans h hb))

theorem before_of_not_before {a b : κ} (h : before a b = false) (hne : a ≠ b) :
    before b a = true := by
  cases hb : before b a with
  | true => rfl
  | false => exact absurd (eq_of_not_before h hb) hne

/-! ## Strings -/

instance : KeyOrder String where
  before a b := decide (a < b)
  before_irrefl a := decide_eq_false (String.lt_irrefl a)
  before_trans h h' := decide_eq_true (String.lt_trans (of_decide_eq_true h) (of_decide_eq_true h'))
  eq_of_not_before h h' :=
    String.le_antisymm (String.not_lt.1 (of_decide_eq_false h'))
      (String.not_lt.1 (of_decide_eq_false h))

theorem before_string_iff {a b : String} : before a b = true ↔ a < b := decide_eq_true_iff

/-! ## Lists -/

/-- Does a list stand before another? The first place where they differ decides. -/
def listBefore : List κ → List κ → Bool
  | _, [] => false
  | [], _ :: _ => true
  | a :: l, b :: m => before a b || (!before b a && listBefore l m)

theorem listBefore_irrefl (l : List κ) : listBefore l l = false := by
  induction l with
  | nil => rfl
  | cons a l ih => simp [listBefore, before_irrefl, ih]

theorem listBefore_cons_iff {a b : κ} {l m : List κ} :
    listBefore (a :: l) (b :: m) = true ↔ before a b = true ∨ (a = b ∧ listBefore l m = true) := by
  simp only [listBefore, Bool.or_eq_true, Bool.and_eq_true, Bool.not_eq_true']
  constructor
  · rintro (h | ⟨h, h'⟩)
    · exact .inl h
    · cases hab : before a b with
      | true => exact .inl rfl
      | false => exact .inr ⟨eq_of_not_before hab h, h'⟩
  · rintro (h | ⟨rfl, h⟩)
    · exact .inl h
    · exact .inr ⟨before_irrefl a, h⟩

theorem listBefore_trans :
    ∀ {l m n : List κ}, listBefore l m = true → listBefore m n = true → listBefore l n = true
  | _, [], _, h, _ => by simp [listBefore] at h
  | _, _ :: _, [], _, h => by simp [listBefore] at h
  | [], _ :: _, _ :: _, _, _ => rfl
  | a :: l, b :: m, c :: n, h, h' => by
    rw [listBefore_cons_iff] at h h' ⊢
    rcases h with h | ⟨rfl, h⟩
    · rcases h' with h' | ⟨rfl, -⟩
      · exact .inl (before_trans h h')
      · exact .inl h
    · rcases h' with h' | ⟨rfl, h'⟩
      · exact .inl h'
      · exact .inr ⟨rfl, listBefore_trans h h'⟩

theorem eq_of_not_listBefore :
    ∀ {l m : List κ}, listBefore l m = false → listBefore m l = false → l = m
  | [], [], _, _ => rfl
  | [], _ :: _, h, _ => by simp [listBefore] at h
  | _ :: _, [], _, h => by simp [listBefore] at h
  | a :: l, b :: m, h, h' => by
    have hab : a = b := by
      refine eq_of_not_before ?_ ?_
      · rw [Bool.eq_false_iff] at h ⊢
        exact fun hb => h (listBefore_cons_iff.2 (.inl hb))
      · rw [Bool.eq_false_iff] at h' ⊢
        exact fun hb => h' (listBefore_cons_iff.2 (.inl hb))
    subst hab
    have hlm : l = m := by
      refine eq_of_not_listBefore ?_ ?_
      · rw [Bool.eq_false_iff] at h ⊢
        exact fun hb => h (listBefore_cons_iff.2 (.inr ⟨rfl, hb⟩))
      · rw [Bool.eq_false_iff] at h' ⊢
        exact fun hb => h' (listBefore_cons_iff.2 (.inr ⟨rfl, hb⟩))
    rw [hlm]

instance : KeyOrder (List κ) where
  before := listBefore
  before_irrefl := listBefore_irrefl
  before_trans := listBefore_trans
  eq_of_not_before := eq_of_not_listBefore

end KeyOrder
end KernelArchive
