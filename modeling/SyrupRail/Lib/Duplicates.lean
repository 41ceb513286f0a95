import Mathlib.Data.String.Basic
import Mathlib.Data.List.Perm.Basic

/-!
# Reductions that compare with the first element

A reduction over duplicates often takes the first element and asks whether the rest agree with it.
Its result does not depend on the order of the list: whether they agree is a symmetric statement
about all pairs (`Agree`), and the first element is taken only when they do. The lemmas say this for
the shapes in which such code is written: the test of the rest against the head, the head itself, a
search for a fixed value, and the least element.
-/

namespace Duplicates

variable {α β : Type*}

/-- All elements of the list have the same image under `f`. -/
def Agree (f : α → β) (l : List α) : Prop := ∀ x ∈ l, ∀ y ∈ l, f x = f y

/-- A list agrees when the rest agrees with the first element. -/
theorem agree_cons_iff {f : α → β} {a : α} {l : List α} :
    Agree f (a :: l) ↔ ∀ x ∈ l, f x = f a := by
  constructor
  · intro h x hx
    exact h x (List.mem_cons_of_mem a hx) a List.mem_cons_self
  · intro h
    have hhead : ∀ x ∈ a :: l, f x = f a := List.forall_mem_cons.mpr ⟨rfl, h⟩
    intro x hx y hy
    exact (hhead x hx).trans (hhead y hy).symm

/-- Agreement does not depend on the order. -/
theorem agree_perm {f : α → β} {l l' : List α} (h : l.Perm l') : Agree f l ↔ Agree f l' := by
  have hmem (x : α) : x ∈ l ↔ x ∈ l' := h.mem_iff
  unfold Agree
  simp only [hmem]

/-- The test of the rest against the first element, as a Boolean. -/
theorem any_bne_eq [BEq β] [LawfulBEq β] (f : α → β) {a b : α} {l l' : List α}
    (h : (a :: l).Perm (b :: l')) :
    (l.any fun x => f x != f a) = l'.any fun x => f x != f b := by
  have hiff (c : α) (k : List α) : (k.any fun x => f x != f c) = true ↔ ¬ Agree f (c :: k) := by
    rw [agree_cons_iff]
    simp
  rw [Bool.eq_iff_iff, hiff, hiff, agree_perm h]

/-- Where the rest agrees with the first element, the first elements of two orders have one
image. -/
theorem eq_of_any_bne_eq_false [BEq β] [LawfulBEq β] {f : α → β} {a b : α} {l l' : List α}
    (h : (a :: l).Perm (b :: l')) (hagree : (l.any fun x => f x != f a) = false) : f a = f b := by
  have hall : Agree f (a :: l) := by
    rw [agree_cons_iff]
    intro x hx
    simpa using List.any_eq_false.mp hagree x hx
  exact hall a List.mem_cons_self b (h.mem_iff.mpr List.mem_cons_self)

/-- The search for one value finds that value or nothing. -/
theorem find?_beq_perm [BEq α] [LawfulBEq α] {l l' : List α} (h : l.Perm l') (a : α) :
    (l.find? fun x => x == a) = l'.find? fun x => x == a := by
  have hfind (k : List α) (b : α) : (k.find? fun x => x == a) = some b ↔ a ∈ k ∧ a = b := by
    constructor
    · intro hk
      have hb : b = a := by simpa using List.find?_some hk
      exact ⟨hb ▸ List.mem_of_find?_eq_some hk, hb.symm⟩
    · rintro ⟨ha, rfl⟩
      cases hk : k.find? fun x => x == a with
      | none => exact absurd (List.find?_eq_none.mp hk a ha) (by simp)
      | some c =>
        have hc : c = a := by simpa using List.find?_some hk
        rw [hc]
  apply Option.ext
  intro b
  rw [hfind, hfind, h.mem_iff]

/-- The least element does not depend on the order. -/
theorem min?_perm [LinearOrder α] {l l' : List α} (h : l.Perm l') : l.min? = l'.min? := by
  cases hl : l.min? with
  | none =>
    rw [List.min?_eq_none_iff] at hl
    subst hl
    rw [← h.nil_eq]
    rfl
  | some a =>
    rw [List.min?_eq_some_iff] at hl
    symm
    rw [List.min?_eq_some_iff]
    exact ⟨h.mem_iff.mp hl.1, fun b hb => hl.2 b (h.mem_iff.mpr hb)⟩

end Duplicates
