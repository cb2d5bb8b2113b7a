import Mathlib.Order.Defs.Unbundled
import Mathlib.Data.List.Basic
import Mathlib.Tactic.Tauto

/-!
# Sorted sets

A set that keeps its elements sorted by a comparison `lt`, such as `std::set`.
Elements of which neither is less than the other are the same element, so the
comparison has to be a strict total order for the set to be a set of its
elements (`mem_insert`, `mem_erase`, `nodup`).
-/

namespace TradingLatency

/-- A strictly ascending list. -/
structure SortedSet (α : Type) (lt : α → α → Prop) where
  elems : List α
  sorted : elems.Pairwise lt

namespace SortedSet

variable {α : Type} {lt : α → α → Prop} [DecidableRel lt]

def empty : SortedSet α lt := ⟨[], .nil⟩

/-- Insertion into a list; an element that is there stays. -/
def insertList (lt : α → α → Prop) [DecidableRel lt] (x : α) : List α → List α
  | [] => [x]
  | y :: ys => if lt x y then x :: y :: ys else if lt y x then y :: insertList lt x ys else y :: ys

def eraseList (lt : α → α → Prop) [DecidableRel lt] (x : α) : List α → List α
  | [] => []
  | y :: ys => if lt x y then y :: ys else if lt y x then y :: eraseList lt x ys else ys

theorem sublist_eraseList (x : α) (l : List α) : (eraseList lt x l).Sublist l := by
  induction l with
  | nil => exact .slnil
  | cons y ys ih =>
    unfold eraseList
    split
    · exact .refl _
    · split
      · exact ih.cons_cons y
      · exact List.sublist_cons_self y ys

variable [IsStrictTotalOrder α lt]

omit [DecidableRel lt] in
theorem eq_of_not_lt {x y : α} (hxy : ¬ lt x y) (hyx : ¬ lt y x) : x = y :=
  Std.Trichotomous.trichotomous x y hxy hyx

theorem mem_insertList {x z : α} (l : List α) : z ∈ insertList lt x l ↔ z = x ∨ z ∈ l := by
  induction l with
  | nil => simp [insertList]
  | cons y ys ih =>
    unfold insertList
    by_cases hxy : lt x y
    · rw [if_pos hxy, List.mem_cons]
    · rw [if_neg hxy]
      by_cases hyx : lt y x
      · rw [if_pos hyx, List.mem_cons, ih, List.mem_cons]
        tauto
      · -- the element is there already
        rw [if_neg hyx, eq_of_not_lt hxy hyx, List.mem_cons]
        tauto

theorem sorted_insertList (x : α) {l : List α} (h : l.Pairwise lt) :
    (insertList lt x l).Pairwise lt := by
  induction l with
  | nil => exact List.pairwise_singleton _ _
  | cons y ys ih =>
    rcases List.pairwise_cons.mp h with ⟨hy, hys⟩
    unfold insertList
    by_cases hxy : lt x y
    · rw [if_pos hxy]
      refine List.pairwise_cons.mpr ⟨?_, h⟩
      intro z hz
      rcases List.mem_cons.mp hz with rfl | hz
      · exact hxy
      · exact IsTrans.trans _ _ _ hxy (hy z hz)
    · rw [if_neg hxy]
      by_cases hyx : lt y x
      · rw [if_pos hyx]
        -- what is inserted further down is greater than `y` too
        refine List.pairwise_cons.mpr ⟨?_, ih hys⟩
        intro z hz
        rcases (mem_insertList ys).mp hz with rfl | hz
        · exact hyx
        · exact hy z hz
      · rw [if_neg hyx]
        exact h

theorem mem_eraseList {x z : α} {l : List α} (h : l.Pairwise lt) :
    z ∈ eraseList lt x l ↔ z ≠ x ∧ z ∈ l := by
  induction l with
  | nil => simp [eraseList]
  | cons y ys ih =>
    rcases List.pairwise_cons.mp h with ⟨hy, hys⟩
    unfold eraseList
    by_cases hxy : lt x y
    · -- everything from here on is greater than `x`
      have hall : ∀ w ∈ y :: ys, w ≠ x := by
        rintro w hw rfl
        rcases List.mem_cons.mp hw with rfl | hw
        · exact Std.Irrefl.irrefl _ hxy
        · exact Std.Irrefl.irrefl w (IsTrans.trans _ _ _ hxy (hy w hw))
      rw [if_pos hxy]
      exact ⟨fun hz => ⟨hall z hz, hz⟩, fun hz => hz.2⟩
    · rw [if_neg hxy]
      by_cases hyx : lt y x
      · have hne : y ≠ x := by
          rintro rfl
          exact Std.Irrefl.irrefl _ hyx
        rw [if_pos hyx, List.mem_cons, ih hys, List.mem_cons]
        constructor
        · rintro (rfl | ⟨hz, hmem⟩)
          · exact ⟨hne, .inl rfl⟩
          · exact ⟨hz, .inr hmem⟩
        · rintro ⟨hz, rfl | hmem⟩
          · exact .inl rfl
          · exact .inr ⟨hz, hmem⟩
      -- `x` itself, which is there once
      · have heq : x = y := eq_of_not_lt hxy hyx
        subst heq
        rw [if_neg hyx, List.mem_cons]
        constructor
        · intro hz
          refine ⟨?_, .inr hz⟩
          rintro rfl
          exact Std.Irrefl.irrefl _ (hy z hz)
        · rintro ⟨hz, rfl | hmem⟩
          · exact absurd rfl hz
          · exact hmem

/-- `set.insert(x)`. -/
def insert (s : SortedSet α lt) (x : α) : SortedSet α lt :=
  ⟨insertList lt x s.elems, sorted_insertList x s.sorted⟩

/-- `set.erase(x)`. -/
def erase (s : SortedSet α lt) (x : α) : SortedSet α lt :=
  ⟨eraseList lt x s.elems, s.sorted.sublist (sublist_eraseList x s.elems)⟩

theorem mem_insert {s : SortedSet α lt} {x z : α} :
    z ∈ (s.insert x).elems ↔ z = x ∨ z ∈ s.elems := mem_insertList _

theorem mem_erase {s : SortedSet α lt} {x z : α} :
    z ∈ (s.erase x).elems ↔ z ≠ x ∧ z ∈ s.elems := mem_eraseList s.sorted

omit [DecidableRel lt] in
/-- No element is there twice. -/
theorem nodup (s : SortedSet α lt) : s.elems.Nodup := by
  refine s.sorted.imp ?_
  rintro a b hab rfl
  exact Std.Irrefl.irrefl _ hab

end SortedSet

end TradingLatency
