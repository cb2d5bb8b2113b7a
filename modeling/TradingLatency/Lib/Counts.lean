import Mathlib.Algebra.Ring.Nat
import Mathlib.Data.List.Perm.Subperm

/-!
# Counts — totals of counters and of lists without repetitions

* `sum_modify_succ`: a histogram in which one bucket goes up by one;
* `countP_not_mem_add_length`: the elements of a list outside of a part of it.
-/

namespace Counts

theorem sum_modify_succ {l : List Nat} {bin : Nat} (h : bin < l.length) :
    (l.modify bin (· + 1)).sum = l.sum + 1 := by
  induction l generalizing bin with
  | nil => simp at h
  | cons a l ih =>
    cases bin with
    | zero =>
      rw [List.modify_zero_cons, List.sum_cons, List.sum_cons]
      omega
    | succ bin =>
      rw [List.modify_succ_cons, List.sum_cons, List.sum_cons, ih (by simpa using h)]
      omega

/-- What is outside of a part and what is in it are all elements. -/
theorem countP_not_mem_add_length {α : Type} [DecidableEq α] {l part : List α} (hl : l.Nodup)
    (hpart : part.Nodup) (hsub : part ⊆ l) :
    part.length + l.countP (fun a => decide (a ∉ part)) = l.length := by
  have hperm : (l.filter fun a => decide (a ∈ part)).Perm part := by
    rw [List.perm_ext_iff_of_nodup (hl.filter _) hpart]
    intro a
    simp only [List.mem_filter, decide_eq_true_eq]
    exact ⟨fun h => h.2, fun h => ⟨hsub h, h⟩⟩
  have hsplit := List.length_eq_countP_add_countP (fun a => decide (a ∈ part)) (l := l)
  rw [List.countP_eq_length_filter, hperm.length_eq] at hsplit
  rw [hsplit]
  congr 1
  apply List.countP_congr
  intro a _
  simp

end Counts
