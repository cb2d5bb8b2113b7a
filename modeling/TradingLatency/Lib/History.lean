import Mathlib.Data.List.Basic

/-!
# History — the last event of a kind

A history is a list of events, the latest at the end. `LastIs about a l` says that
`a` is the last event of `l` that is about a certain thing.

* `lastIs_concat`: how one more event changes the last one;
* `next_unique`: the next event about the thing is unique.
-/

namespace History

variable {α : Type} {about : α → Prop}

/-- The event `a` is in the history, and nothing behind it is about the thing. -/
def LastIs (about : α → Prop) (a : α) (l : List α) : Prop :=
  ∃ before behind, l = before ++ a :: behind ∧ ∀ c ∈ behind, ¬ about c

theorem not_lastIs_nil (a : α) : ¬ LastIs about a [] := by
  rintro ⟨before, behind, hl, -⟩
  simp at hl

theorem lastIs_concat {a c : α} {l : List α} :
    LastIs about a (l ++ [c]) ↔ c = a ∨ ¬ about c ∧ LastIs about a l := by
  constructor
  · rintro ⟨before, behind, hl, hbehind⟩
    rcases List.eq_nil_or_concat behind with rfl | ⟨rest, d, rfl⟩
    · have hlast := (List.append_inj' hl rfl).2
      exact Or.inl (List.singleton_inj.mp hlast)
    · have hsplit : l ++ [c] = (before ++ a :: rest) ++ [d] := by simpa using hl
      rcases List.append_inj' hsplit rfl with ⟨hinit, hlast⟩
      have hd : c = d := List.singleton_inj.mp hlast
      refine Or.inr ⟨hbehind c (by simp [hd]), before, rest, hinit, ?_⟩
      intro e he
      exact hbehind e (by simp [he])
  · rintro (rfl | ⟨hc, before, behind, rfl, hbehind⟩)
    · exact ⟨l, [], rfl, by simp⟩
    · refine ⟨before, behind ++ [c], by simp, ?_⟩
      intro d hd
      rcases List.mem_append.mp hd with hd | hd
      · exact hbehind d hd
      · rw [List.mem_singleton.mp hd]
        exact hc

/-- Two stretches without an event about the thing, each followed by one, are the
same stretch. -/
theorem next_unique {mid mid' post post' : List α} {a a' : α} (ha : about a) (ha' : about a')
    (hmid : ∀ c ∈ mid, ¬ about c) (hmid' : ∀ c ∈ mid', ¬ about c)
    (heq : mid ++ a :: post = mid' ++ a' :: post') : mid = mid' := by
  induction mid generalizing mid' with
  | nil =>
    cases mid' with
    | nil => rfl
    | cons c mid' =>
      rw [List.nil_append, List.cons_append, List.cons.injEq] at heq
      exact absurd (heq.1 ▸ ha) (hmid' c (by simp))
  | cons d mid ih =>
    cases mid' with
    | nil =>
      rw [List.nil_append, List.cons_append, List.cons.injEq] at heq
      exact absurd (heq.1 ▸ ha') (hmid d (by simp))
    | cons c mid' =>
      rw [List.cons_append, List.cons_append, List.cons.injEq] at heq
      rw [heq.1, ih (fun e he => hmid e (by simp [he])) (fun e he => hmid' e (by simp [he])) heq.2]

end History
