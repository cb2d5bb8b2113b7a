import Mathlib.Algebra.Ring.Nat

/-!
# Run — executions of a guarded step function

A system of several threads is a function `step : σ → ℓ → Option σ`: a label
names one atomic step of one thread, and `none` means that the step is not
enabled. An interleaving is a list of labels.

* `exec` performs the labels in order;
* `Meets` says that every step of a run is taken from a state that meets a
  condition;
* `invariant` and `invariant_of_meets` are the rules for safety: what one step
  keeps, a run keeps; `foldlM_ok` is the same rule for a loop that can fail;
* `exec_project` takes a run to a part of the state, and `exec_sum` adds up what
  the single steps count.
-/

namespace Run

variable {σ ℓ : Type}

/-- The state after a list of steps, `none` if one of them is not enabled. -/
def exec (step : σ → ℓ → Option σ) : σ → List ℓ → Option σ
  | s, [] => some s
  | s, l :: ls =>
      match step s l with
      | none => none
      | some s' => exec step s' ls

/-- Every step of the run meets `cond` in the state before it. -/
def Meets (step : σ → ℓ → Option σ) (cond : σ → ℓ → Prop) : σ → List ℓ → Prop
  | _, [] => True
  | s, l :: ls => cond s l ∧ ∀ s', step s l = some s' → Meets step cond s' ls

variable {step : σ → ℓ → Option σ}

/-- On a given run the condition is checked step by step. -/
instance decidableMeets {cond : σ → ℓ → Prop} [∀ s l, Decidable (cond s l)] :
    (s : σ) → (ls : List ℓ) → Decidable (Meets step cond s ls)
  | _, [] => .isTrue trivial
  | s, l :: ls =>
      match hl : step s l with
      | none => decidable_of_iff (cond s l) (by simp [Meets, hl])
      | some s' =>
          have : Decidable (Meets step cond s' ls) := decidableMeets s' ls
          decidable_of_iff (cond s l ∧ Meets step cond s' ls) (by simp [Meets, hl])

theorem exec_cons {s s'' : σ} {l : ℓ} {ls : List ℓ} (h : exec step s (l :: ls) = some s'') :
    ∃ s', step s l = some s' ∧ exec step s' ls = some s'' := by
  rcases hl : step s l with _ | s'
  · simp [exec, hl] at h
  · exact ⟨s', rfl, by simpa [exec, hl] using h⟩

theorem exec_append {s s' : σ} {ls ls' : List ℓ} (h : exec step s ls = some s') :
    exec step s (ls ++ ls') = exec step s' ls' := by
  induction ls generalizing s with
  | nil =>
    simp only [exec, Option.some.injEq] at h
    rw [h, List.nil_append]
  | cons l ls ih =>
    rcases exec_cons h with ⟨t, hl, hls⟩
    rw [List.cons_append, exec, hl]
    exact ih hls

/-- A step function that is always enabled runs through every list of labels. -/
theorem exists_exec_of_total {f : σ → ℓ → σ} (hf : ∀ s l, step s l = some (f s l)) (s : σ)
    (ls : List ℓ) : ∃ s', exec step s ls = some s' := by
  induction ls generalizing s with
  | nil => exact ⟨s, rfl⟩
  | cons l ls ih =>
    rw [exec, hf]
    exact ih (f s l)

/-- A property that steps meeting `cond` keep holds at the end of every run
whose steps meet `cond`. -/
theorem invariant_of_meets {cond : σ → ℓ → Prop} {Inv : σ → Prop}
    (hstep : ∀ s l s', Inv s → cond s l → step s l = some s' → Inv s')
    {s s' : σ} {ls : List ℓ} (hs : Inv s) (hmeets : Meets step cond s ls)
    (hrun : exec step s ls = some s') : Inv s' := by
  induction ls generalizing s with
  | nil =>
    simp only [exec, Option.some.injEq] at hrun
    exact hrun ▸ hs
  | cons l ls ih =>
    rcases exec_cons hrun with ⟨t, hl, hls⟩
    exact ih (hstep s l t hs hmeets.1 hl) (hmeets.2 t hl) hls

theorem meets_of_append {cond : σ → ℓ → Prop} {s : σ} {ls ls' : List ℓ}
    (h : Meets step cond s (ls ++ ls')) : Meets step cond s ls := by
  induction ls generalizing s with
  | nil => trivial
  | cons l ls ih =>
    refine ⟨h.1, ?_⟩
    intro t ht
    exact ih (h.2 t ht)

/-- A condition on the labels alone. -/
theorem meets_of_forall {ok : ℓ → Prop} {s : σ} {ls : List ℓ} (h : ∀ l ∈ ls, ok l) :
    Meets step (fun _ l => ok l) s ls := by
  induction ls generalizing s with
  | nil => trivial
  | cons l ls ih =>
    refine ⟨h l List.mem_cons_self, ?_⟩
    intro s' _
    exact ih fun l' hl' => h l' (List.mem_cons_of_mem _ hl')

/-- A property that every step keeps holds at the end of every run. -/
theorem invariant {Inv : σ → Prop} (hstep : ∀ s l s', Inv s → step s l = some s' → Inv s')
    {s s' : σ} {ls : List ℓ} (hs : Inv s) (hrun : exec step s ls = some s') : Inv s' :=
  invariant_of_meets (fun s l s' hi _ hl => hstep s l s' hi hl) hs
    (meets_of_forall fun _ _ => trivial) hrun

/-- A property that holds after a step from `Inv` exactly when the step meets `cond`
holds in every state of a run exactly when all steps meet `cond`. -/
theorem always_iff_meets {cond : σ → ℓ → Prop} {Inv P : σ → Prop} (hinv : ∀ s, Inv s → P s)
    (hkeep : ∀ s l s', Inv s → cond s l → step s l = some s' → Inv s')
    (hstep : ∀ s l s', Inv s → step s l = some s' → (P s' ↔ cond s l))
    {s s'' : σ} {ls : List ℓ} (hs : Inv s) (hrun : exec step s ls = some s'') :
    (∀ ls' t, ls' <+: ls → exec step s ls' = some t → P t) ↔ Meets step cond s ls := by
  constructor
  · intro halways
    -- each step is the end of a run, where `P` holds only if the step met the condition
    induction ls generalizing s with
    | nil => trivial
    | cons l ls ih =>
      rcases exec_cons hrun with ⟨s', hl, hls⟩
      have hsingle : exec step s [l] = some s' := by simp only [exec, hl]
      have hcond : cond s l := by
        refine (hstep s l s' hs hl).mp (halways [l] s' ?_ hsingle)
        exact ⟨ls, rfl⟩
      refine ⟨hcond, ?_⟩
      intro t ht
      cases hl.symm.trans ht
      refine ih (hkeep s l s' hs hcond hl) hls ?_
      intro ls' t hpre ht
      refine halways (l :: ls') t ?_ ?_
      · exact List.cons_prefix_cons.mpr ⟨rfl, hpre⟩
      · rw [exec, hl]
        exact ht
  · intro hmeets ls' t hpre ht
    rcases hpre with ⟨rest, rfl⟩
    exact hinv t (invariant_of_meets hkeep hs (meets_of_append hmeets) ht)

/-- What projects steps to steps projects runs to runs. -/
theorem exec_project {τ : Type} {step' : τ → ℓ → Option τ} {proj : τ → σ}
    (hstep : ∀ t l t', step' t l = some t' → step (proj t) l = some (proj t')) {t t'' : τ}
    {ls : List ℓ} (hrun : exec step' t ls = some t'') :
    exec step (proj t) ls = some (proj t'') := by
  induction ls generalizing t with
  | nil =>
    cases hrun
    rfl
  | cons l ls ih =>
    rcases exec_cons hrun with ⟨t', hl, hls⟩
    rw [exec, hstep t l t' hl]
    exact ih hls

/-- A quantity that every step raises by the weight of its label is raised by a
run by the sum of the weights. -/
theorem exec_sum {count : σ → Nat} {weight : ℓ → Nat}
    (hstep : ∀ s l s', step s l = some s' → count s' = count s + weight l) {s s'' : σ}
    {ls : List ℓ} (hrun : exec step s ls = some s'') :
    count s'' = count s + (ls.map weight).sum := by
  induction ls generalizing s with
  | nil =>
    cases hrun
    rfl
  | cons l ls ih =>
    rcases exec_cons hrun with ⟨s', hl, hls⟩
    rw [ih hls, hstep s l s' hl, List.map_cons, List.sum_cons, Nat.add_assoc]

/-- A property that every turn keeps holds of what a loop with errors returns. -/
theorem foldlM_ok {ε α β : Type} {f : β → α → Except ε β} {P : β → Prop}
    (hstep : ∀ b a b', P b → f b a = .ok b' → P b') (l : List α) {b b' : β} (hb : P b)
    (h : l.foldlM f b = .ok b') : P b' := by
  induction l generalizing b with
  | nil =>
    cases h
    exact hb
  | cons a l ih =>
    rw [List.foldlM_cons] at h
    rcases hf : f b a with e | c
    · rw [hf] at h
      cases h
    · rw [hf] at h
      exact ih (hstep b a c hb hf) h

end Run
