import TradingLatency.Lib.Run

/-!
# Duplex — two parties and two FIFO channels

The left party takes the oldest message on its way to the left, and what it sends
in answer goes to the right; the right party likewise. Each handler has an input
of its own for what the party reads from its surroundings, and `none` says that
the message is not taken.

In many protocols the parties take turns: a message is on its way to one side, or
nothing is. `turn_invariant` reduces an invariant of all runs to what one handler
makes of one message.
-/

/-- The state of two parties, and the messages on their way. -/
structure Duplex (α β μ : Type) where
  left : α
  right : β
  toLeft : List μ
  toRight : List μ

namespace Duplex

variable {α β μ ι κ : Type}

inductive Label (ι κ : Type) where
  | left (input : ι)
  | right (input : κ)

/-- One party handles one message. -/
def step (handleLeft : α → ι → μ → Option (α × List μ)) (handleRight : β → κ → μ → Option (β × List μ))
    (s : Duplex α β μ) : Label ι κ → Option (Duplex α β μ)
  | .left input =>
      match s.toLeft with
      | [] => none
      | m :: rest => (handleLeft s.left input m).map fun r =>
          { s with left := r.1, toLeft := rest, toRight := s.toRight ++ r.2 }
  | .right input =>
      match s.toRight with
      | [] => none
      | m :: rest => (handleRight s.right input m).map fun r =>
          { s with right := r.1, toRight := rest, toLeft := s.toLeft ++ r.2 }

/-- Whose turn it is: the message on its way to a party, or none at all. -/
inductive Turn (μ : Type) where
  | quiet
  | left (m : μ)
  | right (m : μ)

def Turn.toLeft : Turn μ → List μ
  | left m => [m]
  | _ => []

def Turn.toRight : Turn μ → List μ
  | right m => [m]
  | _ => []

/-- The parties take turns, and what holds of them depends on the turn. -/
def InTurn (P : α → β → Turn μ → Prop) (s : Duplex α β μ) : Prop :=
  ∃ t : Turn μ, s.toLeft = t.toLeft ∧ s.toRight = t.toRight ∧ P s.left s.right t

/-- What the left party sends gives the turn to the right. -/
def Turn.ofLeft : List μ → Option (Turn μ)
  | [] => some quiet
  | [m] => some (right m)
  | _ => none

/-- What the right party sends gives the turn to the left. -/
def Turn.ofRight : List μ → Option (Turn μ)
  | [] => some quiet
  | [m] => some (left m)
  | _ => none

theorem Turn.ofLeft_eq_some {out : List μ} {t : Turn μ} (h : ofLeft out = some t) :
    t.toLeft = [] ∧ t.toRight = out := by
  match out with
  | [] =>
    cases h
    exact ⟨rfl, rfl⟩
  | [m] =>
    cases h
    exact ⟨rfl, rfl⟩
  | _ :: _ :: _ => cases h

theorem Turn.ofRight_eq_some {out : List μ} {t : Turn μ} (h : ofRight out = some t) :
    t.toLeft = out ∧ t.toRight = [] := by
  match out with
  | [] =>
    cases h
    exact ⟨rfl, rfl⟩
  | [m] =>
    cases h
    exact ⟨rfl, rfl⟩
  | _ :: _ :: _ => cases h

variable {handleLeft : α → ι → μ → Option (α × List μ)}
  {handleRight : β → κ → μ → Option (β × List μ)} {P : α → β → Turn μ → Prop}

/-- If each handler makes of the message of its turn the next turn, the parties
take turns in every run whose inputs are all in order. -/
theorem turn_invariant {ok : Label ι κ → Prop}
    (hleft : ∀ a b m input a' out, ok (.left input) → P a b (.left m) →
      handleLeft a input m = some (a', out) → ∃ t, Turn.ofLeft out = some t ∧ P a' b t)
    (hright : ∀ a b m input b' out, ok (.right input) → P a b (.right m) →
      handleRight b input m = some (b', out) → ∃ t, Turn.ofRight out = some t ∧ P a b' t)
    {s s' : Duplex α β μ} {ls : List (Label ι κ)} (hs : InTurn P s) (hok : ∀ l ∈ ls, ok l)
    (hrun : Run.exec (step handleLeft handleRight) s ls = some s') : InTurn P s' := by
  refine Run.invariant_of_meets ?_ hs (Run.meets_of_forall hok) hrun
  -- a party can only take the one message that is on its way to it
  rintro ⟨a, b, toLeft, toRight⟩ l s' ⟨t, htl, htr, hP⟩ hl h
  simp only at htl htr hP
  subst htl htr
  cases l with
  | left input =>
    cases t with
    | left m =>
      rcases Option.map_eq_some_iff.mp h with ⟨⟨a', out⟩, hhandle, rfl⟩
      rcases hleft a b m input a' out hl hP hhandle with ⟨t', ht', hP'⟩
      rcases Turn.ofLeft_eq_some ht' with ⟨hempty, hout⟩
      exact ⟨t', hempty.symm, hout.symm, hP'⟩
    | quiet => cases h
    | right m => cases h
  | right input =>
    cases t with
    | right m =>
      rcases Option.map_eq_some_iff.mp h with ⟨⟨b', out⟩, hhandle, rfl⟩
      rcases hright a b m input b' out hl hP hhandle with ⟨t', ht', hP'⟩
      rcases Turn.ofRight_eq_some ht' with ⟨hout, hempty⟩
      exact ⟨t', hout.symm, hempty.symm, hP'⟩
    | quiet => cases h
    | left m => cases h

end Duplex
