import Mathlib.Algebra.Ring.Nat

/-!
# Recvmsg — control messages and the capacity of their buffer

`recvmsg` reads `msg_controllen` as the capacity of the control buffer and
overwrites it with the number of bytes that it has delivered; a control message
that does not fit is not delivered. A caller that does not set the field again
passes on what the last message has left of the capacity.

* `deliver` — the control messages of one message that fit;
* `delivered` — the number of their bytes;
* `receive` — both, which is one call of `recvmsg`.
-/

namespace Recvmsg

variable {κ : Type} (len : κ → Nat)

/-- The control messages that fit, one after the other. -/
def deliver : Nat → List κ → List κ
  | _, [] => []
  | capacity, c :: cs =>
      if len c ≤ capacity then c :: deliver (capacity - len c) cs else deliver capacity cs

/-- The number of bytes of control messages. -/
def delivered (cs : List κ) : Nat := (cs.map len).sum

/-- One call: the control messages, and the new value of `msg_controllen`. -/
def receive (controllen : Nat) (control : List κ) : List κ × Nat :=
  (deliver len controllen control, delivered len (deliver len controllen control))

variable {len}

/-- Control messages that fit together are all delivered. -/
theorem deliver_of_le {cs : List κ} {capacity : Nat} (h : delivered len cs ≤ capacity) :
    deliver len capacity cs = cs := by
  induction cs generalizing capacity with
  | nil => rfl
  | cons c cs ih =>
    have hsum : delivered len (c :: cs) = len c + delivered len cs := by
      simp [delivered]
    rw [deliver, if_pos (by omega), ih (by omega)]

/-- Nothing fits a buffer that is too small for each of them. -/
theorem deliver_of_lt {cs : List κ} {capacity : Nat} (h : ∀ c ∈ cs, capacity < len c) :
    deliver len capacity cs = [] := by
  induction cs with
  | nil => rfl
  | cons c cs ih =>
    have hc := h c List.mem_cons_self
    rw [deliver, if_neg (by omega), ih fun d hd => h d (List.mem_cons_of_mem _ hd)]

theorem receive_of_le {control : List κ} {controllen : Nat}
    (h : delivered len control ≤ controllen) :
    receive len controllen control = (control, delivered len control) := by
  rw [receive, deliver_of_le h]

theorem receive_of_lt {control : List κ} {controllen : Nat}
    (h : ∀ c ∈ control, controllen < len c) : receive len controllen control = ([], 0) := by
  rw [receive, deliver_of_lt h]
  rfl

end Recvmsg
