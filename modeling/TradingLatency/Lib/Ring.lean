import Mathlib.Data.Nat.ModEq
import Mathlib.Data.List.Infix

/-!
# Ring — rings of `2^m` slots with 32-bit indices

A position of a ring is a natural number that only grows; its slot is the
position modulo the number of slots. Programs keep slots in `uint32_t` and mask
every sum and difference. `Tracks` relates a 32-bit value to the position it
stands for, and masked sums and differences follow the positions, also where
the 32-bit arithmetic wraps.

`modifyLast` changes the last element of a list that has a property, as a
search from the newest entry backwards does. `writeAll` is an array behind a
sequence of writes, where the newest write to an index counts.
-/

namespace Ring

/-! ## Masked arithmetic -/

/-- The value stands for the position `p` of a ring of `2^m` slots. -/
def Tracks (m : Nat) (x : UInt32) (p : Nat) : Prop := x.toNat % 2 ^ m = p % 2 ^ m

theorem toNat_and_mask {m : Nat} {mask : UInt32} (hmask : mask.toNat = 2 ^ m - 1) (x : UInt32) :
    (x &&& mask).toNat = x.toNat % 2 ^ m := by
  rw [UInt32.toNat_and, hmask, Nat.and_two_pow_sub_one_eq_mod]

theorem tracks_ofNat {m : Nat} (hm : m ≤ 32) (p : Nat) : Tracks m (UInt32.ofNat p) p := by
  unfold Tracks
  rw [UInt32.toNat_ofNat', Nat.mod_mod_of_dvd _ (Nat.pow_dvd_pow 2 hm)]

theorem Tracks.add {m : Nat} (hm : m ≤ 32) {x y : UInt32} {p q : Nat} (hx : Tracks m x p)
    (hy : Tracks m y q) : Tracks m (x + y) (p + q) := by
  unfold Tracks
  rw [UInt32.toNat_add, Nat.mod_mod_of_dvd _ (Nat.pow_dvd_pow 2 hm)]
  exact Nat.ModEq.add hx hy

theorem Tracks.sub {m : Nat} (hm : m ≤ 32) {x y : UInt32} {p q : Nat} (hx : Tracks m x p)
    (hy : Tracks m y q) (hqp : q ≤ p) : Tracks m (x - y) (p - q) := by
  have hy32 := y.toNat_lt
  unfold Tracks
  rw [UInt32.toNat_sub, Nat.mod_mod_of_dvd _ (Nat.pow_dvd_pow 2 hm)]
  -- add `y` on both sides, where the difference cancels
  apply Nat.ModEq.add_right_cancel hy
  have hsum : 2 ^ 32 - y.toNat + x.toNat + y.toNat = x.toNat + 2 ^ 32 := by omega
  rw [hsum, Nat.sub_add_cancel hqp]
  have hwrap : (2 : Nat) ^ 32 ≡ 0 [MOD 2 ^ m] :=
    (Nat.modEq_zero_iff_dvd).mpr (Nat.pow_dvd_pow 2 hm)
  exact Nat.ModEq.add hx hwrap

/-- A masked value is the slot of its position. -/
theorem Tracks.toNat_and {m : Nat} {mask x : UInt32} {p : Nat} (hmask : mask.toNat = 2 ^ m - 1)
    (hx : Tracks m x p) : (x &&& mask).toNat = p % 2 ^ m := by
  rw [toNat_and_mask hmask, hx]

/-- The slot of a position as a 32-bit value. -/
def slot (m p : Nat) : UInt32 := UInt32.ofNat (p % 2 ^ m)

theorem toNat_slot {m : Nat} (hm : m < 32) (p : Nat) : (slot m p).toNat = p % 2 ^ m := by
  have hlt : p % 2 ^ m < 2 ^ m := Nat.mod_lt _ (Nat.two_pow_pos m)
  have hle : 2 ^ m ≤ 2 ^ 31 := Nat.pow_le_pow_right (by decide) (by omega)
  rw [slot, UInt32.toNat_ofNat']
  exact Nat.mod_eq_of_lt (by omega)

theorem Tracks.and_eq {m : Nat} (hm : m < 32) {mask x : UInt32} {p : Nat}
    (hmask : mask.toNat = 2 ^ m - 1) (hx : Tracks m x p) : x &&& mask = slot m p := by
  rw [← UInt32.toNat_inj, hx.toNat_and hmask, toNat_slot hm]

theorem tracks_of_toNat {m : Nat} {x : UInt32} {p : Nat} (h : x.toNat = p % 2 ^ m) :
    Tracks m x p := by
  unfold Tracks
  rw [h, Nat.mod_mod]

/-- Positions less than `size` apart share a slot only if they are equal. -/
theorem eq_of_mod_eq {size p q : Nat} (hpq : p ≤ q) (hlt : q < p + size)
    (h : p % size = q % size) : p = q := by
  have hmod : (q - p) % size = 0 := Nat.sub_mod_eq_zero_of_mod_eq h.symm
  rw [Nat.mod_eq_of_lt (by omega)] at hmod
  omega

theorem eq_of_slot_eq {m p q : Nat} (hm : m < 32) (hpq : p ≤ q) (hlt : q < p + 2 ^ m)
    (h : slot m p = slot m q) : p = q := by
  apply eq_of_mod_eq hpq hlt
  rw [← toNat_slot hm, h, toNat_slot hm]

theorem slot_ne {m p q : Nat} (hm : m < 32) (hne : p ≠ q) (hpq : p < q + 2 ^ m)
    (hqp : q < p + 2 ^ m) : slot m p ≠ slot m q := by
  intro heq
  rcases Nat.le_total p q with hle | hle
  · exact hne (eq_of_slot_eq hm hle hqp heq)
  · exact hne (eq_of_slot_eq hm hle hpq heq.symm).symm

theorem tracks_slot {m : Nat} (hm : m < 32) (p : Nat) : Tracks m (slot m p) p :=
  tracks_of_toNat (toNat_slot hm p)

/-- The successor of a slot, masked. -/
theorem slot_succ {m : Nat} (hm : m < 32) {mask : UInt32} (hmask : mask.toNat = 2 ^ m - 1)
    (p : Nat) : (slot m p + 1) &&& mask = slot m (p + 1) := by
  have htrack : Tracks m (slot m p + 1) (p + 1) :=
    (tracks_slot hm p).add (by omega) (tracks_ofNat (by omega) 1)
  exact htrack.and_eq hm hmask

/-- A ring that holds the elements of a list from `first` on, at the positions
behind `d`, has room for one more. -/
theorem update_slot_concat {α : Type} {m : Nat} (hm : m < 32) {buffer : UInt32 → α} {l : List α}
    {d first : Nat} (hroom : l.length < first + 2 ^ m)
    (hbuffer : ∀ i a, first ≤ i → l[i]? = some a → buffer (slot m (d + i)) = a) (b : α) {i : Nat}
    {a : α} (hi : first ≤ i) (ha : (l ++ [b])[i]? = some a) :
    Function.update buffer (slot m (d + l.length)) b (slot m (d + i)) = a := by
  by_cases hlt : i < l.length
  · -- fewer than `2 ^ m` positions apart, so the slots differ
    have hne : slot m (d + i) ≠ slot m (d + l.length) :=
      slot_ne hm (by omega) (by omega) (by omega)
    rw [Function.update_of_ne hne]
    rw [List.getElem?_append_left hlt] at ha
    exact hbuffer i a hi ha
  · have hlen := (List.getElem?_eq_some_iff.mp ha).1
    rw [List.length_append, List.length_singleton] at hlen
    obtain rfl : i = l.length := by omega
    rw [List.getElem?_concat_length] at ha
    rw [Function.update_self]
    exact Option.some.inj ha

/-! ## The last element with a property -/

section ModifyLast

variable {α : Type} {p : α → Bool}

/-- Change the last element that satisfies `p`, if there is one. -/
def modifyLast (p : α → Bool) (f : α → α) (l : List α) : List α :=
  match l.reverse.findIdx? p with
  | none => l
  | some i => l.modify (l.length - 1 - i) f

theorem modifyLast_of_forall_not (f : α → α) {l : List α} (h : ∀ a ∈ l, p a = false) :
    modifyLast p f l = l := by
  have hnone : l.reverse.findIdx? p = none := by
    rw [List.findIdx?_eq_none_iff]
    intro a ha
    exact h a (List.mem_reverse.mp ha)
  rw [modifyLast, hnone]

theorem modifyLast_append_cons (f : α → α) {xs ys : List α} {a : α} (ha : p a = true)
    (hys : ∀ b ∈ ys, p b = false) : modifyLast p f (xs ++ a :: ys) = xs ++ f a :: ys := by
  have hfind : (xs ++ a :: ys).reverse.findIdx? p = some ys.length := by
    rw [List.reverse_append, List.reverse_cons, List.append_assoc, List.findIdx?_append]
    have hnone : ys.reverse.findIdx? p = none := by
      rw [List.findIdx?_eq_none_iff]
      intro b hb
      exact hys b (List.mem_reverse.mp hb)
    simp [hnone, List.findIdx?_cons, ha]
  have hidx : (xs ++ a :: ys).length - 1 - ys.length = xs.length := by
    simp only [List.length_append, List.length_cons]
    omega
  simp only [modifyLast, hfind, hidx]
  clear hfind hidx
  induction xs with
  | nil => rfl
  | cons x xs ih => simpa using ih

/-- Either no element has the property, or the list splits at the last one. -/
theorem last_split (p : α → Bool) (l : List α) :
    (∀ a ∈ l, p a = false) ∨
      ∃ xs a ys, l = xs ++ a :: ys ∧ p a = true ∧ ∀ b ∈ ys, p b = false := by
  induction l with
  | nil => exact Or.inl (by simp)
  | cons c l ih =>
    rcases ih with hnone | ⟨xs, a, ys, rfl, ha, hys⟩
    · -- `c` is the last one with the property, or no element has it
      by_cases hc : p c = true
      · exact Or.inr ⟨[], c, l, rfl, hc, hnone⟩
      · refine Or.inl ?_
        intro a ha
        rcases List.mem_cons.mp ha with rfl | ha
        · simpa using hc
        · exact hnone a ha
    · exact Or.inr ⟨c :: xs, a, ys, rfl, ha, hys⟩

/-- A search by index over a range is a search in the list it reads. -/
theorem findSome?_range' {β : Type} (q : Nat → Bool) (g : Nat → β) {l : List α} {s : Nat}
    (h : ∀ i a, l[i]? = some a → q (s + i) = p a) :
    (List.range' s l.length).findSome? (fun i => if q i then some (g i) else none) =
      (l.findIdx? p).map fun i => g (s + i) := by
  induction l generalizing s with
  | nil => rfl
  | cons a l ih =>
    have hhead : q s = p a := h 0 a rfl
    have htail : ∀ i b, l[i]? = some b → q (s + 1 + i) = p b := by
      intro i b hb
      rw [Nat.add_assoc, Nat.add_comm 1 i]
      exact h (i + 1) b (by simpa using hb)
    rw [List.length_cons, List.range'_succ, List.findSome?_cons, List.findIdx?_cons, hhead]
    by_cases ha : p a = true
    · simp [ha]
    · simp only [ha, if_false, Bool.false_eq_true, ih htail, Option.map_map]
      congr 1
      funext i
      exact congrArg g (by simp; omega)

theorem take_append_modify_drop (f : α → α) (l : List α) (d j : Nat) (hd : d ≤ l.length) :
    l.take d ++ (l.drop d).modify j f = l.modify (d + j) f := by
  induction d generalizing l with
  | zero => simp
  | succ d ih =>
    cases l with
    | nil => simp at hd
    | cons a l =>
      rw [List.take_succ_cons, List.drop_succ_cons, List.cons_append, ih l (by simpa using hd),
        Nat.add_right_comm, List.modify_succ_cons]

@[simp] theorem length_modifyLast (f : α → α) (l : List α) :
    (modifyLast p f l).length = l.length := by
  unfold modifyLast
  split
  · rfl
  · exact List.length_modify _ _ _

/-- An element is changed or it is not. -/
theorem getElem?_modifyLast (f : α → α) {l : List α} {k : Nat} {a : α} (hk : l[k]? = some a) :
    (modifyLast p f l)[k]? = some a ∨ (modifyLast p f l)[k]? = some (f a) := by
  unfold modifyLast
  split
  · exact Or.inl hk
  · rename_i i _
    rw [List.getElem?_modify, hk]
    by_cases hi : l.length - 1 - i = k
    · exact Or.inr (by simp [hi])
    · exact Or.inl (by simp [hi])

/-- What the change keeps, the changed list keeps. -/
theorem map_modifyLast {β : Type} {f : α → α} (g : α → β) (hg : ∀ a, g (f a) = g a)
    (l : List α) : (modifyLast p f l).map g = l.map g := by
  rcases last_split p l with hnone | ⟨xs, a, ys, rfl, ha, hys⟩
  · rw [modifyLast_of_forall_not f hnone]
  · rw [modifyLast_append_cons f ha hys]
    simp [hg]

/-- The change commutes with forgetting the oldest elements. -/
theorem drop_modifyLast (f : α → α) (l : List α) (d : Nat) :
    (modifyLast p f l).drop d = modifyLast p f (l.drop d) := by
  rcases last_split p l with hnone | ⟨xs, a, ys, rfl, ha, hys⟩
  · have hdrop : ∀ a ∈ l.drop d, p a = false := fun a ha => hnone a (List.mem_of_mem_drop ha)
    rw [modifyLast_of_forall_not f hnone, modifyLast_of_forall_not f hdrop]
  · rw [modifyLast_append_cons f ha hys]
    by_cases hd : d ≤ xs.length
    · rw [List.drop_append_of_le_length hd, List.drop_append_of_le_length hd,
        modifyLast_append_cons f ha hys]
    · -- the changed element is forgotten itself
      have hforget : ∀ b, (xs ++ b :: ys).drop d = ys.drop (d - xs.length - 1) := by
        intro b
        obtain ⟨k, rfl⟩ : ∃ k, d = xs.length + 1 + k := ⟨d - (xs.length + 1), by omega⟩
        have hk : xs.length + 1 + k - xs.length - 1 = k := by omega
        rw [hk, Nat.add_assoc, List.drop_length_add_append, Nat.add_comm 1 k, List.drop_succ_cons]
      have hrest : ∀ b ∈ ys.drop (d - xs.length - 1), p b = false :=
        fun b hb => hys b (List.mem_of_mem_drop hb)
      rw [hforget, hforget, modifyLast_of_forall_not f hrest]

end ModifyLast

/-! ## The newest entries -/

section Recent

variable {α : Type}

/-- The last `w` elements. -/
def recent (w : Nat) (l : List α) : List α := l.drop (l.length - w)

theorem length_recent (w : Nat) (l : List α) : (recent w l).length = min l.length w := by
  rw [recent, List.length_drop]
  omega

theorem recent_modifyLast (p : α → Bool) (f : α → α) (w : Nat) (l : List α) :
    recent w (modifyLast p f l) = modifyLast p f (recent w l) := by
  rw [recent, length_modifyLast, drop_modifyLast]
  rfl

/-- Only the last `w` elements matter for the last `w` elements of a longer list. -/
theorem recent_append (w : Nat) (l s : List α) : recent w (l ++ s) = recent w (recent w l ++ s) := by
  have hlen := length_recent w l
  have hsplit : l = l.take (l.length - w) ++ recent w l := (List.take_append_drop _ _).symm
  have htake : (l.take (l.length - w)).length = l.length - w := by
    rw [List.length_take]
    omega
  by_cases hw : w ≤ l.length
  · have hsum : (l ++ s).length - w = (l.length - w) + ((recent w l ++ s).length - w) := by
      simp only [List.length_append]
      omega
    rw [recent, hsum, ← List.drop_drop, List.drop_append_of_le_length (by omega)]
    rfl
  · have hall : recent w l = l := by
      rw [recent, Nat.sub_eq_zero_of_le (by omega), List.drop_zero]
    rw [hall]

/-- The last `b` elements end in the last `a` ones. -/
theorem recent_split {a b : Nat} (hab : a ≤ b) (l : List α) :
    recent b l = (recent b l).take ((recent b l).length - a) ++ recent a l := by
  have hdrop : (recent b l).drop ((recent b l).length - a) = recent a l := by
    rw [length_recent]
    unfold recent
    rw [List.drop_drop]
    congr 1
    omega
  rw [← hdrop, List.take_append_drop]

end Recent

/-! ## Arrays -/

section WriteAll

variable {α β κ : Type} [DecidableEq κ]

/-- The array behind writes, each at the index and with the value of an element. -/
def writeAll (index : α → κ) (value : α → β) (f : κ → β) (l : List α) : κ → β :=
  l.foldl (fun f a => Function.update f (index a) (value a)) f

theorem writeAll_concat (index : α → κ) (value : α → β) (f : κ → β) (l : List α) (a : α) :
    writeAll index value f (l ++ [a]) =
      Function.update (writeAll index value f l) (index a) (value a) := by
  simp [writeAll]

theorem writeAll_of_forall_ne {index : α → κ} (value : α → β) {l : List α} {i : κ}
    (h : ∀ a ∈ l, index a ≠ i) (f : κ → β) : writeAll index value f l i = f i := by
  induction l generalizing f with
  | nil => rfl
  | cons a l ih =>
    have hrest : ∀ b ∈ l, index b ≠ i := fun b hb => h b (List.mem_cons_of_mem a hb)
    have ha : i ≠ index a := (h a List.mem_cons_self).symm
    exact (ih hrest _).trans (Function.update_of_ne ha _ _)

/-- The newest write to an index counts. -/
theorem writeAll_newest {index : α → κ} (value : α → β) {l : List α} {k : Nat} {a : α}
    (hk : l[k]? = some a) (hnew : ∀ b ∈ l.drop (k + 1), index b ≠ index a) (f : κ → β) :
    writeAll index value f l (index a) = value a := by
  obtain ⟨hlt, rfl⟩ := List.getElem?_eq_some_iff.mp hk
  have hsplit : l = l.take (k + 1) ++ l.drop (k + 1) := (List.take_append_drop _ _).symm
  have htake : l.take (k + 1) = l.take k ++ [l[k]] := by
    rw [List.take_add_one, List.getElem?_eq_getElem hlt]
    rfl
  have hwrite : ∀ xs ys, writeAll index value f (xs ++ ys) =
      writeAll index value (writeAll index value f xs) ys :=
    fun xs ys => List.foldl_append
  -- what is written behind `l[k]` goes to other indices
  calc writeAll index value f l (index l[k])
      = writeAll index value (writeAll index value f (l.take (k + 1))) (l.drop (k + 1))
          (index l[k]) := by rw [← hwrite, ← hsplit]
    _ = writeAll index value f (l.take (k + 1)) (index l[k]) := writeAll_of_forall_ne value hnew _
    _ = value l[k] := by rw [htake, writeAll_concat, Function.update_self]

end WriteAll

end Ring
