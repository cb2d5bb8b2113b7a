import Mathlib.Data.Nat.ModEq
import Mathlib.Algebra.BigOperators.Group.List.Basic

/-!
# One's complement sums

The sum of `w`-bit words where the carry out of the top comes back in at the
bottom. It is the sum modulo `2 ^ w - 1`, with two representations of zero: the
words of which at least one is not zero never sum to `0` but to `2 ^ w - 1`.

A checksum adds the words first and brings the carries in afterwards, by steps
`n % 2 ^ w + n / 2 ^ w`. Such a step keeps the residue (`carry_modEq`) and makes
the number smaller (`carry_lt`).
-/

namespace TradingLatency.OnesComplement

/-- The sum of two words with the carry brought in at the bottom. -/
def add (w a b : Nat) : Nat := if a + b < 2 ^ w then a + b else a + b - (2 ^ w - 1)

/-- The sum of words in one's complement. -/
def sum (w : Nat) (ws : List Nat) : Nat := ws.foldl (add w) 0

theorem two_pow_modEq_one (w : Nat) : 2 ^ w ≡ 1 [MOD 2 ^ w - 1] :=
  ((Nat.modEq_iff_dvd' Nat.one_le_two_pow).mpr (Nat.dvd_refl _)).symm

theorem add_modEq (w a b : Nat) : add w a b ≡ a + b [MOD 2 ^ w - 1] := by
  unfold add
  by_cases h : a + b < 2 ^ w
  · rw [if_pos h]
  · rw [if_neg h]
    have hle : 2 ^ w - 1 ≤ a + b := by omega
    exact (Nat.modEq_iff_dvd' (Nat.sub_le _ _)).mpr ⟨1, by omega⟩

theorem add_lt {w a b : Nat} (ha : a < 2 ^ w) (hb : b < 2 ^ w) : add w a b < 2 ^ w := by
  unfold add
  split <;> omega

theorem add_eq_zero_iff {w a b : Nat} : add w a b = 0 ↔ a = 0 ∧ b = 0 := by
  unfold add
  have := Nat.two_pow_pos w
  split <;> omega

/-- The sum so far and the words to come. -/
theorem foldl_add_spec {w : Nat} (ws : List Nat) (hws : ∀ x ∈ ws, x < 2 ^ w) {a : Nat}
    (ha : a < 2 ^ w) :
    ws.foldl (add w) a ≡ a + ws.sum [MOD 2 ^ w - 1] ∧ ws.foldl (add w) a < 2 ^ w ∧
      (ws.foldl (add w) a = 0 ↔ a + ws.sum = 0) := by
  -- the three facts together: zero is only told from all ones by the last
  induction ws generalizing a with
  | nil => simpa [Nat.ModEq] using ha
  | cons x ws ih =>
    have hx : x < 2 ^ w := hws x List.mem_cons_self
    rcases ih (fun y hy => hws y (List.mem_cons_of_mem x hy)) (add_lt ha hx) with
      ⟨hmod, hlt, hzero⟩
    rw [List.foldl_cons, List.sum_cons, ← Nat.add_assoc]
    refine ⟨hmod.trans ((add_modEq w a x).add_right _), hlt, hzero.trans ?_⟩
    have := @add_eq_zero_iff w a x
    omega

/-- Words, not all of them zero, whose sum is a multiple of `2 ^ w - 1` sum to
all ones. -/
theorem sum_eq_ones {w : Nat} {ws : List Nat} (hws : ∀ x ∈ ws, x < 2 ^ w)
    (hdvd : 2 ^ w - 1 ∣ ws.sum) (hne : ws.sum ≠ 0) : sum w ws = 2 ^ w - 1 := by
  rcases foldl_add_spec ws hws (Nat.two_pow_pos w) with ⟨hmod, hlt, hzero⟩
  rw [Nat.zero_add] at hmod hzero
  have hdvd' : 2 ^ w - 1 ∣ sum w ws := (hmod.dvd_iff (Nat.dvd_refl _)).mpr hdvd
  have hpos : 0 < sum w ws := Nat.pos_of_ne_zero fun h => hne (hzero.mp h)
  have hle : 2 ^ w - 1 ≤ sum w ws := Nat.le_of_dvd hpos hdvd'
  have hlt' : sum w ws < 2 ^ w := hlt
  omega

/-! ## Carries -/

theorem carry_modEq (w n : Nat) : n % 2 ^ w + n / 2 ^ w ≡ n [MOD 2 ^ w - 1] := by
  have h := ((two_pow_modEq_one w).mul_right (n / 2 ^ w)).add_left (n % 2 ^ w)
  rw [Nat.mod_add_div, Nat.one_mul] at h
  exact h.symm

theorem carry_lt {w n : Nat} (hw : 0 < w) (hn : 2 ^ w ≤ n) : n % 2 ^ w + n / 2 ^ w < n := by
  have hdiv : 0 < n / 2 ^ w := Nat.div_pos hn (Nat.two_pow_pos w)
  have hpow : 2 ≤ 2 ^ w := Nat.le_self_pow (by omega) 2
  have hmul : 2 * (n / 2 ^ w) ≤ 2 ^ w * (n / 2 ^ w) := Nat.mul_le_mul_right _ hpow
  have := Nat.mod_add_div n (2 ^ w)
  omega

/-- The complement of a word with the residue of `n` makes `n` a multiple. -/
theorem dvd_add_complement {w n s : Nat} (hs : s ≡ n [MOD 2 ^ w - 1]) (hlt : s < 2 ^ w) :
    2 ^ w - 1 ∣ n + (2 ^ w - 1 - s) := by
  have h : s + (2 ^ w - 1 - s) ≡ n + (2 ^ w - 1 - s) [MOD 2 ^ w - 1] := hs.add_right _
  rw [Nat.add_sub_cancel' (by omega)] at h
  exact (h.dvd_iff (Nat.dvd_refl _)).mp (Nat.dvd_refl _)

/-- Swapping the halves of a word multiplies it by `2 ^ h`. -/
theorem swap_modEq (h a b : Nat) :
    2 ^ h * a + b ≡ 2 ^ h * (a + 2 ^ h * b) [MOD 2 ^ (h + h) - 1] := by
  have hb : 2 ^ (h + h) * b ≡ b [MOD 2 ^ (h + h) - 1] := by
    have := (two_pow_modEq_one (h + h)).mul_right b
    rwa [Nat.one_mul] at this
  rw [Nat.mul_add, ← Nat.mul_assoc, ← Nat.pow_add]
  exact hb.symm.add_left _

end TradingLatency.OnesComplement
