import Mathlib.Data.List.Basic

/-!
# Bytes in memory

A piece of memory is the list of its bytes. Words are loaded in the order of a
little-endian host, and a load that leaves the memory is `none`, so that a
function that only reads in range is one that never returns `none`.

`htons` turns a 16-bit word between the order of the host and that of the
network; it is its own inverse.
-/

namespace TradingLatency

abbrev Bytes := List UInt8

namespace Bytes

/-! ## Words -/

/-- The word that the bytes `a`, `b` hold. -/
def word16 (a b : UInt8) : UInt16 := a.toUInt16 ||| b.toUInt16 <<< 8

/-- The word that the bytes `a`, `b`, `c`, `d` hold. -/
def word32 (a b c d : UInt8) : UInt32 :=
  a.toUInt32 ||| b.toUInt32 <<< 8 ||| c.toUInt32 <<< 16 ||| d.toUInt32 <<< 24

/-- The bytes of a word in memory. -/
def image16 (x : UInt16) : Bytes := [x.toUInt8, (x >>> 8).toUInt8]

def image32 (x : UInt32) : Bytes :=
  [x.toUInt8, (x >>> 8).toUInt8, (x >>> 16).toUInt8, (x >>> 24).toUInt8]

/-- `htons`, which is `ntohs` as well. -/
def htons (x : UInt16) : UInt16 := x <<< 8 ||| x >>> 8

theorem word16_bytes (x : UInt16) : word16 x.toUInt8 (x >>> 8).toUInt8 = x := by
  apply UInt16.eq_of_toBitVec_eq
  show (x.toBitVec.setWidth 8).setWidth 16 |||
    ((x.toBitVec >>> 8).setWidth 8).setWidth 16 <<< 8 = x.toBitVec
  apply BitVec.eq_of_getLsbD_eq
  intro i hi
  simp only [BitVec.getLsbD_or, BitVec.getLsbD_shiftLeft, BitVec.getLsbD_setWidth,
    BitVec.getLsbD_ushiftRight]
  rcases Nat.lt_or_ge i 8 with h | h
  all_goals grind

theorem word32_bytes (x : UInt32) :
    word32 x.toUInt8 (x >>> 8).toUInt8 (x >>> 16).toUInt8 (x >>> 24).toUInt8 = x := by
  apply UInt32.eq_of_toBitVec_eq
  show (x.toBitVec.setWidth 8).setWidth 32 ||| ((x.toBitVec >>> 8).setWidth 8).setWidth 32 <<< 8 |||
    ((x.toBitVec >>> 16).setWidth 8).setWidth 32 <<< 16 |||
    ((x.toBitVec >>> 24).setWidth 8).setWidth 32 <<< 24 = x.toBitVec
  apply BitVec.eq_of_getLsbD_eq
  intro i hi
  simp only [BitVec.getLsbD_or, BitVec.getLsbD_shiftLeft, BitVec.getLsbD_setWidth,
    BitVec.getLsbD_ushiftRight]
  -- the bit is in one of the four bytes
  rcases (by omega : i < 8 ∨ 8 ≤ i ∧ i < 16 ∨ 16 ≤ i ∧ i < 24 ∨ 24 ≤ i) with h | h | h | h
  all_goals grind

theorem htons_word16 (a b : UInt8) : htons (word16 a b) = word16 b a := by
  apply UInt16.eq_of_toBitVec_eq
  show (a.toBitVec.setWidth 16 ||| b.toBitVec.setWidth 16 <<< 8) <<< 8 |||
    (a.toBitVec.setWidth 16 ||| b.toBitVec.setWidth 16 <<< 8) >>> 8 =
    b.toBitVec.setWidth 16 ||| a.toBitVec.setWidth 16 <<< 8
  apply BitVec.eq_of_getLsbD_eq
  intro i hi
  simp only [BitVec.getLsbD_or, BitVec.getLsbD_shiftLeft, BitVec.getLsbD_setWidth,
    BitVec.getLsbD_ushiftRight]
  have ha : ∀ j, 8 ≤ j → a.toBitVec.getLsbD j = false := fun j hj => BitVec.getLsbD_of_ge _ _ hj
  have hb : ∀ j, 8 ≤ j → b.toBitVec.getLsbD j = false := fun j hj => BitVec.getLsbD_of_ge _ _ hj
  rcases Nat.lt_or_ge i 8 with h | h
  all_goals grind

@[simp] theorem htons_htons (x : UInt16) : htons (htons x) = x := by
  rw [← word16_bytes x, htons_word16, htons_word16]

theorem toNat_word16 (a b : UInt8) : (word16 a b).toNat = a.toNat + 256 * b.toNat := by
  have ha := a.toNat_lt
  have hb := b.toNat_lt
  have hor : a.toNat ||| b.toNat <<< 8 = b.toNat <<< 8 + a.toNat := by
    rw [Nat.or_comm]
    exact (Nat.shiftLeft_add_eq_or_of_lt ha b.toNat).symm
  simp only [word16, UInt16.toNat_or, UInt16.toNat_shiftLeft, UInt8.toNat_toUInt16]
  have h8 : (8 : UInt16).toNat % 16 = 8 := rfl
  rw [h8, Nat.mod_eq_of_lt (by rw [Nat.shiftLeft_eq]; omega), hor, Nat.shiftLeft_eq]
  omega

/-! ## Loads and stores -/

/-- `*(uint8_t *)(m + off)`. -/
def load8 (m : Bytes) (off : Nat) : Option UInt8 := m[off]?

/-- `*(uint16_t *)(m + off)`. -/
def load16 (m : Bytes) (off : Nat) : Option UInt16 := do
  return word16 (← m[off]?) (← m[off + 1]?)

/-- `*(uint32_t *)(m + off)`. -/
def load32 (m : Bytes) (off : Nat) : Option UInt32 := do
  return word32 (← m[off]?) (← m[off + 1]?) (← m[off + 2]?) (← m[off + 3]?)

/-- `memcpy(m + off, bytes, ...)`. -/
def store (m : Bytes) (off : Nat) (bytes : Bytes) : Bytes :=
  m.take off ++ bytes ++ m.drop (off + bytes.length)

theorem exists_load8 {m : Bytes} {off : Nat} (h : off < m.length) : ∃ x, m.load8 off = some x :=
  ⟨m[off], List.getElem?_eq_getElem h⟩

theorem exists_load16 {m : Bytes} {off : Nat} (h : off + 2 ≤ m.length) :
    ∃ x, m.load16 off = some x := by
  refine ⟨word16 m[off] m[off + 1], ?_⟩
  simp [load16, List.getElem?_eq_getElem (by omega : off < m.length),
    List.getElem?_eq_getElem (by omega : off + 1 < m.length)]

/-- Loads behind the front part of the memory. -/
theorem load8_append_left {l : Bytes} {n : Nat} (h : l.length = n) (m : Bytes) (off : Nat) :
    Bytes.load8 (l ++ m) (n + off) = m.load8 off := by
  subst h
  rw [load8, List.getElem?_append_right (Nat.le_add_right _ _), Nat.add_sub_cancel_left, load8]

theorem load16_append_left {l : Bytes} {n : Nat} (h : l.length = n) (m : Bytes) (off : Nat) :
    Bytes.load16 (l ++ m) (n + off) = m.load16 off := by
  have h8 : ∀ k, (l ++ m)[n + k]? = m[k]? := load8_append_left h m
  rw [load16, Nat.add_assoc, h8, h8, load16]

theorem load32_append_left {l : Bytes} {n : Nat} (h : l.length = n) (m : Bytes) (off : Nat) :
    Bytes.load32 (l ++ m) (n + off) = m.load32 off := by
  have h8 : ∀ k, (l ++ m)[n + k]? = m[k]? := load8_append_left h m
  rw [load32, Nat.add_assoc, Nat.add_assoc, Nat.add_assoc, h8, h8, h8, h8, load32]

@[simp] theorem store_nil (m : Bytes) (off : Nat) : m.store off [] = m := by
  rw [store, List.append_nil, List.length_nil, Nat.add_zero, List.take_append_drop]

@[simp] theorem store_cons_zero (x b : UInt8) (m bytes : Bytes) :
    Bytes.store (x :: m) 0 (b :: bytes) = b :: m.store 0 bytes := by
  simp [store]

@[simp] theorem store_cons_succ (x : UInt8) (m bytes : Bytes) (off : Nat) :
    Bytes.store (x :: m) (off + 1) bytes = x :: m.store off bytes := by
  simp [store, Nat.succ_add]

/-- A store behind the front part of the memory. -/
theorem store_append_left {l : Bytes} {n : Nat} (h : l.length = n) (m bytes : Bytes) (off : Nat) :
    Bytes.store (l ++ m) (n + off) bytes = l ++ m.store off bytes := by
  subst h
  rw [store, List.take_length_add_append, Nat.add_assoc, List.drop_length_add_append, store,
    List.append_assoc, List.append_assoc, List.append_assoc]

/-- A store between two parts of the memory. -/
theorem store_append (l old new r : Bytes) (h : old.length = new.length) :
    (l ++ (old ++ r)).store l.length new = l ++ (new ++ r) := by
  unfold store
  rw [List.take_left, ← h, ← List.drop_drop, List.drop_left, List.drop_left, List.append_assoc]

end Bytes

end TradingLatency
