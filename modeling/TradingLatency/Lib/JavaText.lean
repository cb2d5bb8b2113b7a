import TradingLatency.Lib.CText

/-!
# JavaText — strings, numbers and character arrays in Java

The part of `java.lang` that reads and writes numbers as text:

* `parseInt`, `parseLong` — reading a decimal number, `none` for a
  `NumberFormatException`;
* `longToString` — printing a `long`;
* `trim`, `split`, `parseBoolean`;
* `newCharArray`, `store`, `fill`, `arraycopy` — a `char[]` is the list of its
  elements, and `none` is the exception of an access outside of the bounds.

An `int` that counts or indexes is an `Int32`, so that its arithmetic wraps.
-/

namespace JavaText

open CText

/-! ## Reading numbers -/

/-- `Character.digit(c, 10)`. Which characters beside the ASCII digits are decimal
digits depends on the Unicode version of the runtime. -/
structure DigitTable where
  digit : Char → Option Nat
  digit_ascii : ∀ c : Char, c.isDigit → digit c = some (c.toNat - '0'.toNat)

/-- The table with the ASCII digits only. -/
def DigitTable.ascii : DigitTable where
  digit c := if c.isDigit then some (c.toNat - '0'.toNat) else none
  digit_ascii _ hc := if_pos hc

/-- The loop over the digits. -/
def readDigits (table : DigitTable) (result : Nat) : Text → Option Nat
  | [] => some result
  | c :: s =>
      match table.digit c with
      | none => none
      | some d => readDigits table (10 * result + d) s

/-- A number with an optional sign, before its range is checked. The sign alone is
no number. -/
def parseNumber (table : DigitTable) : Text → Option Int
  | [] => none
  | c :: s =>
      if c = '-' ∨ c = '+' then
        if s.isEmpty then none
        else (readDigits table 0 s).map fun v => if c = '-' then -(v : Int) else v
      else (readDigits table 0 (c :: s)).map fun v => (v : Int)

/-- `Integer.parseInt`. -/
def parseInt (table : DigitTable) (s : Text) : Option Int32 :=
  match parseNumber table s with
  | none => none
  | some v => if -2 ^ 31 ≤ v ∧ v < 2 ^ 31 then some (Int32.ofInt v) else none

/-- `Long.parseLong`. -/
def parseLong (table : DigitTable) (s : Text) : Option Int64 :=
  match parseNumber table s with
  | none => none
  | some v => if -2 ^ 63 ≤ v ∧ v < 2 ^ 63 then some (Int64.ofInt v) else none

theorem readDigits_decimal (table : DigitTable) (result : Nat) {s : Text}
    (hs : ∀ c ∈ s, c.isDigit) : readDigits table result s = some (Nat.ofDigitChars 10 s result) := by
  induction s generalizing result with
  | nil => simp [readDigits]
  | cons c s ih =>
    have hc := table.digit_ascii c (hs c (by simp))
    rw [readDigits, hc, Nat.ofDigitChars_cons]
    exact ih _ fun d hd => hs d (List.mem_cons_of_mem _ hd)

/-- A text of ASCII digits is read as its value, also with zeros in front. -/
theorem parseNumber_decimal (table : DigitTable) {s : Text} (hs : IsDecimal s) :
    parseNumber table s = some (decimalValue s : Int) := by
  rcases hs with ⟨hne, hd⟩
  cases s with
  | nil => exact absurd rfl hne
  | cons c s =>
    have hsign : ¬ (c = '-' ∨ c = '+') := by
      rintro (rfl | rfl)
      · exact absurd (hd '-' (by simp)) (by decide)
      · exact absurd (hd '+' (by simp)) (by decide)
    rw [parseNumber, if_neg hsign, readDigits_decimal table 0 hd]
    rfl

theorem parseLong_decimal (table : DigitTable) {s : Text} (hs : IsDecimal s)
    (hv : decimalValue s < 2 ^ 63) :
    parseLong table s = some (Int64.ofInt (decimalValue s)) := by
  have hrange : -2 ^ 63 ≤ (decimalValue s : Int) ∧ (decimalValue s : Int) < 2 ^ 63 := by omega
  simp only [parseLong, parseNumber_decimal table hs, if_pos hrange]

/-! ## Printing numbers -/

/-- `Long.toString`. -/
def longToString (n : Int64) : Text :=
  if n.toInt < 0 then '-' :: dec n.toInt.natAbs else dec n.toInt.natAbs

theorem longToString_nonneg {n : Int64} (hn : 0 ≤ n.toInt) : longToString n = dec n.toInt.toNat := by
  have habs : n.toInt.natAbs = n.toInt.toNat := by omega
  rw [longToString, if_neg (by omega), habs]

/-! ## Strings -/

/-- `String.trim`: characters up to the blank are removed from both ends. -/
def trim (s : Text) : Text :=
  (s.dropWhile (· ≤ ' ')).rdropWhile (· ≤ ' ')

/-- `String.split` at one character that is no metacharacter: empty parts at the
end are removed, and a text without the separator is the only part. -/
def split (sep : Char) (s : Text) : List Text :=
  if sep ∈ s then (s.splitOn sep).rdropWhile List.isEmpty else [s]

/-- `Boolean.parseBoolean`. -/
def parseBoolean (s : Text) : Bool := s.map Char.toLower == "true".toList

/-! ## Arithmetic that does not wrap -/

theorem toInt_add_of_range {x y : Int32} (hlow : -2 ^ 31 ≤ x.toInt + y.toInt)
    (hhigh : x.toInt + y.toInt < 2 ^ 31) : (x + y).toInt = x.toInt + y.toInt := by
  rw [Int32.toInt_add]
  exact Int.bmod_eq_of_le (by omega) (by omega)

theorem toInt_sub_of_range {x y : Int32} (hlow : -2 ^ 31 ≤ x.toInt - y.toInt)
    (hhigh : x.toInt - y.toInt < 2 ^ 31) : (x - y).toInt = x.toInt - y.toInt := by
  rw [Int32.toInt_sub]
  exact Int.bmod_eq_of_le (by omega) (by omega)

/-! ## Character arrays -/

/-- `new char[length]`. -/
def newCharArray (length : Int32) : Option Text :=
  if length.toInt < 0 then none else some (List.replicate length.toInt.toNat nul)

/-- `a[i] = c`. -/
def store (a : Text) (i : Int32) (c : Char) : Option Text :=
  if 0 ≤ i.toInt ∧ i.toInt < a.length then some (a.set i.toInt.toNat c) else none

/-- `Arrays.fill(a, from, to, c)`. -/
def fill (a : Text) (fromIndex toIndex : Int32) (c : Char) : Option Text :=
  if 0 ≤ fromIndex.toInt ∧ fromIndex.toInt ≤ toIndex.toInt ∧ toIndex.toInt ≤ a.length then
    some (a.take fromIndex.toInt.toNat ++
      List.replicate (toIndex.toInt - fromIndex.toInt).toNat c ++ a.drop toIndex.toInt.toNat)
  else none

/-- `System.arraycopy(src, srcPos, dest, destPos, length)`, of two arrays. -/
def arraycopy (src : Text) (srcPos : Int32) (dest : Text) (destPos length : Int32) : Option Text :=
  if 0 ≤ srcPos.toInt ∧ 0 ≤ destPos.toInt ∧ 0 ≤ length.toInt ∧
      srcPos.toInt + length.toInt ≤ src.length ∧ destPos.toInt + length.toInt ≤ dest.length then
    some (dest.take destPos.toInt.toNat ++
      (src.drop srcPos.toInt.toNat).take length.toInt.toNat ++
      dest.drop (destPos.toInt.toNat + length.toInt.toNat))
  else none

/-! What the operations do when the positions are where the parts of an array begin. -/

section Parts

variable {a b d p m q : Text}

theorem newCharArray_length {length : Int32} {k : Nat} (h : length.toInt = k) :
    newCharArray length = some (List.replicate k nul) := by
  rw [newCharArray, if_neg (by omega), h, Int.toNat_natCast]

theorem store_part {i : Int32} {x : Char} (c : Char) (hi : i.toInt = a.length) :
    store (a ++ x :: b) i c = some (a ++ c :: b) := by
  have hbound : 0 ≤ i.toInt ∧ i.toInt < (a ++ x :: b).length := by
    simp only [List.length_append, List.length_cons]
    omega
  rw [store, if_pos hbound, hi, Int.toNat_natCast, List.set_append_right _ _ (Nat.le_refl _),
    Nat.sub_self, List.set_cons_zero]

theorem fill_part {fromIndex toIndex : Int32} (c : Char) (hfrom : fromIndex.toInt = a.length)
    (hto : toIndex.toInt = a.length + b.length) :
    fill (a ++ b ++ d) fromIndex toIndex c = some (a ++ List.replicate b.length c ++ d) := by
  have hbound : 0 ≤ fromIndex.toInt ∧ fromIndex.toInt ≤ toIndex.toInt ∧
      toIndex.toInt ≤ (a ++ b ++ d).length := by
    simp only [List.length_append]
    omega
  have hfromNat : fromIndex.toInt.toNat = a.length := by omega
  have htoNat : toIndex.toInt.toNat = (a ++ b).length := by
    rw [List.length_append]
    omega
  have hlen : (toIndex.toInt - fromIndex.toInt).toNat = b.length := by omega
  rw [fill, if_pos hbound, hfromNat, htoNat, hlen, List.drop_left, List.append_assoc a b d,
    List.take_left]

theorem arraycopy_part {srcPos destPos length : Int32} (hsrc : srcPos.toInt = p.length)
    (hdest : destPos.toInt = a.length) (hm : length.toInt = m.length)
    (hb : length.toInt = b.length) :
    arraycopy (p ++ m ++ q) srcPos (a ++ b ++ d) destPos length = some (a ++ m ++ d) := by
  have hbound : 0 ≤ srcPos.toInt ∧ 0 ≤ destPos.toInt ∧ 0 ≤ length.toInt ∧
      srcPos.toInt + length.toInt ≤ (p ++ m ++ q).length ∧
      destPos.toInt + length.toInt ≤ (a ++ b ++ d).length := by
    simp only [List.length_append]
    omega
  have hsrcNat : srcPos.toInt.toNat = p.length := by omega
  have hdestNat : destPos.toInt.toNat = a.length := by omega
  have hlen : length.toInt.toNat = m.length := by omega
  have hend : a.length + m.length = (a ++ b).length := by
    rw [List.length_append]
    omega
  rw [arraycopy, if_pos hbound, hsrcNat, hdestNat, hlen, hend, List.drop_left, List.append_assoc p,
    List.drop_left, List.take_left, List.append_assoc a b d, List.take_left]

end Parts

end JavaText
