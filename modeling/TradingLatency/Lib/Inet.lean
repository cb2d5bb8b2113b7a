import TradingLatency.Lib.Bytes
import TradingLatency.Lib.CText

/-!
# Internet addresses as text

`inet_ntoa` and `inet_aton` of the C library. An address is the `uint32_t` in
network byte order that `struct in_addr` holds: its bytes in memory are the
parts of the dotted text, from left to right.

`inet_aton` takes one to four parts, each decimal, octal (`0`) or hexadecimal
(`0x`), the last one for all bytes that are left, and ignores what follows a
white space. Of the many texts of an address `inet_ntoa` makes one, so it is a
right inverse (`inetAton_inetNtoa`) and injective.
-/

namespace TradingLatency.Inet

open CText Bytes

/-! ## Reading -/

/-- The value of a digit; 16 for any other character. -/
def digitVal (c : Char) : Nat :=
  if c.isDigit then c.toNat - '0'.toNat
  else if 'a' ≤ c && c ≤ 'f' then c.toNat - 'a'.toNat + 10
  else if 'A' ≤ c && c ≤ 'F' then c.toNat - 'A'.toNat + 10
  else 16

def isDigitOf (base : Nat) (c : Char) : Bool := digitVal c < base

/-- The number at the front of a text, and what follows. -/
def readDigits (base : Nat) (t : Text) : Nat × Text :=
  ((t.takeWhile (isDigitOf base)).foldl (fun v c => base * v + digitVal c) 0,
    t.dropWhile (isDigitOf base))

/-- The front of a text that `strtoul` takes for a hexadecimal number. -/
def hexPrefix : Text → Bool
  | '0' :: x :: c :: _ => (x = 'x' || x = 'X') && isDigitOf 16 c
  | _ => false

/-- `strtoul(t, &end, 0)` on a text that starts with a digit. The value is not
limited to `unsigned long`: the only caller rejects all above `2 ^ 32 - 1`. -/
def strtoulAnyBase (t : Text) : Nat × Text :=
  if hexPrefix t then readDigits 16 (t.drop 2)
  else if t.head? = some '0' then readDigits 8 t
  else readDigits 10 t

/-- The address of `bytes`, the parts in front of the last dot, and the last part. -/
def inAddr (bytes : List UInt8) (val : UInt32) : UInt32 :=
  match bytes with
  | [] => word32 (val >>> 24).toUInt8 (val >>> 16).toUInt8 (val >>> 8).toUInt8 val.toUInt8
  | [a] => word32 a (val >>> 16).toUInt8 (val >>> 8).toUInt8 val.toUInt8
  | [a, b] => word32 a b (val >>> 8).toUInt8 val.toUInt8
  | a :: b :: c :: _ => word32 a b c val.toUInt8

/-- The loop of `inet_aton`, with the bytes so far and the dots that may follow. -/
def inetAtonFrom : Nat → List UInt8 → Text → Option UInt32
  | dots, bytes, cp =>
      if (cp.head?.any Char.isDigit) = false then none
      else
        let r := strtoulAnyBase cp
        if 0xffffffff < r.1 then none
        else
          match r.2, dots with
          | '.' :: _, 0 => none
          | '.' :: rest, dots + 1 =>
              if 0xff < r.1 then none else inetAtonFrom dots (bytes ++ [UInt8.ofNat r.1]) rest
          | rest, _ =>
              -- the last part fills the bytes that are left
              if rest.head?.all (fun c => c = nul || isspace c) && r.1 < 256 ^ (4 - bytes.length) then
                some (inAddr bytes (UInt32.ofNat r.1))
              else none

/-- `inet_aton`; `none` when it returns 0. -/
def inetAton (cp : Text) : Option UInt32 := inetAtonFrom 3 [] cp

/-! ## Writing -/

/-- `inet_ntoa`: `%d.%d.%d.%d` of the bytes. -/
def inetNtoa (addr : UInt32) : Text :=
  dec addr.toUInt8.toNat ++ '.' :: (dec (addr >>> 8).toUInt8.toNat ++ '.' ::
    (dec (addr >>> 16).toUInt8.toNat ++ '.' :: dec (addr >>> 24).toUInt8.toNat))

/-! ## Round trip -/

theorem isDigitOf_ten_of_isDigit {c : Char} (h : c.isDigit) : isDigitOf 10 c = true := by
  have hc : c.toNat ≤ '9'.toNat := by
    simp only [Char.isDigit, Bool.and_eq_true, decide_eq_true_eq] at h
    exact UInt32.le_iff_toNat_le.mp h.2
  have h9 : '9'.toNat = 57 := rfl
  have h0 : '0'.toNat = 48 := rfl
  simp only [isDigitOf, digitVal, if_pos h, decide_eq_true_eq]
  omega

/-- Digits in front of a dot or of the end. -/
theorem readDigits_decimal {s r : Text} (hs : ∀ c ∈ s, c.isDigit) (hr : r.head?.all (· = '.')) :
    readDigits 10 (s ++ r) = (decimalValue s, r) := by
  have hs' : ∀ c ∈ s, isDigitOf 10 c = true := fun c hc => isDigitOf_ten_of_isDigit (hs c hc)
  -- the digits end at the point or with the text
  have hr' : ∀ c ∈ r.head?, isDigitOf 10 c = false := by
    intro c hc
    rw [Option.mem_def] at hc
    rw [hc] at hr
    have hdot : c = '.' := by simpa using hr
    rw [hdot]
    rfl
  have hval : s.foldl (fun v c => 10 * v + digitVal c) 0 = decimalValue s := by
    rw [decimalValue, Nat.ofDigitChars_eq_foldl]
    apply List.foldl_ext
    intro v c hc
    rw [digitVal, if_pos (hs c hc)]
  rw [readDigits, takeWhile_append_stop _ _ _ hs' hr', dropWhile_append_stop _ _ _ hs' hr', hval]

/-- No number but zero is written with a zero in front. -/
theorem head_dec_ne_zero {n : Nat} (hn : 0 < n) : (dec n).head? ≠ some '0' := by
  unfold dec
  induction n using Nat.strongRecOn with
  | ind n ih =>
    rcases Nat.lt_or_ge n 10 with h | h
    · have hdigit : ∀ d < 10, 0 < d → [d.digitChar].head? ≠ some '0' := by decide
      rw [Nat.toDigits_of_lt_base h]
      exact hdigit n h hn
    · rw [Nat.toDigits_of_base_le (by decide) h, List.head?_append_of_ne_nil _ Nat.toDigits_ne_nil]
      exact ih (n / 10) (by omega) (by omega)

theorem strtoulAnyBase_dec (n : Nat) {r : Text} (hr : r.head?.all (· = '.')) :
    strtoulAnyBase (dec n ++ r) = (n, r) := by
  rcases Nat.eq_zero_or_pos n with rfl | hn
  · -- a single zero is read as octal
    have hzero : dec 0 = ['0'] := rfl
    cases r with
    | nil => rfl
    | cons c r =>
      have hdot : c = '.' := by simpa using hr
      subst hdot
      rw [hzero]
      cases r with
      | nil => rfl
      | cons d r => rfl
  · have hhead := head_dec_ne_zero hn
    rcases hdec : dec n with _ | ⟨c, ds⟩
    · exact absurd hdec (dec_ne_nil n)
    rw [hdec, List.head?_cons] at hhead
    have hc : c ≠ '0' := fun h => hhead (congrArg some h)
    have hhex : hexPrefix (c :: ds ++ r) = false := by
      rw [List.cons_append]
      unfold hexPrefix
      split
      · rename_i heq
        exact absurd (List.cons.inj heq).1 hc
      · rfl
    have hdigits : ∀ d ∈ c :: ds, d.isDigit := by
      rw [← hdec]
      exact (isDecimal_dec n).2
    rw [strtoulAnyBase, hhex, if_neg Bool.false_ne_true, if_neg (by simpa using hc),
      readDigits_decimal hdigits hr, ← hdec, decimalValue_dec]

theorem head_dec_append (n : Nat) (r : Text) : (dec n ++ r).head?.any Char.isDigit = true := by
  rcases hdec : dec n with _ | ⟨c, ds⟩
  · exact absurd hdec (dec_ne_nil n)
  · have hc := (isDecimal_dec n).2 c (by rw [hdec]; exact List.mem_cons_self)
    simpa using hc

theorem inetAtonFrom_dec_dot (dots : Nat) (bytes : List UInt8) (b : UInt8) (rest : Text) :
    inetAtonFrom (dots + 1) bytes (dec b.toNat ++ '.' :: rest) =
      inetAtonFrom dots (bytes ++ [b]) rest := by
  have hb := b.toNat_lt
  rw [inetAtonFrom.eq_def]
  simp only [head_dec_append, strtoulAnyBase_dec b.toNat (r := '.' :: rest) rfl]
  rw [if_neg (by decide), if_neg (by omega), if_neg (by omega), UInt8.ofNat_toNat]

theorem inetAtonFrom_dec_end (dots : Nat) (a b c d : UInt8) :
    inetAtonFrom dots [a, b, c] (dec d.toNat) = some (word32 a b c d) := by
  have hd := d.toNat_lt
  have hhead := head_dec_append d.toNat []
  have hread := strtoulAnyBase_dec d.toNat (r := []) rfl
  rw [List.append_nil] at hhead hread
  have hval : (UInt32.ofNat d.toNat).toUInt8 = d := by
    apply UInt8.toNat_inj.mp
    simp
  rw [inetAtonFrom.eq_def]
  simp only [hhead, hread]
  rw [if_neg (by decide), if_neg (by omega), if_pos (by simpa using hd)]
  exact congrArg (fun x => some (word32 a b c x)) hval

/-- Reading back what `inet_ntoa` has written. -/
theorem inetAton_inetNtoa (addr : UInt32) : inetAton (inetNtoa addr) = some addr := by
  unfold inetAton inetNtoa
  rw [inetAtonFrom_dec_dot, inetAtonFrom_dec_dot, inetAtonFrom_dec_dot]
  exact (inetAtonFrom_dec_end 0 _ _ _ _).trans (congrArg some (word32_bytes addr))

theorem inetNtoa_inj {a b : UInt32} : inetNtoa a = inetNtoa b ↔ a = b := by
  constructor
  · intro h
    have ha := inetAton_inetNtoa a
    rw [h, inetAton_inetNtoa b] at ha
    exact (Option.some.inj ha).symm
  · exact congrArg inetNtoa

end TradingLatency.Inet
