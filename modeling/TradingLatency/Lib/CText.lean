import Mathlib.Algebra.Group.Int.Defs
import Mathlib.Algebra.Group.Nat.Defs
import Mathlib.Data.List.DropRight
import Mathlib.Data.List.Infix

/-!
# CText — the part of the C text library that the programs use

A C string is the list of its characters, without the closing NUL. The
functions follow the documented behaviour of their C counterparts on a
64-bit glibc system:

* `strtol`, `strtoul`, `atoi`, `atoll` — reading a decimal number;
* `strtok` — splitting at a separator;
* `dec`, `decPad` — the conversions `%u`, `%llu` and `%0<w>llu`;
* `fgets`, `readLines`, `chop` — reading a file line by line and cutting the
  line at its end-of-line characters.

The lemmas at the end of each section are the ones a caller needs: what a
function returns on a text of the expected shape.
-/

namespace CText

/-- A C string, or the contents of a text file. -/
abbrev Text := List Char

/-- The NUL character that ends a C string. -/
def nul : Char := '\x00'

/-- `isspace` in the C locale. -/
def isspace (c : Char) : Bool :=
  c = ' ' || c = '\t' || c = '\n' || c = '\x0b' || c = '\x0c' || c = '\r'

/-! ## Reading numbers -/

/-- The value of `strtol` is cut to the range of a 64-bit `long`. -/
def clampLong (v : Int) : Int :=
  max (-2 ^ 63) (min v (2 ^ 63 - 1))

/-- The sign that `strtol` accepts in front of the digits, and what follows. -/
def takeSign : Text → Bool × Text
  | '-' :: t => (true, t)
  | '+' :: t => (false, t)
  | t => (false, t)

/-- `strtol(s, &end, 10)`: the value, and the text that `end` points to.
Without digits the value is `0` and `end` is the whole text. -/
def strtol (s : Text) : Int × Text :=
  let t := takeSign (s.dropWhile isspace)
  let ds := t.2.takeWhile Char.isDigit
  if ds = [] then (0, s)
  else
    let v : Int := Nat.ofDigitChars 10 ds 0
    (clampLong (if t.1 then -v else v), t.2.dropWhile Char.isDigit)

/-- `strtoul(s, &end, 10)`: a number out of range is `ULONG_MAX`, and a minus
sign negates the value in the unsigned type. -/
def strtoul (s : Text) : UInt64 × Text :=
  let t := takeSign (s.dropWhile isspace)
  let ds := t.2.takeWhile Char.isDigit
  if ds = [] then (0, s)
  else
    let v := Nat.ofDigitChars 10 ds 0
    let r := if v < 2 ^ 64 then (if t.1 then -UInt64.ofNat v else UInt64.ofNat v)
      else UInt64.ofNat (2 ^ 64 - 1)
    (r, t.2.dropWhile Char.isDigit)

/-- The tokens that repeated calls of `strtok(s, sep)` return. -/
def strtok (s : Text) (sep : Char) : List Text := (s.splitOn sep).filter (· ≠ [])

/-- `atoll(s)`. -/
def atoll (s : Text) : Int := (strtol s).1

/-- `atoi(s)`: the `long` that `strtol` reads, converted to `int`. -/
def atoi (s : Text) : Int := (strtol s).1.bmod (2 ^ 32)

/-- A non-empty text of decimal digits. -/
def IsDecimal (s : Text) : Prop := s ≠ [] ∧ ∀ c ∈ s, c.isDigit

instance (s : Text) : Decidable (IsDecimal s) :=
  @instDecidableAnd (s ≠ []) (∀ c ∈ s, c.isDigit) _ (List.decidableBAll _ s)

/-- The number that a text of decimal digits denotes. -/
def decimalValue (s : Text) : Nat := Nat.ofDigitChars 10 s 0

/-- A text that is continued: its value moves up by as many places. -/
theorem decimalValue_append (s t : Text) :
    decimalValue (s ++ t) = decimalValue s * 10 ^ t.length + decimalValue t := by
  unfold decimalValue
  rw [Nat.ofDigitChars_append, Nat.ofDigitChars_eq_ofDigitChars_zero, Nat.mul_comm]

@[simp] theorem decimalValue_nil : decimalValue [] = 0 := rfl

@[simp] theorem decimalValue_replicate_zero (n : Nat) :
    decimalValue (List.replicate n '0') = 0 := by
  rw [decimalValue, Nat.ofDigitChars_replicate_zero, Nat.mul_zero]

theorem decimalValue_singleton_lt {c : Char} (hc : c.isDigit) : decimalValue [c] < 10 := by
  have hle : c.toNat ≤ 57 := by
    simp only [Char.isDigit, Bool.and_eq_true, decide_eq_true_eq] at hc
    exact UInt32.le_iff_toNat_le.mp hc.2
  have hval : decimalValue [c] = c.toNat - '0'.toNat := by
    simp [decimalValue, Nat.ofDigitChars_cons]
  have hzero : '0'.toNat = 48 := rfl
  omega

/-- A text of `k` digits denotes a number below `10^k`. -/
theorem decimalValue_lt {s : Text} (h : ∀ c ∈ s, c.isDigit) :
    decimalValue s < 10 ^ s.length := by
  induction s using List.reverseRecOn with
  | nil => simp
  | append_singleton s c ih =>
    have hs := ih fun d hd => h d (by simp [hd])
    have hc := decimalValue_singleton_lt (h c (by simp))
    have hpow : 10 ^ (s ++ [c]).length = 10 * 10 ^ s.length := by
      rw [List.length_append, List.length_singleton, Nat.pow_succ, Nat.mul_comm]
    rw [decimalValue_append, hpow, List.length_singleton]
    omega

theorem isspace_of_isDigit {c : Char} (h : c.isDigit) : isspace c = false := by
  simp only [isspace, Bool.or_eq_false_iff, decide_eq_false_iff_not]
  refine ⟨⟨⟨⟨⟨?_, ?_⟩, ?_⟩, ?_⟩, ?_⟩, ?_⟩ <;> rintro rfl <;> revert h <;> decide

theorem takeSign_of_isDigit {c : Char} (t : Text) (h : c.isDigit) :
    takeSign (c :: t) = (false, c :: t) := by
  unfold takeSign
  split
  · rename_i heq
    obtain ⟨rfl, -⟩ := List.cons.inj heq
    exact absurd h (by decide)
  · rename_i heq
    obtain ⟨rfl, -⟩ := List.cons.inj heq
    exact absurd h (by decide)
  · rfl

theorem takeWhile_append_stop {α : Type} (p : α → Bool) (l r : List α)
    (hl : ∀ c ∈ l, p c) (hr : ∀ c ∈ r.head?, p c = false) :
    (l ++ r).takeWhile p = l := by
  rw [List.takeWhile_append_of_pos hl]
  cases r with
  | nil => simp
  | cons c r => simp [hr c (by simp)]

theorem dropWhile_append_stop {α : Type} (p : α → Bool) (l r : List α)
    (hl : ∀ c ∈ l, p c) (hr : ∀ c ∈ r.head?, p c = false) :
    (l ++ r).dropWhile p = r := by
  rw [List.dropWhile_append_of_pos hl]
  cases r with
  | nil => simp
  | cons c r => simp [hr c (by simp)]

/-- How a decimal text that is followed by something else than a digit is read:
no white space, no sign, the digits, and what is behind them. -/
theorem scan_decimal (s r : Text) (hs : IsDecimal s) (hr : ∀ c ∈ r.head?, c.isDigit = false) :
    takeSign ((s ++ r).dropWhile isspace) = (false, s ++ r) ∧
      (s ++ r).takeWhile Char.isDigit = s ∧ (s ++ r).dropWhile Char.isDigit = r := by
  rcases hs with ⟨hne, hd⟩
  refine ⟨?_, takeWhile_append_stop _ _ _ hd hr, dropWhile_append_stop _ _ _ hd hr⟩
  cases s with
  | nil => exact absurd rfl hne
  | cons c s =>
    have hc : c.isDigit := hd c (by simp)
    have hskip : (c :: s ++ r).dropWhile isspace = c :: s ++ r := by
      simp [isspace_of_isDigit hc]
    rw [hskip]
    exact takeSign_of_isDigit _ hc

/-- `strtol` on a decimal text: the value of the digits, and the end pointer right
behind them. -/
theorem strtol_decimal (s r : Text) (hs : IsDecimal s) (hr : ∀ c ∈ r.head?, c.isDigit = false) :
    strtol (s ++ r) = (clampLong (decimalValue s), r) := by
  rcases scan_decimal s r hs hr with ⟨hsign, htake, hdrop⟩
  simp only [strtol, hsign, htake, hdrop, decimalValue, if_neg hs.1]
  simp

/-- `strtoul` on a decimal text. -/
theorem strtoul_decimal (s r : Text) (hs : IsDecimal s) (hr : ∀ c ∈ r.head?, c.isDigit = false) :
    strtoul (s ++ r) =
      (if decimalValue s < 2 ^ 64 then UInt64.ofNat (decimalValue s)
        else UInt64.ofNat (2 ^ 64 - 1), r) := by
  rcases scan_decimal s r hs hr with ⟨hsign, htake, hdrop⟩
  simp only [strtoul, hsign, htake, hdrop, decimalValue, if_neg hs.1, Bool.false_eq_true, if_false]
  rfl

/-- A text that begins with a digit is a decimal text and what is behind it. -/
theorem exists_decimal {s : Text} {c : Char} (hs : s.head? = some c) (hc : c.isDigit) :
    ∃ n r, s = n ++ r ∧ IsDecimal n ∧ ∀ d ∈ r.head?, d.isDigit = false := by
  refine ⟨s.takeWhile Char.isDigit, s.dropWhile Char.isDigit,
    List.takeWhile_append_dropWhile.symm, ⟨?_, ?_⟩, ?_⟩
  · cases s with
    | nil => cases hs
    | cons d s =>
      cases hs
      rw [List.takeWhile_cons_of_pos hc]
      exact List.cons_ne_nil _ _
  · intro d hd
    exact List.mem_takeWhile_imp hd
  · intro d hd
    have hnot := List.head?_dropWhile_not Char.isDigit s
    rw [Option.mem_def.mp hd] at hnot
    simpa using hnot

theorem strtol_decimal_end (s : Text) (hs : IsDecimal s) :
    strtol s = (clampLong (decimalValue s), []) := by
  have h := strtol_decimal s [] hs (by simp)
  rwa [List.append_nil] at h

theorem clampLong_natCast {n : Nat} (h : n < 2 ^ 63) : clampLong (n : Int) = n := by
  unfold clampLong
  omega

/-- `atoll` on a decimal text that ends where the digits end. -/
theorem atoll_decimal (s r : Text) (hs : IsDecimal s) (hr : ∀ c ∈ r.head?, c.isDigit = false)
    (hv : decimalValue s < 2 ^ 63) : atoll (s ++ r) = decimalValue s := by
  rw [atoll, strtol_decimal s r hs hr]
  exact clampLong_natCast hv

/-- `atoi` on a decimal text whose value is a positive `int`. -/
theorem atoi_decimal (s : Text) (hs : IsDecimal s) (hv : decimalValue s < 2 ^ 31) :
    atoi s = decimalValue s := by
  have hlong : decimalValue s < 2 ^ 63 := by omega
  rw [atoi, strtol_decimal_end s hs, clampLong_natCast hlong]
  apply Int.bmod_eq_of_le <;> omega

/-! ## Conversions to unsigned types -/

theorem uint16_ofInt_natCast (n : Nat) : UInt16.ofInt (n : Int) = UInt16.ofNat n := by
  apply UInt16.toNat_inj.mp
  simp only [UInt16.ofInt, UInt16.toNat_ofNat']
  omega

theorem uint32_ofInt_natCast (n : Nat) : UInt32.ofInt (n : Int) = UInt32.ofNat n := by
  apply UInt32.toNat_inj.mp
  simp only [UInt32.ofInt, UInt32.toNat_ofNat']
  omega

theorem uint64_ofInt_natCast (n : Nat) : UInt64.ofInt (n : Int) = UInt64.ofNat n := by
  apply UInt64.toNat_inj.mp
  simp only [UInt64.ofInt, UInt64.toNat_ofNat']
  omega

/-! ## Printing numbers -/

/-- `%u` and `%llu`. -/
def dec (n : Nat) : Text := Nat.toDigits 10 n

/-- `%0<w>llu`. -/
def decPad (w n : Nat) : Text := (dec n).leftpad w '0'

theorem isDecimal_dec (n : Nat) : IsDecimal (dec n) :=
  ⟨Nat.toDigits_ne_nil, fun _ hc => Nat.isDigit_of_mem_toDigits (by decide) (by decide) hc⟩

@[simp] theorem decimalValue_dec (n : Nat) : decimalValue (dec n) = n :=
  Nat.ofDigitChars_ten_toDigits

theorem length_dec_le {n k : Nat} (hk : 0 < k) (h : n < 10 ^ k) : (dec n).length ≤ k :=
  (Nat.length_toDigits_le_iff (by decide) hk).mpr h

theorem dec_ne_nil (n : Nat) : dec n ≠ [] := Nat.toDigits_ne_nil

/-- Only the number zero is printed with a zero in front. -/
theorem dec_of_head_zero {n : Nat} (h : (dec n).head? = some '0') : dec n = ['0'] := by
  rcases List.head?_eq_some_iff.mp h with ⟨rest, hrest⟩
  cases rest with
  | nil => exact hrest
  | cons c rest =>
    -- without the zero the number has fewer digits
    have hval : n = decimalValue (c :: rest) := by
      have happ := decimalValue_append ['0'] (c :: rest)
      rw [List.singleton_append, ← hrest, decimalValue_dec] at happ
      rw [happ]
      simp [decimalValue, Nat.ofDigitChars_cons]
    have hlt : n < 10 ^ (c :: rest).length := by
      rw [hval]
      exact decimalValue_lt fun d hd => (isDecimal_dec n).2 d (by rw [hrest]; exact .tail _ hd)
    have hle := length_dec_le (by simp) hlt
    rw [hrest] at hle
    simp only [List.length_cons] at hle
    omega

theorem isDecimal_decPad (w n : Nat) : IsDecimal (decPad w n) := by
  refine ⟨?_, ?_⟩
  · simp [decPad, List.leftpad, dec_ne_nil]
  · intro c hc
    rcases List.mem_append.mp hc with h | h
    · rw [List.eq_of_mem_replicate h]
      decide
    · exact (isDecimal_dec n).2 c h

@[simp] theorem decimalValue_decPad (w n : Nat) : decimalValue (decPad w n) = n := by
  have h := decimalValue_dec n
  unfold decimalValue at h ⊢
  rw [decPad, List.leftpad, Nat.ofDigitChars_append, Nat.ofDigitChars_replicate_zero, Nat.mul_zero]
  exact h

theorem length_decPad {w n : Nat} (hw : 0 < w) (h : n < 10 ^ w) : (decPad w n).length = w := by
  have := length_dec_le hw h
  simp [decPad]
  omega

theorem not_mem_of_isDecimal {s : Text} (hs : IsDecimal s) {c : Char} (hc : c.isDigit = false) :
    c ∉ s := by
  intro hmem
  rw [hs.2 c hmem] at hc
  exact absurd hc (by decide)

/-! ## Separated texts -/

/-- A separated text is its first part followed by the other parts, each with
the separator in front. -/
theorem intercalate_cons_eq (sep : Char) (a : Text) (fs : List Text) :
    [sep].intercalate (a :: fs) = a ++ fs.flatMap (sep :: ·) := by
  induction fs generalizing a with
  | nil => simp
  | cons f fs ih =>
    rw [List.intercalate_cons_cons, ih]
    simp

theorem mem_intercalate {sep c : Char} {fs : List Text} (h : c ∈ [sep].intercalate fs) :
    c = sep ∨ ∃ f ∈ fs, c ∈ f := by
  cases fs with
  | nil => simp [List.intercalate] at h
  | cons a fs =>
    rw [intercalate_cons_eq] at h
    rcases List.mem_append.mp h with ha | hfs
    · exact Or.inr ⟨a, by simp, ha⟩
    · rcases List.mem_flatMap.mp hfs with ⟨f, hf, hc⟩
      rcases List.mem_cons.mp hc with hsep | hcf
      · exact Or.inl hsep
      · exact Or.inr ⟨f, List.mem_cons_of_mem _ hf, hcf⟩

/-- The pieces of a split do not hold the separator. -/
theorem not_mem_of_mem_splitOn {sep : Char} {t w : Text} (h : w ∈ t.splitOn sep) : sep ∉ w := by
  induction t generalizing w with
  | nil =>
    simp [List.splitOn_nil] at h
    simp [h]
  | cons c t ih =>
    rw [List.splitOn_cons_eq_if_modifyHead] at h
    by_cases hc : (c == sep) = true
    · -- the separator ends a field and is part of none
      rw [if_pos hc] at h
      rcases List.mem_cons.mp h with rfl | h
      · simp
      · exact ih h
    · rw [if_neg hc] at h
      -- any other character is in front of the first field
      rcases hs : t.splitOn sep with _ | ⟨v, vs⟩
      · exact absurd hs (List.splitOn_ne_nil sep t)
      · rw [hs, List.modifyHead_cons] at h
        have hv := ih (w := v) (by simp [hs])
        rcases List.mem_cons.mp h with rfl | h
        · intro hm
          rcases List.mem_cons.mp hm with rfl | hm
          · simp at hc
          · exact hv hm
        · exact ih (by simp [hs, h])

/-- Splitting a literal. Stated on `String.ofList`, so that two literals are
compared as lists of characters and not by their encoding. -/
theorem splitOn_literal {l : Text} {sep : Char} {parts : List Text}
    (h : (l.splitOn sep).map (fun part => (String.ofList part).toList) = parts) :
    (String.ofList l).toList.splitOn sep = parts := by
  rw [← h, String.toList_ofList]
  exact ((List.map_congr_left fun _ _ => String.toList_ofList).trans (List.map_id _)).symm

/-- A property of a literal, as one of its characters. -/
theorem of_literal {P : Text → Prop} {l : Text} (h : P l) : P (String.ofList l).toList := by
  rw [String.toList_ofList]
  exact h

/-- The characters of a text, one by one. Characters are a finite type, and
`decide` on the right side would run through all of them. -/
theorem forall_of_all {l : Text} {P : Char → Prop} [DecidablePred P] (h : l.all (P ·) = true) :
    ∀ c ∈ l, P c := by
  intro c hc
  exact of_decide_eq_true (List.all_eq_true.mp h c hc)

/-- Lines that each end with a newline. -/
theorem splitOn_flatMap_newline (sep : Char) (lines : List Text) (h : ∀ l ∈ lines, sep ∉ l) :
    (lines.flatMap (· ++ [sep])).splitOn sep = lines ++ [[]] := by
  have hjoin : lines.flatMap (· ++ [sep]) = [sep].intercalate (lines ++ [[]]) := by
    induction lines with
    | nil => simp
    | cons l lines ih =>
      rw [List.flatMap_cons, ih fun l' hl => h l' (List.mem_cons_of_mem _ hl)]
      cases lines <;> simp [List.intercalate_cons_cons]
  rw [hjoin, List.splitOn_intercalate sep _ (by simp)]
  intro l hl
  rcases List.mem_append.mp hl with hl | hl
  · exact h l hl
  · simp [List.mem_singleton.mp hl]

/-! ## Reading lines -/

/-- What one `fgets` call takes from a non-empty stream: at most `n`
characters, and nothing behind a newline. -/
def fgetsTake : Nat → Text → Text × Text
  | 0, t => ([], t)
  | _ + 1, [] => ([], [])
  | n + 1, c :: t =>
      if c = '\n' then ([c], t) else (c :: (fgetsTake n t).1, (fgetsTake n t).2)

/-- `fgets(line, size, fp)`: the line and the rest of the stream, `none` at
the end of the file. -/
def fgets (size : Nat) (t : Text) : Option (Text × Text) :=
  if t = [] then none else some (fgetsTake (size - 1) t)

/-- The lines that a `while (fgets(line, size, fp))` loop sees. Each call takes
at least one character, so the length of the text is enough fuel. -/
def readLinesFuel (size : Nat) : Nat → Text → List Text
  | 0, _ => []
  | fuel + 1, t =>
      match fgets size t with
      | none => []
      | some (line, rest) => line :: readLinesFuel size fuel rest

/-- All remaining lines of a stream. -/
def readLines (size : Nat) (t : Text) : List Text := readLinesFuel size t.length t

/-- `line[strcspn(line, "\r\n")] = '\0'`: the C string up to its first
end-of-line character. A NUL in the file ends the C string as well. -/
def chop (line : Text) : Text :=
  line.takeWhile fun c => c ≠ nul && c ≠ '\r' && c ≠ '\n'

/-- A line that holds no end-of-line character and no NUL. -/
def IsPlain (line : Text) : Prop := nul ∉ line ∧ '\r' ∉ line ∧ '\n' ∉ line

theorem fgetsTake_line (line rest : Text) (n : Nat) (hnl : '\n' ∉ line) (hn : line.length < n) :
    fgetsTake n (line ++ '\n' :: rest) = (line ++ ['\n'], rest) := by
  induction line generalizing n with
  | nil =>
    cases n with
    | zero => simp at hn
    | succ n => simp [fgetsTake]
  | cons c line ih =>
    cases n with
    | zero => simp at hn
    | succ n =>
      have hc : c ≠ '\n' := fun h => hnl (by simp [h])
      have htail : '\n' ∉ line := fun h => hnl (List.mem_cons_of_mem _ h)
      simp [fgetsTake, hc, ih n htail (by simpa using hn)]

theorem fgetsTake_last (line : Text) (n : Nat) (hnl : '\n' ∉ line) (hn : line.length ≤ n) :
    fgetsTake n line = (line, []) := by
  induction line generalizing n with
  | nil => cases n <;> rfl
  | cons c line ih =>
    cases n with
    | zero => simp at hn
    | succ n =>
      have hc : c ≠ '\n' := fun h => hnl (by simp [h])
      have htail : '\n' ∉ line := fun h => hnl (List.mem_cons_of_mem _ h)
      simp [fgetsTake, hc, ih n htail (by simpa using hn)]

theorem chop_of_isPlain (line : Text) (h : IsPlain line) : chop line = line := by
  obtain ⟨h0, hr, hn⟩ := h
  apply List.takeWhile_eq_self_iff.mpr
  intro c hc
  have h1 : c ≠ nul := fun he => h0 (he ▸ hc)
  have h2 : c ≠ '\r' := fun he => hr (he ▸ hc)
  have h3 : c ≠ '\n' := fun he => hn (he ▸ hc)
  simp [h1, h2, h3]

/-! ## Printing into a buffer -/

/-- Subtraction of two `size_t` values: modulo `2^64`. -/
def sizeSub (a b : Nat) : Nat := (a + 2 ^ 64 - b) % 2 ^ 64

theorem sizeSub_of_le {a b : Nat} (hba : b ≤ a) (ha : a < 2 ^ 64) : sizeSub a b = a - b := by
  unfold sizeSub
  omega

/-- A character buffer that is filled by successive `snprintf` calls: the C
string it holds, and the offset at which the next call prints. -/
structure OutBuf where
  text : Text
  offset : Nat
deriving DecidableEq, Repr

/-- The buffer before the first call. -/
def OutBuf.empty : OutBuf := ⟨[], 0⟩

/-- `offset += snprintf(buffer + offset, size - offset, ...)` where the
conversion yields `s`: at most `size - offset - 1` characters arrive in the
buffer, the offset grows by the full length. -/
def OutBuf.snprintf (size : Nat) (b : OutBuf) (s : Text) : OutBuf :=
  { text := b.text.take b.offset ++ s.take (sizeSub size b.offset - 1)
    offset := b.offset + s.length }

/-- A conversion that fits is appended in full. -/
theorem OutBuf.snprintf_fits {size : Nat} {b : OutBuf} {s : Text} (hb : b.offset = b.text.length)
    (hfit : b.text.length + s.length < size) (hsize : size < 2 ^ 64) :
    b.snprintf size s = ⟨b.text ++ s, (b.text ++ s).length⟩ := by
  have hsub : sizeSub size b.text.length = size - b.text.length :=
    sizeSub_of_le (by omega) hsize
  have hall : s.take (size - b.text.length - 1) = s := List.take_of_length_le (by omega)
  simp only [OutBuf.snprintf, hb, hsub, hall, List.take_length, List.length_append]

/-- Conversions that fit together are appended one after another. -/
theorem OutBuf.foldl_snprintf_fits {size : Nat} (hsize : size < 2 ^ 64) (ss : List Text)
    {b : OutBuf} (hb : b.offset = b.text.length)
    (hfit : b.text.length + ss.flatten.length < size) :
    ss.foldl (OutBuf.snprintf size) b = ⟨b.text ++ ss.flatten, (b.text ++ ss.flatten).length⟩ := by
  induction ss generalizing b with
  | nil => simp [← hb]
  | cons s ss ih =>
    rw [List.flatten_cons, List.length_append] at hfit
    rw [List.foldl_cons, OutBuf.snprintf_fits hb (by omega) hsize, ih rfl]
    · simp
    · simp only [List.length_append]
      omega

end CText
