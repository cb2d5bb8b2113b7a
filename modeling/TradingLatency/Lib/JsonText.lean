import TradingLatency.Lib.Json
import Mathlib.Data.List.Basic

/-!
# JsonText — JSON texts and their values

`read` is the reader of RFC 8259 for a whole text. A value keeps the members of an
object as they are written, and a number by its literal. `render` writes a value
without blanks and without escaping anything, as programs do that put a message
together from pieces.

* `readChars_exact_iff`: the characters between two quotes are read as they stand
  if and only if none of them is a quote, a backslash or a control character;
* `read_render_iff`: a value is read back from its pieces if and only if all its
  strings are such.
-/

namespace Json

/-! ## Strings -/

def isWs (c : Char) : Bool := c = ' ' || c = '\n' || c = '\t' || c = '\r'

def skipWs (text : List Char) : List Char := text.dropWhile isWs

def hexVal (c : Char) : Option Nat :=
  if c.isDigit then some (c.toNat - '0'.toNat)
  else if 'a' ≤ c ∧ c ≤ 'f' then some (c.toNat - 'a'.toNat + 10)
  else if 'A' ≤ c ∧ c ≤ 'F' then some (c.toNat - 'A'.toNat + 10)
  else none

/-- The code unit of `\uabcd`. -/
def codeUnit (a b c d : Char) : Option Nat := do
  return (((← hexVal a) * 16 + (← hexVal b)) * 16 + (← hexVal c)) * 16 + (← hexVal d)

def isHighSurrogate (n : Nat) : Bool := 0xD800 ≤ n && n < 0xDC00

def isLowSurrogate (n : Nat) : Bool := 0xDC00 ≤ n && n < 0xE000

/-- The character behind a backslash, other than `u`. -/
def escaped : Char → Option Char
  | '"' => some '"'
  | '\\' => some '\\'
  | '/' => some '/'
  | 'b' => some '\x08'
  | 'f' => some '\x0c'
  | 'n' => some '\n'
  | 'r' => some '\r'
  | 't' => some '\t'
  | _ => none

/-- One more character in front. -/
def push (c : Char) (r : Option (List Char × List Char)) : Option (List Char × List Char) :=
  r.map fun (value, rest) => (c :: value, rest)

/-- The rest of a string behind its opening quote: its characters, and what
follows the closing quote. -/
def readChars : List Char → Option (List Char × List Char)
  | '"' :: rest => some ([], rest)
  | '\\' :: 'u' :: a :: b :: c :: d :: rest =>
      match codeUnit a b c d with
      | none => none
      | some n =>
          if isHighSurrogate n then
            match rest with
            | '\\' :: 'u' :: a' :: b' :: c' :: d' :: rest' =>
                match codeUnit a' b' c' d' with
                | none => none
                | some m =>
                    if isLowSurrogate m then
                      push (Char.ofNat (0x10000 + (n - 0xD800) * 0x400 + (m - 0xDC00)))
                        (readChars rest')
                    else none
            | _ => none
          else if isLowSurrogate n then none
          else push (Char.ofNat n) (readChars rest)
  | '\\' :: c :: rest =>
      match escaped c with
      | none => none
      | some x => push x (readChars rest)
  | c :: rest => if c.toNat < 0x20 then none else push c (readChars rest)
  | [] => none

/-- A text that stands for itself between quotes. -/
def PlainText (text : List Char) : Prop :=
  ∀ c ∈ text, c ≠ '"' ∧ c ≠ '\\' ∧ 0x20 ≤ c.toNat

instance (text : List Char) : Decidable (PlainText text) :=
  inferInstanceAs (Decidable (∀ c ∈ text, _))

/-- What was read, in front of the closing quote: escapes only shrink it, and no
quote is lost. -/
structure ReadsAs (raw value : List Char) : Prop where
  length_le : value.length ≤ raw.length
  plain : value.length = raw.length → value = raw ∧ PlainText raw
  quotes_le : raw.count '"' ≤ value.count '"'

theorem push_eq_some {c : Char} {r : Option (List Char × List Char)} {value rest : List Char}
    (h : push c r = some (value, rest)) : ∃ value', r = some (value', rest) ∧ value = c :: value' := by
  rcases Option.map_eq_some_iff.mp h with ⟨⟨value', rest'⟩, hr, heq⟩
  rcases Prod.mk.injEq .. ▸ heq with ⟨rfl, rfl⟩
  exact ⟨value', hr, rfl⟩

theorem hexVal_quote : hexVal '"' = none := by decide

/-- None of the digits of an escape is a quote. -/
theorem quote_notMem_codeUnit {a b c d : Char} {n : Nat} (h : codeUnit a b c d = some n) :
    '"' ∉ [a, b, c, d] := by
  have hne : ∀ x : Char, (∃ y, hexVal x = some y) → '"' ≠ x := by
    rintro x ⟨y, hy⟩ rfl
    rw [hexVal_quote] at hy
    cases hy
  simp only [codeUnit, Option.bind_eq_bind, Option.bind_eq_some_iff] at h
  rcases h with ⟨va, ha, vb, hb, vc, hc, vd, hd, -⟩
  intro hmem
  simp only [List.mem_cons, List.not_mem_nil, or_false] at hmem
  rcases hmem with hx | hx | hx | hx
  · exact hne a ⟨va, ha⟩ hx
  · exact hne b ⟨vb, hb⟩ hx
  · exact hne c ⟨vc, hc⟩ hx
  · exact hne d ⟨vd, hd⟩ hx

theorem quote_notMem_unicode {a b c d : Char} {n : Nat} (h : codeUnit a b c d = some n) :
    '"' ∉ ['\\', 'u', a, b, c, d] := by
  intro hmem
  rcases List.mem_cons.mp hmem with hx | hmem
  · revert hx
    decide
  · rcases List.mem_cons.mp hmem with hx | hmem
    · revert hx
      decide
    · exact quote_notMem_codeUnit h hmem

/-- An escape of `k` characters that stands for one. -/
theorem ReadsAs.escape {raw value : List Char} (h : ReadsAs raw value) (esc : List Char)
    (x : Char) (hlen : 2 ≤ esc.length) (hquotes : esc.count '"' ≤ [x].count '"') :
    ReadsAs (esc ++ raw) (x :: value) := by
  have hle := h.length_le
  constructor
  · rw [List.length_append, List.length_cons]
    omega
  · intro heq
    rw [List.length_append, List.length_cons] at heq
    omega
  · rw [List.count_append, ← List.singleton_append, List.count_append]
    exact Nat.add_le_add hquotes h.quotes_le

theorem escaped_quotes {c x : Char} (h : escaped c = some x) :
    ['\\', c].count '"' ≤ [x].count '"' := by
  unfold escaped at h
  split at h <;> first
    | cases h; decide
    | cases h

/-- What `readChars` consumes and what it makes of it. -/
theorem readChars_readsAs {text value rest : List Char}
    (h : readChars text = some (value, rest)) :
    ∃ raw, text = raw ++ '"' :: rest ∧ ReadsAs raw value := by
  fun_induction readChars text generalizing value with
  | case1 rest' =>
    cases h
    exact ⟨[], rfl, ⟨Nat.le_refl 0, fun _ => ⟨rfl, fun _ hc => absurd hc List.not_mem_nil⟩,
      Nat.le_refl 0⟩⟩
  | case2 => cases h
  | case3 => cases h
  | case4 a b c d n hn hhigh a' b' c' d' rest' m hm hlow ih =>
    rcases push_eq_some h with ⟨value', hr, rfl⟩
    rcases ih hr with ⟨raw, rfl, hraw⟩
    refine ⟨(['\\', 'u', a, b, c, d] ++ ['\\', 'u', a', b', c', d']) ++ raw, rfl, ?_⟩
    refine hraw.escape _ _ (by simp) ?_
    rw [List.count_eq_zero_of_not_mem]
    · exact Nat.zero_le _
    · intro hmem
      rcases List.mem_append.mp hmem with hmem | hmem
      · exact quote_notMem_unicode hn hmem
      · exact quote_notMem_unicode hm hmem
  | case5 => cases h
  | case6 => cases h
  | case7 => cases h
  | case8 a b c d rest' n hn hhigh hlow ih =>
    rcases push_eq_some h with ⟨value', hr, rfl⟩
    rcases ih hr with ⟨raw, rfl, hraw⟩
    refine ⟨['\\', 'u', a, b, c, d] ++ raw, rfl, ?_⟩
    refine hraw.escape _ _ (by simp) ?_
    rw [List.count_eq_zero_of_not_mem (quote_notMem_unicode hn)]
    exact Nat.zero_le _
  | case9 => cases h
  | case10 c rest' hu x hx ih =>
    rcases push_eq_some h with ⟨value', hr, rfl⟩
    rcases ih hr with ⟨raw, rfl, hraw⟩
    exact ⟨['\\', c] ++ raw, rfl, hraw.escape _ _ (Nat.le_refl 2) (escaped_quotes hx)⟩
  | case11 => cases h
  | case12 c rest' hquote hu hslash hc ih =>
    rcases push_eq_some h with ⟨value', hr, rfl⟩
    rcases ih hr with ⟨raw, rfl, hraw⟩
    -- a backslash would have been an escape, or the end of the text
    have hc' : c ≠ '\\' := by
      intro heq
      rcases raw with _ | ⟨c', raw⟩
      · exact hslash _ _ heq rfl
      · exact hslash _ _ heq rfl
    refine ⟨c :: raw, rfl, ?_, ?_, ?_⟩
    · exact Nat.succ_le_succ hraw.length_le
    · intro heq
      rcases hraw.plain (Nat.succ.inj heq) with ⟨rfl, hplain⟩
      refine ⟨rfl, ?_⟩
      intro x hx
      rcases List.mem_cons.mp hx with rfl | hx
      · exact ⟨hquote, hc', Nat.not_lt.mp hc⟩
      · exact hplain x hx
    · rw [List.count_cons_of_ne hquote, List.count_cons_of_ne hquote]
      exact hraw.quotes_le
  | case13 => cases h

/-- One plain character is read as it is. -/
theorem readChars_cons {c : Char} (hc : c ≠ '"' ∧ c ≠ '\\' ∧ 0x20 ≤ c.toNat) (text : List Char) :
    readChars (c :: text) = push c (readChars text) := by
  rcases hc with ⟨hquote, hslash, hctl⟩
  rw [readChars.eq_def]
  split
  · rename_i heq
    exact absurd (List.cons.inj heq).1 hquote
  · rename_i heq
    exact absurd (List.cons.inj heq).1 hslash
  · rename_i heq
    exact absurd (List.cons.inj heq).1 hslash
  · rename_i heq
    rcases List.cons.inj heq with ⟨rfl, rfl⟩
    exact if_neg (Nat.not_lt.mpr hctl)
  · rename_i heq
    cases heq

theorem readChars_plain {text : List Char} (h : PlainText text) (rest : List Char) :
    readChars (text ++ '"' :: rest) = some (text, rest) := by
  induction text with
  | nil => rfl
  | cons c text ih =>
    rw [List.cons_append, readChars_cons (h c List.mem_cons_self),
      ih fun x hx => h x (List.mem_cons_of_mem _ hx)]
    rfl

/-- A text between quotes is read as it stands if and only if it is plain. -/
theorem readChars_exact_iff {text rest rest' : List Char} :
    readChars (text ++ '"' :: rest) = some (text, rest') ↔ PlainText text ∧ rest' = rest := by
  constructor
  · intro h
    rcases readChars_readsAs h with ⟨raw, htext, hraw⟩
    -- the closing quote can stand before, at, or behind the end of the text
    rcases Nat.lt_trichotomy raw.length text.length with hlt | heq | hgt
    · exact absurd hraw.length_le (by omega)
    · rcases List.append_inj htext heq.symm with ⟨rfl, hrest⟩
      exact ⟨(hraw.plain heq.symm).2, (List.cons.inj hrest).2.symm⟩
    · have hpre : text ++ ['"'] <+: raw := by
        have h₁ : text ++ ['"'] <+: text ++ '"' :: rest := ⟨rest, by simp⟩
        have h₂ : raw <+: text ++ '"' :: rest := ⟨'"' :: rest', htext.symm⟩
        refine List.prefix_of_prefix_length_le h₁ h₂ ?_
        rw [List.length_append, List.length_singleton]
        omega
      have hcount := hpre.sublist.count_le '"'
      rw [List.count_append, List.count_singleton_self] at hcount
      exact absurd hraw.quotes_le (by omega)
  · rintro ⟨hplain, rfl⟩
    exact readChars_plain hplain _

/-! ## Values -/

/-- Some digits, and what follows them. -/
def readDigits (text : List Char) : Option (List Char × List Char) :=
  match text.span Char.isDigit with
  | ([], _) => none
  | (digits, rest) => some (digits, rest)

/-- The digits in front of the point: no zero in front of other digits. -/
def readInt : List Char → Option (List Char × List Char)
  | '0' :: rest => some (['0'], rest)
  | text => readDigits text

def readFraction : List Char → Option (List Char × List Char)
  | '.' :: rest => (readDigits rest).map fun (digits, rest) => ('.' :: digits, rest)
  | text => some ([], text)

def readExponent : List Char → Option (List Char × List Char)
  | c :: rest =>
      if c = 'e' ∨ c = 'E' then
        match rest with
        | '+' :: rest => (readDigits rest).map fun (digits, rest) => (c :: '+' :: digits, rest)
        | '-' :: rest => (readDigits rest).map fun (digits, rest) => (c :: '-' :: digits, rest)
        | rest => (readDigits rest).map fun (digits, rest) => (c :: digits, rest)
      else some ([], c :: rest)
  | [] => some ([], [])

def readNumber (text : List Char) : Option (List Char × List Char) := do
  let (sign, rest) := match text with
    | '-' :: rest => (['-'], rest)
    | text => ([], text)
  let (int, rest) ← readInt rest
  let (fraction, rest) ← readFraction rest
  let (exponent, rest) ← readExponent rest
  return (sign ++ int ++ fraction ++ exponent, rest)

mutual

/-- A value, and what follows it. -/
def readValue : Nat → List Char → Option (Json × List Char)
  | 0, _ => none
  | fuel + 1, text =>
      match skipWs text with
      | '"' :: text => (readChars text).map fun (value, rest) => (str (String.ofList value), rest)
      | '\x7b' :: text =>
          match skipWs text with
          | '\x7d' :: rest => some (obj [], rest)
          | text => (readMembers fuel text).map fun (members, rest) => (obj members, rest)
      | '[' :: text =>
          match skipWs text with
          | ']' :: rest => some (arr [], rest)
          | text => (readElems fuel text).map fun (elems, rest) => (arr elems, rest)
      | 't' :: 'r' :: 'u' :: 'e' :: rest => some (bool true, rest)
      | 'f' :: 'a' :: 'l' :: 's' :: 'e' :: rest => some (bool false, rest)
      | 'n' :: 'u' :: 'l' :: 'l' :: rest => some (null, rest)
      | text => (readNumber text).map fun (literal, rest) => (num (String.ofList literal), rest)

/-- The members of an object, up to its closing brace. -/
def readMembers : Nat → List Char → Option (List (String × Json) × List Char)
  | 0, _ => none
  | fuel + 1, text =>
      match skipWs text with
      | '"' :: text =>
          match readChars text with
          | none => none
          | some (key, text) =>
              match skipWs text with
              | ':' :: text =>
                  match readValue fuel text with
                  | none => none
                  | some (value, text) =>
                      match skipWs text with
                      | ',' :: text => (readMembers fuel text).map fun (members, rest) =>
                          ((String.ofList key, value) :: members, rest)
                      | '\x7d' :: rest => some ([(String.ofList key, value)], rest)
                      | _ => none
              | _ => none
      | _ => none

/-- The elements of an array, up to its closing bracket. -/
def readElems : Nat → List Char → Option (List Json × List Char)
  | 0, _ => none
  | fuel + 1, text =>
      match readValue fuel text with
      | none => none
      | some (value, text) =>
          match skipWs text with
          | ',' :: text => (readElems fuel text).map fun (elems, rest) => (value :: elems, rest)
          | ']' :: rest => some ([value], rest)
          | _ => none

end

/-- A whole text. There are no more values in it than characters. -/
def read (text : List Char) : Option Json :=
  match readValue text.length text with
  | some (value, rest) => if skipWs rest = [] then some value else none
  | none => none

/-! ## Texts put together from pieces -/

mutual

/-- The text of a value, without blanks and without escapes. -/
def render : Json → List Char
  | null => "null".toList
  | bool true => "true".toList
  | bool false => "false".toList
  | num literal => literal.toList
  | str value => '"' :: (value.toList ++ ['"'])
  | arr [] => "[]".toList
  | arr (value :: elems) => '[' :: (render value ++ renderElems elems)
  | obj [] => "\x7b\x7d".toList
  | obj ((key, value) :: members) =>
      '\x7b' :: '"' :: (key.toList ++ '"' :: ':' :: (render value ++ renderMembers members))

/-- The elements behind the first one, and the closing bracket. -/
def renderElems : List Json → List Char
  | [] => [']']
  | value :: elems => ',' :: (render value ++ renderElems elems)

/-- The members behind the first one, and the closing brace. -/
def renderMembers : List (String × Json) → List Char
  | [] => ['\x7d']
  | (key, value) :: members =>
      ',' :: '"' :: (key.toList ++ '"' :: ':' :: (render value ++ renderMembers members))

end

mutual

/-- Every string in the value meets `P`, and there is no number in it. -/
def AllStrings (P : List Char → Prop) : Json → Prop
  | null | bool _ => True
  | num _ => False
  | str value => P value.toList
  | arr elems => AllElems P elems
  | obj members => AllMembers P members

def AllElems (P : List Char → Prop) : List Json → Prop
  | [] => True
  | value :: elems => AllStrings P value ∧ AllElems P elems

def AllMembers (P : List Char → Prop) : List (String × Json) → Prop
  | [] => True
  | (key, value) :: members => P key.toList ∧ AllStrings P value ∧ AllMembers P members

end

theorem readValue_str (fuel : Nat) (text : List Char) :
    readValue (fuel + 1) ('"' :: text) =
      (readChars text).map fun r => (str (String.ofList r.1), r.2) := rfl

theorem readValue_obj (fuel : Nat) (text : List Char) :
    readValue (fuel + 1) ('\x7b' :: '"' :: text) =
      (readMembers fuel ('"' :: text)).map fun r => (obj r.1, r.2) := rfl

/-- The value of a text does not start like the end of an array. -/
theorem render_head {P : List Char → Prop} {v : Json} (h : AllStrings P v) :
    ∃ c text, render v = c :: text ∧ isWs c = false ∧ c ≠ ']' := by
  match v with
  | null => exact ⟨'n', _, rfl, rfl, by decide⟩
  | bool true => exact ⟨'t', _, rfl, rfl, by decide⟩
  | bool false => exact ⟨'f', _, rfl, rfl, by decide⟩
  | num literal => exact h.elim
  | str value => exact ⟨'"', _, rfl, rfl, by decide⟩
  | arr [] => exact ⟨'[', _, rfl, rfl, by decide⟩
  | arr (value :: elems) => exact ⟨'[', _, rfl, rfl, by decide⟩
  | obj [] => exact ⟨'\x7b', _, rfl, rfl, by decide⟩
  | obj ((key, value) :: members) => exact ⟨'\x7b', _, rfl, rfl, by decide⟩

theorem readValue_arr {P : List Char → Prop} {v : Json} (h : AllStrings P v) (fuel : Nat)
    (text : List Char) :
    readValue (fuel + 1) ('[' :: (render v ++ text)) =
      (readElems fuel (render v ++ text)).map fun r => (arr r.1, r.2) := by
  rcases render_head h with ⟨c, t, hrender, hws, hne⟩
  have hskip : skipWs (c :: (t ++ text)) = c :: (t ++ text) := by
    rw [skipWs, List.dropWhile_cons_of_neg (by simp [hws])]
  rw [hrender, List.cons_append]
  show (match skipWs (c :: (t ++ text)) with
    | ']' :: rest => some (arr [], rest)
    | text => (readElems fuel text).map fun (elems, rest) => (arr elems, rest)) = _
  rw [hskip]
  -- a value does not start with the bracket that ends the list
  split
  · rename_i heq
    exact absurd (List.cons.inj heq).1 hne
  · rfl

/-- Behind a value of an object comes the next member, or the end. -/
theorem readMembers_key (fuel : Nat) (key : List Char) (hkey : PlainText key)
    (text : List Char) :
    readMembers (fuel + 1) ('"' :: (key ++ '"' :: ':' :: text)) =
      match readValue fuel text with
      | none => none
      | some (value, text) =>
          match skipWs text with
          | ',' :: text => (readMembers fuel text).map fun r =>
              ((String.ofList key, value) :: r.1, r.2)
          | '\x7d' :: rest => some ([(String.ofList key, value)], rest)
          | _ => none := by
  show (match readChars (key ++ '"' :: ':' :: text) with
    | none => none
    | some (key, text) => _) = _
  rw [readChars_plain hkey]
  rfl

/-- With this fuel, what is rendered is read back. -/
structure ReadsBack (fuel : Nat) : Prop where
  value : ∀ v, AllStrings PlainText v → (render v).length ≤ fuel → ∀ rest,
    readValue fuel (render v ++ rest) = some (v, rest)
  elems : ∀ v elems, AllStrings PlainText v → AllElems PlainText elems →
    (render v).length + (renderElems elems).length ≤ fuel → ∀ rest,
    readElems fuel (render v ++ (renderElems elems ++ rest)) = some (v :: elems, rest)
  members : ∀ (key : String) v members, PlainText key.toList → AllStrings PlainText v →
    AllMembers PlainText members → (render v).length + (renderMembers members).length ≤ fuel →
    ∀ rest, readMembers fuel ('"' :: (key.toList ++ '"' :: ':' ::
      (render v ++ (renderMembers members ++ rest)))) = some ((key, v) :: members, rest)

theorem length_render_pos {P : List Char → Prop} {v : Json} (h : AllStrings P v) :
    0 < (render v).length := by
  rcases render_head h with ⟨c, text, hrender, -⟩
  rw [hrender]
  exact Nat.succ_pos _

theorem ReadsBack.value_succ {fuel : Nat} (h : ReadsBack fuel) (v : Json)
    (hv : AllStrings PlainText v) (hlen : (render v).length ≤ fuel + 1) (rest : List Char) :
    readValue (fuel + 1) (render v ++ rest) = some (v, rest) := by
  match v with
  | null => rfl
  | bool true => rfl
  | bool false => rfl
  | num literal => exact hv.elim
  | str value =>
    rw [AllStrings] at hv
    rw [render, List.cons_append, List.append_assoc, readValue_str, List.singleton_append,
      readChars_plain hv, Option.map_some, String.ofList_toList]
  | arr [] => rfl
  | arr (value :: elems) =>
    -- the fuel of the value is enough for its elements
    rw [AllStrings, AllElems] at hv
    rw [render, List.length_cons, List.length_append] at hlen
    rw [render, List.cons_append, List.append_assoc, readValue_arr hv.1,
      h.elems value elems hv.1 hv.2 (by omega) rest]
    rfl
  | obj [] => rfl
  | obj ((key, value) :: members) =>
    rw [AllStrings, AllMembers] at hv
    simp only [render, List.length_cons, List.length_append] at hlen
    simp only [render, List.cons_append, List.append_assoc]
    rw [readValue_obj, h.members key value members hv.1 hv.2.1 hv.2.2 (by omega) rest]
    rfl

theorem ReadsBack.elems_succ {fuel : Nat} (h : ReadsBack fuel) (v : Json) (elems : List Json)
    (hv : AllStrings PlainText v) (helems : AllElems PlainText elems)
    (hlen : (render v).length + (renderElems elems).length ≤ fuel + 1) (rest : List Char) :
    readElems (fuel + 1) (render v ++ (renderElems elems ++ rest)) = some (v :: elems, rest) := by
  have hpos := length_render_pos hv
  cases elems with
  | nil =>
    -- the last element, in front of the closing bracket
    rw [renderElems, List.length_singleton] at hlen
    rw [readElems, h.value v hv (by omega)]
    rfl
  | cons w elems =>
    -- an element and a comma, with less text behind
    rw [AllElems] at helems
    rw [renderElems, List.length_cons, List.length_append] at hlen
    rw [readElems, h.value v hv (by omega), renderElems]
    show (readElems fuel ((render w ++ renderElems elems) ++ rest)).map _ = _
    rw [List.append_assoc, h.elems w elems helems.1 helems.2 (by omega) rest]
    rfl

theorem ReadsBack.members_succ {fuel : Nat} (h : ReadsBack fuel) (key : String) (v : Json)
    (members : List (String × Json)) (hkey : PlainText key.toList) (hv : AllStrings PlainText v)
    (hmembers : AllMembers PlainText members)
    (hlen : (render v).length + (renderMembers members).length ≤ fuel + 1) (rest : List Char) :
    readMembers (fuel + 1) ('"' :: (key.toList ++ '"' :: ':' ::
      (render v ++ (renderMembers members ++ rest)))) = some ((key, v) :: members, rest) := by
  have hpos := length_render_pos hv
  rcases members with _ | ⟨⟨key', w⟩, members⟩
  · rw [renderMembers, List.length_singleton] at hlen
    rw [readMembers_key fuel _ hkey, h.value v hv (by omega), String.ofList_toList]
    rfl
  · rw [AllMembers] at hmembers
    simp only [renderMembers, List.length_cons, List.length_append] at hlen
    rw [readMembers_key fuel _ hkey, h.value v hv (by omega), String.ofList_toList]
    simp only [renderMembers, List.cons_append, List.append_assoc]
    show (readMembers fuel ('"' :: (key'.toList ++ '"' :: ':' ::
      (render w ++ (renderMembers members ++ rest))))).map _ = _
    rw [h.members key' w members hmembers.1 hmembers.2.1 hmembers.2.2 (by omega) rest]
    rfl

theorem readsBack (fuel : Nat) : ReadsBack fuel := by
  induction fuel with
  | zero =>
    constructor
    · intro v hv hlen
      have hpos := length_render_pos hv
      omega
    · intro v elems hv _ hlen
      have hpos := length_render_pos hv
      omega
    · intro key v members _ hv _ hlen
      have hpos := length_render_pos hv
      omega
  | succ fuel ih => exact ⟨ih.value_succ, ih.elems_succ, ih.members_succ⟩

/-- What is read back from its text is plain, and all of the text was used. -/
structure OnlyPlain (fuel : Nat) : Prop where
  value : ∀ v, AllStrings (fun _ => True) v → ∀ rest rest',
    readValue fuel (render v ++ rest) = some (v, rest') → AllStrings PlainText v ∧ rest' = rest
  elems : ∀ v elems, AllStrings (fun _ => True) v → AllElems (fun _ => True) elems →
    ∀ rest rest', readElems fuel (render v ++ (renderElems elems ++ rest)) =
      some (v :: elems, rest') →
    (AllStrings PlainText v ∧ AllElems PlainText elems) ∧ rest' = rest
  members : ∀ (key : String) v members, AllStrings (fun _ => True) v →
    AllMembers (fun _ => True) members → ∀ rest rest',
    readMembers fuel ('"' :: (key.toList ++ '"' :: ':' ::
      (render v ++ (renderMembers members ++ rest)))) = some ((key, v) :: members, rest') →
    (PlainText key.toList ∧ AllStrings PlainText v ∧ AllMembers PlainText members) ∧ rest' = rest

/-- The characters of a string that is read back. -/
theorem ofList_eq {cs : List Char} {s : String} (h : String.ofList cs = s) : cs = s.toList := by
  rw [← h, String.toList_ofList]

theorem OnlyPlain.value_succ {fuel : Nat} (h : OnlyPlain fuel) (v : Json)
    (hv : AllStrings (fun _ => True) v) (rest rest' : List Char)
    (hread : readValue (fuel + 1) (render v ++ rest) = some (v, rest')) :
    AllStrings PlainText v ∧ rest' = rest := by
  match v with
  | null =>
    cases hread
    exact ⟨trivial, rfl⟩
  | bool true =>
    cases hread
    exact ⟨trivial, rfl⟩
  | bool false =>
    cases hread
    exact ⟨trivial, rfl⟩
  | num literal => exact hv.elim
  | str value =>
    -- the characters read back are those of the string only if all are plain
    rw [render, List.cons_append, List.append_assoc, readValue_str, List.singleton_append] at hread
    rcases Option.map_eq_some_iff.mp hread with ⟨⟨cs, r⟩, hchars, heq⟩
    rcases Prod.mk.injEq .. ▸ heq with ⟨hstr, rfl⟩
    have hcs : cs = value.toList := ofList_eq (str.inj hstr)
    subst hcs
    rw [AllStrings]
    exact readChars_exact_iff.mp hchars
  | arr [] =>
    cases hread
    exact ⟨trivial, rfl⟩
  | arr (value :: elems) =>
    rw [AllStrings, AllElems] at hv
    rw [render, List.cons_append, List.append_assoc, readValue_arr hv.1] at hread
    rcases Option.map_eq_some_iff.mp hread with ⟨⟨es, r⟩, helems, heq⟩
    rcases Prod.mk.injEq .. ▸ heq with ⟨harr, rfl⟩
    have hes : es = value :: elems := arr.inj harr
    subst hes
    rw [AllStrings, AllElems]
    exact h.elems value elems hv.1 hv.2 _ _ helems
  | obj [] =>
    cases hread
    exact ⟨trivial, rfl⟩
  | obj ((key, value) :: members) =>
    rw [AllStrings, AllMembers] at hv
    simp only [render, List.cons_append, List.append_assoc] at hread
    rw [readValue_obj] at hread
    rcases Option.map_eq_some_iff.mp hread with ⟨⟨ms, r⟩, hmembers, heq⟩
    rcases Prod.mk.injEq .. ▸ heq with ⟨hobj, rfl⟩
    have hms : ms = (key, value) :: members := obj.inj hobj
    subst hms
    rw [AllStrings, AllMembers]
    exact h.members key value members hv.2.1 hv.2.2 _ _ hmembers

theorem OnlyPlain.elems_succ {fuel : Nat} (h : OnlyPlain fuel) (v : Json) (elems : List Json)
    (hv : AllStrings (fun _ => True) v) (helems : AllElems (fun _ => True) elems)
    (rest rest' : List Char)
    (hread : readElems (fuel + 1) (render v ++ (renderElems elems ++ rest)) =
      some (v :: elems, rest')) :
    (AllStrings PlainText v ∧ AllElems PlainText elems) ∧ rest' = rest := by
  rw [readElems] at hread
  rcases hvalue : readValue fuel (render v ++ (renderElems elems ++ rest)) with _ | ⟨v', text⟩
  · rw [hvalue] at hread
    cases hread
  rw [hvalue] at hread
  -- the first element of the result is the value that was read
  have hfirst : v' = v := by
    simp only at hread
    split at hread
    · rcases Option.map_eq_some_iff.mp hread with ⟨r, -, heq⟩
      exact (List.cons.inj (Prod.mk.injEq .. ▸ heq).1).1
    · exact (List.cons.inj (Prod.mk.injEq .. ▸ Option.some.inj hread).1).1
    · cases hread
  subst hfirst
  rcases h.value v' hv _ _ hvalue with ⟨hplain, rfl⟩
  cases elems with
  | nil =>
    cases hread
    exact ⟨⟨hplain, trivial⟩, rfl⟩
  | cons w elems =>
    rw [AllElems] at helems
    rw [renderElems] at hread
    have hnext : (readElems fuel (render w ++ (renderElems elems ++ rest))).map
        (fun r => (v' :: r.1, r.2)) = some (v' :: w :: elems, rest') := by
      rw [← List.append_assoc]
      exact hread
    rcases Option.map_eq_some_iff.mp hnext with ⟨⟨es, r⟩, hes, heq⟩
    rcases Prod.mk.injEq .. ▸ heq with ⟨hlist, rfl⟩
    have hes' : es = w :: elems := (List.cons.inj hlist).2
    subst hes'
    rcases h.elems w elems helems.1 helems.2 _ _ hes with ⟨hboth, hrest⟩
    rw [AllElems]
    exact ⟨⟨hplain, hboth⟩, hrest⟩

/-- The key of the first member is what stands between its quotes. -/
theorem readMembers_first {fuel : Nat} {text rest : List Char} {key : String} {v : Json}
    {members : List (String × Json)}
    (hread : readMembers (fuel + 1) ('"' :: text) = some ((key, v) :: members, rest)) :
    ∃ rest', readChars text = some (key.toList, rest') := by
  have hunfold : (match readChars text with
      | none => none
      | some (key, text) =>
          match skipWs text with
          | ':' :: text =>
              match readValue fuel text with
              | none => none
              | some (value, text) =>
                  match skipWs text with
                  | ',' :: text => (readMembers fuel text).map fun (members, rest) =>
                      ((String.ofList key, value) :: members, rest)
                  | '\x7d' :: rest => some ([(String.ofList key, value)], rest)
                  | _ => none
          | _ => none) = some ((key, v) :: members, rest) := hread
  rcases hchars : readChars text with _ | ⟨cs, rest'⟩
  · rw [hchars] at hunfold
    cases hunfold
  rw [hchars] at hunfold
  refine ⟨rest', ?_⟩
  have hcs : cs = key.toList := by
    simp only at hunfold
    -- the key read is the first one of the result, however the object goes on
    split at hunfold
    · split at hunfold
      · cases hunfold
      · split at hunfold
        · rcases Option.map_eq_some_iff.mp hunfold with ⟨r, -, heq⟩
          exact ofList_eq (Prod.mk.inj (List.cons.inj (Prod.mk.inj heq).1).1).1
        · exact ofList_eq (Prod.mk.inj (List.cons.inj (Prod.mk.inj (Option.some.inj hunfold)).1).1).1
        · cases hunfold
    · cases hunfold
  rw [hcs]

theorem OnlyPlain.members_succ {fuel : Nat} (h : OnlyPlain fuel) (key : String) (v : Json)
    (members : List (String × Json)) (hv : AllStrings (fun _ => True) v)
    (hmembers : AllMembers (fun _ => True) members) (rest rest' : List Char)
    (hread : readMembers (fuel + 1) ('"' :: (key.toList ++ '"' :: ':' ::
      (render v ++ (renderMembers members ++ rest)))) = some ((key, v) :: members, rest')) :
    (PlainText key.toList ∧ AllStrings PlainText v ∧ AllMembers PlainText members) ∧
      rest' = rest := by
  rcases readMembers_first hread with ⟨rest₀, hchars⟩
  have hkey : PlainText key.toList := (readChars_exact_iff.mp hchars).1
  rw [readMembers_key fuel _ hkey, String.ofList_toList] at hread
  -- the value that is read in the middle has to be the one that was written
  rcases hvalue : readValue fuel (render v ++ (renderMembers members ++ rest)) with _ | ⟨v', text⟩
  · rw [hvalue] at hread
    cases hread
  rw [hvalue] at hread
  have hfirst : v' = v := by
    simp only at hread
    split at hread
    · rcases Option.map_eq_some_iff.mp hread with ⟨r, -, heq⟩
      exact (Prod.mk.inj (List.cons.inj (Prod.mk.injEq .. ▸ heq).1).1).2
    · exact (Prod.mk.inj (List.cons.inj (Prod.mk.injEq .. ▸ Option.some.inj hread).1).1).2
    · cases hread
  subst hfirst
  rcases h.value v' hv _ _ hvalue with ⟨hplain, rfl⟩
  rcases members with _ | ⟨⟨key', w⟩, members⟩
  · cases hread
    exact ⟨⟨hkey, hplain, trivial⟩, rfl⟩
  · rw [AllMembers] at hmembers
    simp only [renderMembers, List.cons_append, List.append_assoc] at hread
    have hnext : (readMembers fuel ('"' :: (key'.toList ++ '"' :: ':' ::
        (render w ++ (renderMembers members ++ rest))))).map
        (fun r => ((key, v') :: r.1, r.2)) = some ((key, v') :: (key', w) :: members, rest') :=
      hread
    rcases Option.map_eq_some_iff.mp hnext with ⟨⟨ms, r⟩, hms, heq⟩
    rcases Prod.mk.injEq .. ▸ heq with ⟨hlist, rfl⟩
    have hms' : ms = (key', w) :: members := (List.cons.inj hlist).2
    subst hms'
    rcases h.members key' w members hmembers.2.1 hmembers.2.2 _ _ hms with ⟨hall, hrest⟩
    rw [AllMembers]
    exact ⟨⟨hkey, hplain, hall⟩, hrest⟩

theorem onlyPlain (fuel : Nat) : OnlyPlain fuel := by
  induction fuel with
  | zero =>
    constructor
    · intro v _ rest rest' hread
      cases hread
    · intro v elems _ _ rest rest' hread
      cases hread
    · intro key v members _ _ rest rest' hread
      cases hread
  | succ fuel ih => exact ⟨ih.value_succ, ih.elems_succ, ih.members_succ⟩

theorem read_render {v : Json} (hv : AllStrings PlainText v) : read (render v) = some v := by
  have hvalue := (readsBack (render v).length).value v hv (Nat.le_refl _) []
  rw [List.append_nil] at hvalue
  rw [read, hvalue]
  rfl

/-- A value without numbers is read back from its text if and only if all its strings
are plain. -/
theorem read_render_iff {v : Json} (hv : AllStrings (fun _ => True) v) :
    read (render v) = some v ↔ AllStrings PlainText v := by
  constructor
  · intro hread
    rw [read] at hread
    split at hread
    · rename_i value rest hvalue
      split at hread
      · cases hread
        rw [← List.append_nil (render v)] at hvalue
        exact ((onlyPlain _).value v hv _ _ hvalue).1
      · cases hread
    · cases hread
  · exact read_render

end Json
