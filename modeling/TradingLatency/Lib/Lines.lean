import Mathlib.Data.List.DropRight

/-!
# Lines and trimming

Texts are lists over any type. `getlines` are the pieces that reading up to a
delimiter yields, one after the other, until nothing is left; `splitInclusive`
keeps the delimiters. `trim` removes what satisfies a predicate at both ends.
-/

namespace Lines

variable {α : Type}

/-! ## Pieces -/

section Pieces

variable [DecidableEq α] (delim : α)

/-- Put an element before the first piece. -/
def consPiece (a : α) : List (List α) → List (List α)
  | [] => [[a]]
  | piece :: pieces => (a :: piece) :: pieces

/-- The pieces without their delimiters. Behind the last delimiter there is no
piece if nothing is left. -/
def getlines : List α → List (List α)
  | [] => []
  | a :: l => if a = delim then [] :: getlines l else consPiece a (getlines l)

/-- The pieces with their delimiters. -/
def splitInclusive : List α → List (List α)
  | [] => []
  | a :: l => if a = delim then [a] :: splitInclusive l else consPiece a (splitInclusive l)

/-- The delimiter at the end of a piece. -/
def stripSuffix (l : List α) : Option (List α) :=
  if l.getLast? = some delim then some l.dropLast else none

variable {delim}

omit [DecidableEq α] in
theorem consPiece_ne_nil (a : α) (pieces : List (List α)) : consPiece a pieces ≠ [] := by
  cases pieces <;> exact List.cons_ne_nil _ _

theorem getlines_eq_nil_iff {l : List α} : getlines delim l = [] ↔ l = [] := by
  cases l with
  | nil => exact iff_of_true rfl rfl
  | cons a l =>
    refine iff_of_false ?_ (List.cons_ne_nil _ _)
    rw [getlines]
    split
    · exact List.cons_ne_nil _ _
    · exact consPiece_ne_nil _ _

theorem ne_nil_of_mem_splitInclusive {l piece : List α} (h : piece ∈ splitInclusive delim l) :
    piece ≠ [] := by
  induction l generalizing piece with
  | nil => cases h
  | cons a l ih =>
    rw [splitInclusive] at h
    split at h
    · rcases List.mem_cons.mp h with rfl | h
      · exact List.cons_ne_nil _ _
      · exact ih h
    · -- without the delimiter the element is put in front of the next piece
      cases hl : splitInclusive delim l with
      | nil =>
        rw [hl] at h
        rw [List.mem_singleton.mp h]
        exact List.cons_ne_nil _ _
      | cons piece' pieces =>
        rw [hl] at h ih
        rcases List.mem_cons.mp h with rfl | h
        · exact List.cons_ne_nil _ _
        · exact ih (List.mem_cons_of_mem _ h)

theorem stripSuffix_cons (a : α) {l : List α} (hl : l ≠ []) :
    stripSuffix delim (a :: l) = (stripSuffix delim l).map (a :: ·) := by
  unfold stripSuffix
  rw [List.getLast?_cons_of_ne_nil hl, List.dropLast_cons_of_ne_nil hl]
  split <;> rfl

/-- `getlines` are the pieces of `splitInclusive`, stripped of the delimiter. -/
theorem map_stripSuffix_splitInclusive (l : List α) :
    (splitInclusive delim l).map (fun piece => (stripSuffix delim piece).getD piece) =
      getlines delim l := by
  induction l with
  | nil => rfl
  | cons a l ih =>
    rw [splitInclusive, getlines]
    split
    · rename_i ha
      rw [List.map_cons, ih]
      simp [stripSuffix, ha]
    · -- the delimiter comes off the piece that the element is put in front of
      rename_i ha
      rw [← ih]
      cases hl : splitInclusive delim l with
      | nil => simp [consPiece, stripSuffix, ha]
      | cons piece pieces =>
        have hpiece : piece ≠ [] :=
          ne_nil_of_mem_splitInclusive (hl ▸ List.mem_cons_self : piece ∈ splitInclusive delim l)
        simp only [consPiece, List.map_cons, stripSuffix_cons a hpiece]
        cases stripSuffix delim piece <;> rfl

/-- A split has one more piece, an empty one, if nothing is behind the last
delimiter. -/
theorem splitOn_eq_getlines (delim : α) (l : List α) :
    l.splitOn delim =
      getlines delim l ++ if l = [] ∨ l.getLast? = some delim then [[]] else [] := by
  induction l with
  | nil => rfl
  | cons a l ih =>
    rw [List.splitOn_cons_eq_if_modifyHead, getlines, ih]
    -- the delimiter ends a line; what is behind it decides about the last piece
    by_cases ha : a = delim
    · have hlast : (a :: l = [] ∨ (a :: l).getLast? = some delim) ↔
          (l = [] ∨ l.getLast? = some delim) := by
        cases l <;> simp [ha]
      rw [if_pos (beq_iff_eq.mpr ha), if_pos ha, if_congr hlast rfl rfl, List.cons_append]
    · rw [if_neg (by simpa using ha), if_neg ha]
      cases hl : getlines delim l with
      | nil =>
        obtain rfl := getlines_eq_nil_iff.mp hl
        simp [consPiece, ha]
      | cons piece pieces =>
        have hne : l ≠ [] := fun h => by simp [getlines_eq_nil_iff.mpr h] at hl
        have hlast : (a :: l = [] ∨ (a :: l).getLast? = some delim) ↔
            (l = [] ∨ l.getLast? = some delim) := by
          rw [List.getLast?_cons_of_ne_nil hne]
          simp [hne]
        rw [if_congr hlast rfl rfl]
        rfl

/-! ## Cutting at a delimiter -/

variable (delim)

/-- What is before the first delimiter, or all. -/
def before (l : List α) : List α := l.takeWhile (· ≠ delim)

/-- What is behind the first delimiter, or nothing. -/
def behind (l : List α) : List α := (l.dropWhile (· ≠ delim)).tail

variable {delim}

theorem eq_before_append_behind {l : List α} (h : delim ∈ l) :
    l = before delim l ++ delim :: behind delim l := by
  have hne : l.dropWhile (· ≠ delim) ≠ [] := by
    intro hnil
    simpa using List.dropWhile_eq_nil_iff.mp hnil delim h
  have hhead : (l.dropWhile (· ≠ delim)).head hne = delim := by
    simpa using List.head_dropWhile_not (fun a => decide (a ≠ delim)) hne
  calc l = l.takeWhile (· ≠ delim) ++ l.dropWhile (· ≠ delim) :=
        List.takeWhile_append_dropWhile.symm
    _ = before delim l ++ (l.dropWhile (· ≠ delim)).head hne :: behind delim l := by
        rw [behind, List.cons_head_tail]
        rfl
    _ = before delim l ++ delim :: behind delim l := by rw [hhead]

theorem behind_of_not_mem {l : List α} (h : delim ∉ l) : behind delim l = [] := by
  have hnil : l.dropWhile (· ≠ delim) = [] := by
    rw [List.dropWhile_eq_nil_iff]
    intro a ha
    have hne : a ≠ delim := fun heq => h (heq ▸ ha)
    simpa using hne
  rw [behind, hnil, List.tail_nil]

theorem not_mem_before (l : List α) : delim ∉ before delim l := by
  intro h
  simpa using List.mem_takeWhile_imp h

theorem cut_append {l : List α} (h : delim ∉ l) (l' : List α) :
    before delim (l ++ delim :: l') = l ∧ behind delim (l ++ delim :: l') = l' := by
  have hne : ∀ a ∈ l, decide (a ≠ delim) = true := by
    intro a ha
    have hne : a ≠ delim := fun heq => h (heq ▸ ha)
    simpa using hne
  constructor
  · rw [before, List.takeWhile_append_of_pos hne, List.takeWhile_cons_of_neg (by simp),
      List.append_nil]
  · rw [behind, List.dropWhile_append_of_pos hne, List.dropWhile_cons_of_neg (by simp),
      List.tail_cons]

end Pieces

/-! ## Trimming -/

section Trim

variable (p : α → Bool)

/-- Remove what satisfies the predicate at both ends. -/
def trim (l : List α) : List α := (l.dropWhile p).rdropWhile p

variable {p}

theorem dropWhile_eq_self_iff_head? {l : List α} :
    l.dropWhile p = l ↔ ∀ a ∈ l.head?, p a = false := by
  rw [List.dropWhile_eq_self_iff]
  cases l <;> simp

theorem rdropWhile_eq_self_iff_getLast? {l : List α} :
    l.rdropWhile p = l ↔ ∀ a ∈ l.getLast?, p a = false := by
  rw [List.rdropWhile_eq_self_iff]
  constructor
  · intro h a ha
    have hne : l ≠ [] := by
      rintro rfl
      cases ha
    have hlast : l.getLast hne = a :=
      Option.some.inj ((List.getLast?_eq_some_getLast hne).symm.trans ha)
    simpa [hlast] using h hne
  · intro h hne
    simpa using h _ (List.getLast?_eq_some_getLast hne)

/-- What a trimmed text starts and ends with does not satisfy the predicate. -/
theorem trim_eq_self_iff {l : List α} :
    trim p l = l ↔ (∀ a ∈ l.head?, p a = false) ∧ ∀ a ∈ l.getLast?, p a = false := by
  rw [← dropWhile_eq_self_iff_head?, ← rdropWhile_eq_self_iff_getLast?]
  constructor
  · intro h
    -- neither end can have lost anything
    have hlength : (trim p l).length ≤ (l.dropWhile p).length :=
      (List.rdropWhile_prefix p _).length_le
    rw [h] at hlength
    have hdrop : l.dropWhile p = l :=
      (List.dropWhile_suffix p).eq_of_length (Nat.le_antisymm (List.dropWhile_suffix p).length_le
        hlength)
    rw [trim, hdrop] at h
    exact ⟨hdrop, h⟩
  · rintro ⟨hhead, hlast⟩
    rw [trim, hhead, hlast]

/-- The first element of what is left. -/
theorem head?_rdropWhile {l : List α} (hne : l.rdropWhile p ≠ []) :
    (l.rdropWhile p).head? = l.head? := by
  rcases List.rdropWhile_prefix p l with ⟨rest, hrest⟩
  conv_rhs => rw [← hrest]
  rw [List.head?_append_of_ne_nil _ hne]

theorem head?_trim {l : List α} (hl : ∀ a ∈ l.head?, p a = false) (hne : trim p l ≠ []) :
    (trim p l).head? = l.head? := by
  rw [trim, dropWhile_eq_self_iff_head?.mpr hl] at hne ⊢
  exact head?_rdropWhile hne

theorem trim_trim (l : List α) : trim p (trim p l) = trim p l := by
  rw [trim_eq_self_iff]
  constructor
  · intro a ha
    have hne : trim p l ≠ [] := by
      intro hnil
      rw [hnil] at ha
      cases ha
    have hhead := List.head?_dropWhile_not p l
    rw [trim, head?_rdropWhile hne] at ha
    rw [ha] at hhead
    exact hhead
  · exact rdropWhile_eq_self_iff_getLast?.mp (List.rdropWhile_idempotent p _)

theorem trim_concat {l : List α} {a : α} (ha : p a = true) : trim p (l ++ [a]) = trim p l := by
  rw [trim, List.dropWhile_append]
  split
  · rename_i hnil
    rw [trim, List.isEmpty_iff.mp hnil]
    simp [ha]
  · rw [List.rdropWhile_concat_pos _ _ _ ha]
    rfl

end Trim

end Lines
