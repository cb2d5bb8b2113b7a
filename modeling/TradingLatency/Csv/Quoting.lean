import TradingLatency.Csv.Parsing

/-!
# Quoted fields (`parse_csv_line`)

`parse_csv_line` recognises a quote by the character in front of it, which has to
be a separator or the beginning of the line. But it overwrites a separator with
NUL before it moves on, so behind a separator no opening quote is recognised, and
a closing quote is recognised only behind a comma of its own field. Quoted fields
survive exactly where neither matters (`quoted_fields_iff`).
-/

namespace TradingLatency.Csvjoin

open CText

/-! ## Fields -/

/-- A field as it is written in a line. Lines are C strings, so there is no NUL
in it. -/
inductive CsvField where
  | unquoted (text : Text) (plain : PlainField text) (noNul : nul ∉ text)
  | quoted (inner : Text) (noQuote : '"' ∉ inner) (noNul : nul ∉ inner)

namespace CsvField

/-- The characters of the field in the line. -/
def text : CsvField → Text
  | unquoted text _ _ => text
  | quoted inner _ _ => '"' :: inner ++ ['"']

/-- A quoted field without a comma in it. -/
def CommaFree : CsvField → Prop
  | unquoted _ _ _ => True
  | quoted inner _ _ => ',' ∉ inner

/-- A quoted field whose last inner character is a comma. -/
def EndsWithComma : CsvField → Prop
  | unquoted _ _ _ => True
  | quoted inner _ _ => inner.getLast? = some ','

end CsvField

/-- The line made of the fields. -/
def joinFields (fields : List CsvField) : Text := [','].intercalate (fields.map CsvField.text)

/-- Behind the first field no comma is quoted, and if there are others the first
field, when quoted, ends with a comma. An empty list of fields is a line with one
empty field. -/
def QuotesHarmless (maxFields : Nat) : List CsvField → Prop
  | [] => maxFields = 0
  | [_] => True
  | first :: rest => first.EndsWithComma ∧ ∀ f ∈ rest, f.CommaFree

/-! ## Trimming -/

theorem isspace_quote : isspace '"' = false := by decide

theorem isspace_comma : isspace ',' = false := by decide

theorem nul_ne_comma : nul ≠ ',' := by decide

theorem trimWhitespace_text (f : CsvField) : trimWhitespace f.text = f.text := by
  cases f with
  | unquoted text plain noNul => exact trimWhitespace_unpadded plain.2.2
  | quoted inner noQuote noNul =>
    apply trimWhitespace_unpadded
    constructor
    · intro c hc
      cases hc
      exact isspace_quote
    · intro c hc
      rw [CsvField.text, List.getLast?_concat] at hc
      cases hc
      exact isspace_quote

/-- Trimming does not reach a character that is no white space. -/
theorem length_trimWhitespace_lt {s rest : Text} {c d : Char} (hc : isspace c = false)
    (hd : isspace d = false) : (c :: s).length < (trimWhitespace (c :: s ++ d :: rest)).length := by
  have hfront : (c :: s ++ d :: rest).dropWhile isspace = c :: s ++ d :: rest := by
    rw [List.cons_append, List.dropWhile_cons_of_neg (by rw [hc]; decide)]
  rw [trimWhitespace, hfront]
  -- from the end of the text, where the trimming takes place
  induction rest using List.reverseRecOn with
  | nil =>
    rw [List.rdropWhile_concat_neg _ _ _ (by rw [hd]; decide), List.length_append]
    exact Nat.lt_succ_self _
  | append_singleton rest e ih =>
    have hlist : c :: s ++ d :: (rest ++ [e]) = (c :: s ++ d :: rest) ++ [e] := by
      rw [List.append_assoc]
      rfl
    rw [hlist]
    by_cases he : isspace e = true
    · rw [List.rdropWhile_concat_pos _ _ _ he]
      exact ih (by rw [List.cons_append, List.dropWhile_cons_of_neg (by rw [hc]; decide)])
    · rw [List.rdropWhile_concat_neg _ _ _ he, List.length_append, List.length_append,
        List.length_cons (a := d)]
      omega

theorem length_trimWhitespace_le (s : Text) : (trimWhitespace s).length ≤ s.length := by
  have hfront : (s.dropWhile isspace).length ≤ s.length := (List.dropWhile_sublist _).length_le
  have hback : ((s.dropWhile isspace).rdropWhile isspace).length ≤ (s.dropWhile isspace).length :=
    (List.rdropWhile_prefix _ _).length_le
  exact Nat.le_trans hback hfront

/-! ## The loop -/

variable {maxFields : Nat} {done : List Text}

/-- The fields that are done stay. -/
theorem parseCsvLoop_keeps (current : Text) (done : List Text) (acc : Text) (inQuotes : Bool)
    (prev : Option Char) :
    ∃ more, done ++ more = parseCsvLoop maxFields current done acc inQuotes prev := by
  induction current generalizing done acc inQuotes prev with
  | nil =>
    rw [parseCsvLoop]
    split
    · exact ⟨_, rfl⟩
    · exact ⟨[], List.append_nil _⟩
  | cons c current ih =>
    rw [parseCsvLoop]
    split
    · split
      · -- a quotation mark that switches stays in the field
        exact ih _ _ _ _
      · split
        · -- a comma outside quotes ends the field
          rcases ih (done ++ [trimWhitespace acc]) [] inQuotes (some nul) with ⟨more, h⟩
          exact ⟨trimWhitespace acc :: more, by rw [← h, List.append_assoc]; rfl⟩
        · exact ih _ _ _ _
    · exact ⟨[], List.append_nil _⟩

/-- The next field contains what has been read of it. -/
theorem parseCsvLoop_extends (hroom : done.length < maxFields) (current acc : Text)
    (inQuotes : Bool) (prev : Option Char) :
    ∃ w more, parseCsvLoop maxFields current done acc inQuotes prev =
      done ++ trimWhitespace (acc ++ w) :: more := by
  induction current generalizing acc inQuotes prev with
  | nil => exact ⟨[], [], by rw [parseCsvLoop, if_pos hroom, List.append_nil]⟩
  | cons c current ih =>
    rw [parseCsvLoop, if_pos hroom]
    split
    · -- a switching quotation mark
      rcases ih (acc ++ [c]) (!inQuotes) (some c) with ⟨w, more, h⟩
      exact ⟨c :: w, more, by rw [h, List.append_assoc, List.singleton_append]⟩
    · split
      · -- the comma that ends the field: what is done stays done
        rcases parseCsvLoop_keeps current (done ++ [trimWhitespace acc]) [] inQuotes (some nul)
          with ⟨more, h⟩
        refine ⟨[], more, ?_⟩
        rw [← h, List.append_assoc, List.append_nil, List.singleton_append]
      · -- any other character
        rcases ih (acc ++ [c]) inQuotes (some c) with ⟨w, more, h⟩
        exact ⟨c :: w, more, by rw [h, List.append_assoc, List.singleton_append]⟩

/-- Behind a separator quotes are characters like others, and so are those behind
them in the field, as long as there is no comma. -/
theorem parseCsvLoop_commaFree (hroom : done.length < maxFields) {f : Text} (hcomma : ',' ∉ f)
    (rest acc : Text) {prev : Char} (hprev : prev ≠ ',') :
    ∃ prev', parseCsvLoop maxFields (f ++ rest) done acc false (some prev) =
      parseCsvLoop maxFields rest done (acc ++ f) false (some prev') := by
  induction f generalizing acc prev with
  | nil => exact ⟨prev, by rw [List.nil_append, List.append_nil]⟩
  | cons c f ih =>
    have hc : c ≠ ',' := fun h => hcomma (h ▸ List.mem_cons_self)
    rcases ih (fun h => hcomma (List.mem_cons_of_mem _ h)) (acc ++ [c]) hc with ⟨prev', h⟩
    refine ⟨prev', ?_⟩
    -- a character that does not follow a comma does not switch
    have hquote : ¬ (c = '"' ∧ (some prev = none ∨ some prev = some ',')) := by
      rintro ⟨-, hnone | hsome⟩
      · cases hnone
      · exact hprev (Option.some.inj hsome)
    rw [List.cons_append, parseCsvLoop, if_pos hroom, if_neg hquote, if_neg (fun h => hc h.1), h,
      List.append_assoc, List.singleton_append]

/-- In quotes nothing is a separator. -/
theorem parseCsvLoop_inner (hroom : done.length < maxFields) {inner : Text} (hquote : '"' ∉ inner)
    (rest acc : Text) (prev : Option Char) :
    parseCsvLoop maxFields (inner ++ rest) done acc true prev =
      parseCsvLoop maxFields rest done (acc ++ inner) true (inner.getLast?.or prev) := by
  induction inner generalizing acc prev with
  | nil => rw [List.nil_append, List.append_nil, List.getLast?_nil, Option.none_or]
  | cons c inner ih =>
    -- inside quotes a comma is a character like others, and there is no quotation mark
    have hc : c ≠ '"' := fun h => hquote (h ▸ List.mem_cons_self)
    have hlast : (c :: inner).getLast?.or prev = inner.getLast?.or (some c) := by
      rw [List.getLast?_cons]
      cases inner.getLast? with
      | none => rfl
      | some d => rfl
    rw [List.cons_append, parseCsvLoop, if_pos hroom, if_neg (fun h => hc h.1),
      if_neg (fun h => Bool.noConfusion h.2), ih (fun h => hquote (List.mem_cons_of_mem _ h)),
      List.append_assoc, List.singleton_append, hlast]

/-- A separator outside of quotes ends the field. -/
theorem parseCsvLoop_comma (hroom : done.length < maxFields) (rest acc : Text)
    (prev : Option Char) :
    parseCsvLoop maxFields (',' :: rest) done acc false prev =
      parseCsvLoop maxFields rest (done ++ [trimWhitespace acc]) [] false (some nul) := by
  rw [parseCsvLoop, if_pos hroom, if_neg (fun h => absurd h.1 (by decide)), if_pos ⟨rfl, rfl⟩]

/-! ## The fields behind the first -/

theorem comma_not_mem_text {f : CsvField} (h : f.CommaFree) : ',' ∉ f.text := by
  cases f with
  | unquoted text plain noNul => exact plain.1
  | quoted inner noQuote noNul =>
    intro hmem
    rw [CsvField.text, List.mem_append, List.mem_cons, List.mem_singleton] at hmem
    rcases hmem with (hmem | hmem) | hmem
    · exact absurd hmem (by decide)
    · exact h hmem
    · exact absurd hmem (by decide)

theorem joinFields_cons_cons (f g : CsvField) (fs : List CsvField) :
    joinFields (f :: g :: fs) = f.text ++ ',' :: joinFields (g :: fs) := by
  rw [joinFields, List.map_cons, List.map_cons, List.intercalate_cons_cons, List.append_assoc]
  rfl

theorem joinFields_singleton (f : CsvField) : joinFields [f] = f.text := by
  rw [joinFields, List.map_cons, List.map_nil, List.intercalate_singleton]

/-- A quoted comma behind a separator splits its field. -/
theorem parse_quoted_comma (hroom : done.length < maxFields) {inner : Text} (hcomma : ',' ∈ inner)
    (rest : Text) (fs : List Text) :
    parseCsvLoop maxFields ('"' :: inner ++ ['"'] ++ rest) done [] false (some nul) ≠
      done ++ ('"' :: inner ++ ['"']) :: fs := by
  rcases List.eq_append_cons_of_mem hcomma with ⟨s, t, hinner, hs⟩
  have hopen : ',' ∉ '"' :: s := by
    intro hmem
    rcases List.mem_cons.mp hmem with hmem | hmem
    · exact absurd hmem (by decide)
    · exact hs hmem
  have hline : '"' :: inner ++ ['"'] ++ rest = ('"' :: s) ++ ',' :: (t ++ ['"'] ++ rest) := by
    rw [hinner]
    simp only [List.cons_append, List.append_assoc]
  rcases parseCsvLoop_commaFree hroom hopen (',' :: (t ++ ['"'] ++ rest)) [] nul_ne_comma with
    ⟨prev, hscan⟩
  rw [hline, hscan, List.nil_append, parseCsvLoop_comma hroom]
  rcases @parseCsvLoop_keeps maxFields (t ++ ['"'] ++ rest) (done ++ [trimWhitespace ('"' :: s)]) []
    false (some nul) with ⟨more, hmore⟩
  rw [← hmore, List.append_assoc, List.singleton_append]
  -- the field that is cut off is too short
  intro heq
  have hfield : trimWhitespace ('"' :: s) = '"' :: inner ++ ['"'] :=
    (List.cons.inj (List.append_cancel_left heq)).1
  have hle := length_trimWhitespace_le ('"' :: s)
  rw [hfield, hinner] at hle
  simp only [List.length_append, List.length_cons, List.length_nil] at hle
  omega

/-- A field whose quotes do no harm behind a separator. -/
theorem parse_commaFree (hroom : done.length < maxFields) {f : CsvField} (hf : f.CommaFree)
    (rest : Text) :
    ∃ prev, parseCsvLoop maxFields (f.text ++ rest) done [] false (some nul) =
      parseCsvLoop maxFields rest done f.text false prev := by
  rcases parseCsvLoop_commaFree hroom (comma_not_mem_text hf) rest [] nul_ne_comma with ⟨prev, h⟩
  exact ⟨some prev, by rw [h, List.nil_append]⟩

theorem parse_not_commaFree (hroom : done.length < maxFields) {f : CsvField} (hf : ¬ f.CommaFree)
    (rest : Text) (fs : List Text) :
    parseCsvLoop maxFields (f.text ++ rest) done [] false (some nul) ≠ done ++ f.text :: fs := by
  cases f with
  | unquoted text plain noNul => exact absurd trivial hf
  | quoted inner noQuote noNul => exact parse_quoted_comma hroom (not_not.mp hf) rest fs

/-- The fields behind a separator come back exactly when no comma is quoted. -/
theorem parse_rest_iff (f : CsvField) (fs : List CsvField)
    (hlen : done.length + (f :: fs).length ≤ maxFields) :
    parseCsvLoop maxFields (joinFields (f :: fs)) done [] false (some nul) =
        done ++ (f :: fs).map CsvField.text ↔
      ∀ g ∈ f :: fs, g.CommaFree := by
  induction fs generalizing f done with
  | nil =>
    have hroom : done.length < maxFields := hlen
    rw [joinFields_singleton, List.forall_mem_singleton, List.map_cons, List.map_nil]
    -- the last field has only to be read to the end of the line
    by_cases hf : f.CommaFree
    · rcases parse_commaFree hroom hf [] with ⟨prev, h⟩
      rw [List.append_nil] at h
      rw [h, parseCsvLoop, if_pos hroom, trimWhitespace_text]
      exact iff_of_true rfl hf
    · have h := parse_not_commaFree hroom hf [] []
      rw [List.append_nil] at h
      exact iff_of_false h hf
  | cons g fs ih =>
    have hroom : done.length < maxFields := by
      rw [List.length_cons] at hlen
      omega
    rw [joinFields_cons_cons, List.map_cons, List.forall_mem_cons]
    by_cases hf : f.CommaFree
    · -- the field ends at its comma, and the rest starts behind a NUL
      rcases parse_commaFree hroom hf (',' :: joinFields (g :: fs)) with ⟨prev, h⟩
      have hlen' : (done ++ [f.text]).length + (g :: fs).length ≤ maxFields := by
        rw [List.length_append, List.length_singleton]
        rw [List.length_cons] at hlen
        omega
      rw [h, parseCsvLoop_comma hroom, trimWhitespace_text,
        List.append_cons done f.text (List.map _ _), ih g hlen']
      exact (and_iff_right hf).symm
    · -- one wrong field and the list differs, whatever follows
      exact iff_of_false (parse_not_commaFree hroom hf _ _) (fun hall => hf hall.1)

/-! ## The first field -/

/-- The first field up to its closing quote: the quote is recognised behind a comma. -/
theorem parse_first_quoted (hroom : 0 < maxFields) {inner : Text} (hquote : '"' ∉ inner)
    (rest : Text) :
    parseCsvLine ('"' :: inner ++ ['"'] ++ rest) maxFields =
      parseCsvLoop maxFields rest [] ('"' :: inner ++ ['"'])
        (decide (inner.getLast? ≠ some ',')) (some '"') := by
  have hline : '"' :: inner ++ ['"'] ++ rest = '"' :: (inner ++ '"' :: rest) := by
    simp only [List.cons_append, List.append_assoc, List.nil_append]
  have hprev : (inner.getLast?.or (some '"') = none ∨ inner.getLast?.or (some '"') = some ',') ↔
      inner.getLast? = some ',' := by
    cases inner.getLast? with
    | none => decide
    | some c => simp
  have hroom' : ([] : List Text).length < maxFields := hroom
  rw [hline, parseCsvLine, parseCsvLoop, if_pos hroom', if_pos ⟨rfl, Or.inl rfl⟩, Bool.not_false,
    parseCsvLoop_inner hroom' hquote, parseCsvLoop, if_pos hroom']
  -- the closing quotation mark switches only behind a comma
  by_cases hlast : inner.getLast? = some ','
  · rw [if_pos ⟨rfl, hprev.mpr hlast⟩, Bool.not_true, decide_eq_false (not_not.mpr hlast)]
    rfl
  · rw [if_neg (fun h => hlast (hprev.mp h.2)), if_neg (fun h => absurd h.1 (by decide)),
      decide_eq_true hlast]
    rfl

/-- A line with one field comes back. -/
theorem parse_one (hroom : 0 < maxFields) (f : CsvField) :
    parseCsvLine (joinFields [f]) maxFields = [f.text] := by
  have hroom' : ([] : List Text).length < maxFields := hroom
  rw [joinFields_singleton]
  cases f with
  | unquoted text plain noNul =>
    rcases parseCsvLoop_scan maxFields text [] [] [] none plain.1 plain.2.1 hroom with ⟨prev, h⟩
    rw [List.append_nil] at h
    rw [CsvField.text, parseCsvLine, h, parseCsvLoop, if_pos hroom', List.nil_append,
      List.nil_append, trimWhitespace_unpadded plain.2.2]
  | quoted inner noQuote noNul =>
    have h := parse_first_quoted hroom noQuote []
    rw [List.append_nil] at h
    rw [CsvField.text, h, parseCsvLoop, if_pos hroom']
    exact congrArg (fun t => [t]) (trimWhitespace_text (.quoted inner noQuote noNul))

/-- With a field behind it, the first one comes back exactly when it is unquoted or
its closing quote stands behind a comma. -/
theorem parse_first_iff (f g : CsvField) (fs : List CsvField)
    (hlen : (f :: g :: fs).length ≤ maxFields) :
    parseCsvLine (joinFields (f :: g :: fs)) maxFields = (f :: g :: fs).map CsvField.text ↔
      f.EndsWithComma ∧ ∀ h ∈ g :: fs, h.CommaFree := by
  have hroom : 0 < maxFields := Nat.lt_of_lt_of_le (Nat.succ_pos _) hlen
  have hroom' : ([] : List Text).length < maxFields := hroom
  have hrest : parseCsvLoop maxFields (joinFields (g :: fs)) [f.text] [] false (some nul) =
      (f :: g :: fs).map CsvField.text ↔ ∀ h ∈ g :: fs, h.CommaFree := by
    have h := @parse_rest_iff maxFields [f.text] g fs (by
      rw [List.length_singleton, Nat.add_comm]
      exact hlen)
    exact h
  rw [joinFields_cons_cons]
  cases f with
  | unquoted text plain noNul =>
    rcases parseCsvLoop_scan maxFields text (',' :: joinFields (g :: fs)) [] [] none plain.1
      plain.2.1 hroom with ⟨prev, h⟩
    have htrim := trimWhitespace_text (.unquoted text plain noNul)
    rw [CsvField.text] at htrim
    rw [CsvField.text, parseCsvLine, h, List.nil_append, parseCsvLoop_comma hroom', htrim]
    exact hrest.trans (and_iff_right trivial).symm
  | quoted inner noQuote noNul =>
    have htrim := trimWhitespace_text (.quoted inner noQuote noNul)
    rw [CsvField.text] at htrim
    rw [CsvField.text, parse_first_quoted hroom noQuote]
    by_cases hlast : inner.getLast? = some ','
    · rw [decide_eq_false (not_not.mpr hlast), parseCsvLoop_comma hroom', htrim]
      exact hrest.trans (and_iff_right hlast).symm
    · -- the separator becomes a part of the first field
      refine iff_of_false ?_ (fun h => hlast h.1)
      rw [decide_eq_true hlast, parseCsvLoop, if_pos hroom', if_neg (fun h => absurd h.1 (by decide)),
        if_neg (fun h => Bool.noConfusion h.2)]
      rcases parseCsvLoop_extends hroom' (joinFields (g :: fs)) ('"' :: inner ++ ['"'] ++ [','])
        true (some ',') with ⟨w, more, h⟩
      rw [h, List.nil_append, List.map_cons, CsvField.text, List.append_assoc _ [','] w]
      intro heq
      have hlt := @length_trimWhitespace_lt (inner ++ ['"']) w '"' ',' isspace_quote isspace_comma
      rw [← List.cons_append] at hlt
      have hfield := (List.cons.inj heq).1
      rw [List.singleton_append] at hfield
      rw [hfield] at hlt
      exact Nat.lt_irrefl _ hlt

/-! ## Lines -/

/-- A line of quoted and unquoted fields comes back, one entry per field, exactly
when its quotes are harmless. -/
theorem quoted_fields_iff (fields : List CsvField) (maxFields : Nat)
    (hlen : fields.length ≤ maxFields) :
    parseCsvLine (joinFields fields) maxFields = fields.map CsvField.text ↔
      QuotesHarmless maxFields fields := by
  match fields, hlen with
  | [], _ =>
    show parseCsvLine [] maxFields = [] ↔ maxFields = 0
    rw [parseCsvLine, parseCsvLoop]
    rcases Nat.eq_zero_or_pos maxFields with rfl | hpos
    · exact iff_of_true rfl rfl
    · rw [if_pos (show ([] : List Text).length < maxFields from hpos)]
      exact iff_of_false (by simp) (Nat.ne_of_gt hpos)
  | [f], hlen => exact iff_of_true (parse_one hlen f) trivial
  | f :: g :: fs, hlen => exact parse_first_iff f g fs hlen

/-- The line `"a,",b,"c"`. -/
def harmlessFields : List CsvField :=
  [.quoted ['a', ','] (by decide) (by decide),
    .unquoted ['b'] ⟨by decide, by decide, unpadded_of_forall (forall_of_all rfl)⟩ (by decide),
    .quoted ['c'] (by decide) (by decide)]

theorem quoted_fields_harmless :
    parseCsvLine (joinFields harmlessFields) 20 = harmlessFields.map CsvField.text := by
  refine (quoted_fields_iff harmlessFields 20 (by decide)).mpr ⟨rfl, ?_⟩
  intro f hf
  rcases List.mem_cons.mp hf with rfl | hf
  · trivial
  · rw [List.mem_singleton.mp hf]
    show ',' ∉ ['c']
    decide

/-- The line `a,"b,c"`. -/
def splitFields : List CsvField :=
  [.unquoted ['a'] ⟨by decide, by decide, unpadded_of_forall (forall_of_all rfl)⟩ (by decide),
    .quoted ['b', ',', 'c'] (by decide) (by decide)]

/-- The line `"a",b`. -/
def mergedFields : List CsvField :=
  [.quoted ['a'] (by decide) (by decide),
    .unquoted ['b'] ⟨by decide, by decide, unpadded_of_forall (forall_of_all rfl)⟩ (by decide)]

/-- A comma in quotes splits its field, and a comma behind a closing quote does not. -/
theorem quoted_fields_broken :
    parseCsvLine (joinFields splitFields) 20 = [['a'], ['"', 'b'], ['c', '"']] ∧
      parseCsvLine (joinFields splitFields) 20 ≠ splitFields.map CsvField.text ∧
      parseCsvLine (joinFields mergedFields) 20 = [['"', 'a', '"', ',', 'b']] ∧
      parseCsvLine (joinFields mergedFields) 20 ≠ mergedFields.map CsvField.text := by
  decide

end TradingLatency.Csvjoin
