import TradingLatency.Csv.JoinSpec

/-!
# The two passes of the join see the same rows

Both passes of the join read a file with `fgets`, cut the line and split it.
On a well-formed file each of them is a fold over `rows` (`foldl_dataReads`),
so they agree on the lines that count. The first pass then collects the
sequence numbers of the matching rows (`mem_loadSequencesFromFile`), and the
intersection is the sorted list of the common ones.
-/

namespace TradingLatency.Csvjoin

open CText

/-! ## From lines to rows -/

theorem chop_append_newline (line : Text) : chop (line ++ ['\n']) = chop line := by
  induction line with
  | nil => simp [chop, nul]
  | cons c line ih =>
    unfold chop at ih ⊢
    rw [List.cons_append, List.takeWhile_cons, List.takeWhile_cons, ih]

theorem chop_stripCr {line : Text} (h : IsPlain (stripCr line)) : chop line = stripCr line := by
  unfold stripCr at h ⊢
  by_cases hcr : line.getLast? = some '\r'
  · -- the line ends with a carriage return, at which `chop` stops
    rw [if_pos hcr] at h ⊢
    have hline : line = line.dropLast ++ ['\r'] := by
      rcases List.getLast?_eq_some_iff.mp hcr with ⟨l, rfl⟩
      simp
    rcases h with ⟨h0, hr, hn⟩
    rw [hline, chop]
    simp only [List.dropLast_concat]
    apply takeWhile_append_stop
    · intro c hc
      have h1 : c ≠ nul := fun he => h0 (he ▸ hc)
      have h2 : c ≠ '\r' := fun he => hr (he ▸ hc)
      have h3 : c ≠ '\n' := fun he => hn (he ▸ hc)
      simp [h1, h2, h3]
    · simp
  · rw [if_neg hcr] at h ⊢
    exact chop_of_isPlain line h

/-- Lines of a text shorter than the buffer are read one by one. -/
theorem readLinesFuel_intercalate (pieces : List Text) (hne : pieces ≠ []) (fuel : Nat)
    (hpieces : ∀ l ∈ pieces, '\n' ∉ l ∧ l.length < maxLineLength - 1)
    (hfuel : (['\n'].intercalate pieces).length ≤ fuel) :
    ((readLinesFuel maxLineLength fuel (['\n'].intercalate pieces)).map chop).filter (· ≠ []) =
      (pieces.map chop).filter (· ≠ []) := by
  induction pieces generalizing fuel with
  | nil => exact absurd rfl hne
  | cons l pieces ih =>
    have hl := hpieces l (by simp)
    cases pieces with
    | nil =>
      -- the last line has no newline; an empty one is not read at all
      simp only [List.intercalate_singleton] at hfuel ⊢
      cases fuel with
      | zero =>
        have : l = [] := List.length_eq_zero_iff.mp (by omega)
        simp [this, readLinesFuel, chop]
      | succ fuel =>
        by_cases hnil : l = []
        · simp [hnil, readLinesFuel, fgets, chop]
        · have htake := fgetsTake_last l (maxLineLength - 1) hl.1 (by omega)
          have hrest : readLinesFuel maxLineLength fuel [] = [] := by
            cases fuel <;> simp [readLinesFuel, fgets]
          simp [readLinesFuel, fgets, hnil, htake, hrest]
    | cons l' pieces =>
      have hsplit : ['\n'].intercalate (l :: l' :: pieces) =
          l ++ '\n' :: ['\n'].intercalate (l' :: pieces) := by
        simp [List.intercalate_cons_cons]
      rw [hsplit] at hfuel ⊢
      cases fuel with
      | zero => simp at hfuel
      | succ fuel =>
        have htake := fgetsTake_line l (['\n'].intercalate (l' :: pieces)) (maxLineLength - 1)
          hl.1 hl.2
        have hih := ih (by simp) fuel (fun x hx => hpieces x (List.mem_cons_of_mem _ hx))
          (by simp at hfuel; omega)
        have hread : readLinesFuel maxLineLength (fuel + 1)
            (l ++ '\n' :: ['\n'].intercalate (l' :: pieces)) =
            (l ++ ['\n']) :: readLinesFuel maxLineLength fuel (['\n'].intercalate (l' :: pieces)) := by
          simp [readLinesFuel, fgets, htake]
        rw [hread, List.map_cons, chop_append_newline, List.filter_cons, hih]
        rw [List.map_cons (l := l' :: pieces), List.filter_cons (x := chop l)]

theorem dataReads_eq (contents : Text) : dataReads contents = readLines maxLineLength (dataText contents) := by
  unfold dataReads fgets dataText
  by_cases h : contents = []
  · subst h
    rfl
  · simp [h]

/-- What both passes see of a file: its data lines, cut at their ends. -/
theorem chop_dataReads {file : InputFile} (hwf : WellFormedFile file) :
    ((dataReads file.contents).map chop).filter (· ≠ []) =
      ((rawLines file.contents).map stripCr).filter (· ≠ []) := by
  have hlines := readLinesFuel_intercalate (rawLines file.contents)
    (List.splitOn_ne_nil _ _) (dataText file.contents).length
    (fun l hl => ⟨not_mem_of_mem_splitOn hl, (hwf l hl).1⟩)
    (by simp [rawLines])
  rw [dataReads_eq, readLines]
  simp only [rawLines, List.intercalate_splitOn] at hlines ⊢
  rw [hlines]
  congr 1
  -- without its `\r` a line is what `chop` leaves of it
  apply List.map_congr_left
  intro l hl
  apply chop_stripCr
  rcases (hwf l hl).2 with h | h
  · simp [h, IsPlain]
  · exact h.1

/-- A pass over the lines of a well-formed file is a pass over its rows.
`P` is what the pass keeps of its state. -/
theorem foldl_dataReads {β : Type} {file : InputFile} (hwf : WellFormedFile file) (P : β → Prop)
    (step : β → Text → β) (rowStep : β → List Text → β) (b : β) (hb : P b)
    (hblank : ∀ b read, chop read = [] → step b read = b)
    (hrow : ∀ b read, P b → chop read ≠ [] →
      WellFormedRow file.detectedType ((chop read).splitOn ',') →
      step b read = rowStep b ((chop read).splitOn ','))
    (hkeep : ∀ b fields, P b → WellFormedRow file.detectedType fields → P (rowStep b fields)) :
    (dataReads file.contents).foldl step b = (rows file.contents).foldl rowStep b := by
  have hgen : ∀ reads : List Text,
      (∀ l ∈ (reads.map chop).filter (· ≠ []), WellFormedRow file.detectedType (l.splitOn ',')) →
      ∀ b, P b → reads.foldl step b =
        (((reads.map chop).filter (· ≠ [])).map (·.splitOn ',')).foldl rowStep b := by
    intro reads
    induction reads with
    | nil => intro _ b _; rfl
    | cons read reads ih =>
      intro hall b hb
      -- the loop leaves out an empty line
      by_cases hnil : chop read = []
      · rw [List.foldl_cons, hblank b read hnil]
        simp only [List.map_cons, hnil, ne_eq, not_true_eq_false, decide_false, Bool.false_eq_true,
          not_false_eq_true, List.filter_cons_of_neg] at hall ⊢
        exact ih hall b hb
      · -- any other line is a row of the file
        have hline := hall (chop read) (by simp [hnil])
        have hrest : ∀ l ∈ (reads.map chop).filter (· ≠ []),
            WellFormedRow file.detectedType (l.splitOn ',') := by
          intro l hl
          apply hall l
          rw [List.map_cons, List.filter_cons]
          simp [hnil]
          simpa using Or.inr hl
        rw [List.foldl_cons, hrow b read hb hnil hline, ih hrest _ (hkeep _ _ hb hline)]
        simp [hnil]
  rw [hgen (dataReads file.contents) _ b hb, chop_dataReads hwf, rows]
  rw [chop_dataReads hwf]
  intro l hl
  rcases List.mem_filter.mp hl with ⟨hmem, hne⟩
  rcases List.mem_map.mp hmem with ⟨raw, hraw, rfl⟩
  rcases (hwf raw hraw).2 with h | h
  · simp [h] at hne
  · exact h.2

/-! ## Rows of a well-formed file -/

theorem wellFormedRow_of_mem_rows {file : InputFile} (hwf : WellFormedFile file)
    {r : List Text} (hr : r ∈ rows file.contents) : WellFormedRow file.detectedType r := by
  rcases List.mem_map.mp hr with ⟨l, hl, rfl⟩
  rcases List.mem_filter.mp hl with ⟨hmem, hne⟩
  rcases List.mem_map.mp hmem with ⟨raw, hraw, rfl⟩
  rcases (hwf raw hraw).2 with h | h
  · simp [h] at hne
  · exact h.2

/-- The fields that the program parses from a well-formed line. -/
theorem parseCsvLine_wellFormed {ty : FileType} {line : Text}
    (h : WellFormedRow ty (line.splitOn ',')) :
    parseCsvLine line maxCsvFields = line.splitOn ',' := by
  have hplain : ∀ f ∈ line.splitOn ',', PlainField f := by
    intro f hf
    exact ⟨not_mem_of_mem_splitOn hf, h.2.2.1 f hf⟩
  have hparse := parseCsvLine_intercalate (List.splitOn_ne_nil ',' line) hplain h.2.1
  rwa [List.intercalate_splitOn] at hparse

theorem validateRecordMatch_wellFormed {ty : FileType} {fields : List Text} (config : Config)
    (h : WellFormedRow ty fields) :
    validateRecordMatch fields config.targetIp config.targetPort = rowMatches config fields := by
  rcases h with ⟨-, -, -, ip, port, seq, ts, rfl, hport, hle, -, -, -⟩
  rw [validateRecordMatch_decimal hport hle]
  simp [rowMatches]

theorem extractSequenceNumber_wellFormed {ty : FileType} {fields : List Text}
    (h : WellFormedRow ty fields) : extractSequenceNumber fields = some (rowSeq fields) := by
  rcases h with ⟨-, -, -, ip, port, seq, ts, rfl, -, -, hseq, hle, -⟩
  rw [extractSequenceNumber_decimal hseq hle]
  simp [rowSeq]

theorem three_le_length {ty : FileType} {fields : List Text} (h : WellFormedRow ty fields) :
    3 ≤ fields.length := by
  rcases h with ⟨-, -, -, ip, port, seq, ts, rfl, -⟩
  simp

/-! ## Files written line by line -/

theorem stripCr_of_isPlain {line : Text} (h : IsPlain line) : stripCr line = line := by
  unfold stripCr
  by_cases hcr : line.getLast? = some '\r'
  · exact absurd (List.mem_of_getLast? hcr) h.2.1
  · rw [if_neg hcr]

/-- A file of a header and lines: its data lines are these lines. -/
theorem rawLines_of_lines {header : Text} {lines : List Text} (hheader : '\n' ∉ header)
    (hlen : header.length < maxLineLength - 1) (hlines : ∀ l ∈ lines, '\n' ∉ l) :
    rawLines ((header :: lines).flatMap (· ++ ['\n'])) = lines ++ [[]] := by
  have htake := fgetsTake_line header (lines.flatMap (· ++ ['\n'])) (maxLineLength - 1) hheader hlen
  rw [rawLines, dataText, List.flatMap_cons, List.append_assoc, List.singleton_append, htake]
  exact splitOn_flatMap_newline '\n' lines hlines

theorem rows_of_lines {header : Text} {lines : List Text} (hheader : '\n' ∉ header)
    (hlen : header.length < maxLineLength - 1) (hlines : ∀ l ∈ lines, IsPlain l ∧ l ≠ []) :
    rows ((header :: lines).flatMap (· ++ ['\n'])) = lines.map (·.splitOn ',') := by
  have hstrip : (lines ++ [[]]).map stripCr = lines ++ [[]] := by
    rw [List.map_congr_left (g := id), List.map_id]
    intro l hl
    rcases List.mem_append.mp hl with hl | hl
    · exact stripCr_of_isPlain (hlines l hl).1
    · rw [List.mem_singleton.mp hl]
      rfl
  have hfilter : (lines ++ [[]]).filter (· ≠ []) = lines := by
    rw [List.filter_append, List.filter_eq_self.mpr]
    · simp
    · intro l hl
      simpa using (hlines l hl).2
  rw [rows, rawLines_of_lines hheader hlen fun l hl => (hlines l hl).1.2.2, hstrip, hfilter]

/-- Such a file is well formed if its lines are. -/
theorem wellFormedFile_of_lines {header : Text} {lines : List Text} {ty : FileType}
    (hheader : '\n' ∉ header) (hlen : header.length < maxLineLength - 1)
    (hlines : ∀ l ∈ lines, IsPlain l ∧ l.length < 2047 ∧ WellFormedRow ty (l.splitOn ',')) :
    WellFormedFile ⟨(header :: lines).flatMap (· ++ ['\n']), ty⟩ := by
  intro l hl
  rw [rawLines_of_lines hheader hlen fun l hl => (hlines l hl).1.2.2] at hl
  rcases List.mem_append.mp hl with hl | hl
  · rcases hlines l hl with ⟨hplain, hshort, hrow⟩
    rw [stripCr_of_isPlain hplain]
    exact ⟨hshort, Or.inr ⟨hplain, hrow⟩⟩
  · rw [List.mem_singleton.mp hl]
    exact ⟨by decide, Or.inl rfl⟩

/-- The type of a file is decided by its header alone. -/
theorem detectFileType_of_header {header : Text} (hne : header ≠ []) (hplain : IsPlain header)
    (hlen : header.length < maxLineLength - 1) (lines : List Text) :
    detectFileType ((header :: lines).flatMap (· ++ ['\n'])) = detectFileType header := by
  have hline : fgets maxLineLength ((header :: lines).flatMap (· ++ ['\n'])) =
      some (header ++ ['\n'], lines.flatMap (· ++ ['\n'])) := by
    rw [List.flatMap_cons, List.append_assoc, List.singleton_append, fgets, if_neg (by simp),
      fgetsTake_line header _ _ hplain.2.2 hlen]
  have hlast : fgets maxLineLength header = some (header, []) := by
    rw [fgets, if_neg hne, fgetsTake_last header _ hplain.2.2 (by omega)]
  simp only [detectFileType, hline, hlast, chop_append_newline]

/-! ## The first pass -/

/-- The first pass on one row. -/
def loadRow (config : Config) (set : List UInt32) (fields : List Text) : List UInt32 :=
  if rowMatches config fields then sequenceSetAdd set (rowSeq fields) else set

theorem loadSequencesFromFile_eq {config : Config} {file : InputFile} (hwf : WellFormedFile file) :
    loadSequencesFromFile file.contents config.targetIp config.targetPort =
      (rows file.contents).foldl (loadRow config) [] := by
  apply foldl_dataReads hwf (fun _ => True) _ _ _ trivial
  · intro b read h
    simp [loadLine, h]
  · intro b read _ hne hrow
    have h3 := three_le_length hrow
    have hlen : (chop read).length ≠ 0 := fun h => hne (List.length_eq_zero_iff.mp h)
    simp only [loadLine, if_neg hlen, parseCsvLine_wellFormed hrow,
      if_neg (show ¬ ((chop read).splitOn ',').length < 3 by omega),
      validateRecordMatch_wellFormed config hrow, extractSequenceNumber_wellFormed hrow, loadRow]
  · intro _ _ _ _
    trivial

theorem mem_sequenceSetAdd {set : List UInt32} {s t : UInt32} :
    t ∈ sequenceSetAdd set s ↔ t ∈ set ∨ t = s := by
  unfold sequenceSetAdd
  by_cases h : s ∈ set
  · rw [if_pos h]
    constructor
    · exact Or.inl
    · rintro (ht | rfl)
      · exact ht
      · exact h
  · rw [if_neg h]
    simp

theorem nodup_sequenceSetAdd {set : List UInt32} (s : UInt32) (h : set.Nodup) :
    (sequenceSetAdd set s).Nodup := by
  unfold sequenceSetAdd
  by_cases hs : s ∈ set
  · rwa [if_pos hs]
  · rw [if_neg hs, List.nodup_append]
    refine ⟨h, List.nodup_singleton s, ?_⟩
    intro a ha b hb hab
    rw [List.mem_singleton] at hb
    exact hs (hb ▸ hab ▸ ha)

/-- The collected set after some rows: its members, each once. -/
theorem foldl_loadRow (config : Config) (rs : List (List Text)) (set : List UInt32)
    (hset : set.Nodup) :
    (rs.foldl (loadRow config) set).Nodup ∧
      ∀ s, s ∈ rs.foldl (loadRow config) set ↔
        s ∈ set ∨ ∃ r ∈ rs, rowMatches config r = true ∧ rowSeq r = s := by
  induction rs generalizing set with
  | nil => simp [hset]
  | cons r rs ih =>
    -- a row for another client is left out
    by_cases hr : rowMatches config r = true
    · have hstep : loadRow config set r = sequenceSetAdd set (rowSeq r) := by simp [loadRow, hr]
      rw [List.foldl_cons, hstep]
      rcases ih _ (nodup_sequenceSetAdd (rowSeq r) hset) with ⟨hnd, hmem⟩
      refine ⟨hnd, fun s => ?_⟩
      rw [hmem, mem_sequenceSetAdd]
      constructor
      · rintro ((h | rfl) | ⟨r', hr', h⟩)
        · exact Or.inl h
        · exact Or.inr ⟨r, by simp, hr, rfl⟩
        · exact Or.inr ⟨r', List.mem_cons_of_mem _ hr', h⟩
      · rintro (h | ⟨r', hr', hm, rfl⟩)
        · exact Or.inl (Or.inl h)
        · rcases List.mem_cons.mp hr' with rfl | hr'
          · exact Or.inl (Or.inr rfl)
          · exact Or.inr ⟨r', hr', hm, rfl⟩
    · have hstep : loadRow config set r = set := by simp [loadRow, hr]
      rw [List.foldl_cons, hstep]
      rcases ih _ hset with ⟨hnd, hmem⟩
      refine ⟨hnd, fun s => ?_⟩
      rw [hmem]
      constructor
      · rintro (h | ⟨r', hr', h⟩)
        · exact Or.inl h
        · exact Or.inr ⟨r', List.mem_cons_of_mem _ hr', h⟩
      · rintro (h | ⟨r', hr', hm, hs⟩)
        · exact Or.inl h
        · rcases List.mem_cons.mp hr' with rfl | hr'
          · exact absurd hm hr
          · exact Or.inr ⟨r', hr', hm, hs⟩

/-- The first pass collects the sequence numbers of the matching rows. -/
theorem mem_loadSequencesFromFile {config : Config} {file : InputFile}
    (hwf : WellFormedFile file) (s : UInt32) :
    s ∈ loadSequencesFromFile file.contents config.targetIp config.targetPort ↔
      ∃ r ∈ matchingRows config file, rowSeq r = s := by
  rw [loadSequencesFromFile_eq hwf, (foldl_loadRow config _ [] List.nodup_nil).2]
  simp only [List.not_mem_nil, false_or, matchingRows, List.mem_filter]
  constructor
  · rintro ⟨r, hr, hm, hs⟩
    exact ⟨r, ⟨hr, hm⟩, hs⟩
  · rintro ⟨r, ⟨hr, hm⟩, hs⟩
    exact ⟨r, hr, hm, hs⟩

theorem nodup_loadSequencesFromFile {config : Config} {file : InputFile}
    (hwf : WellFormedFile file) :
    (loadSequencesFromFile file.contents config.targetIp config.targetPort).Nodup := by
  rw [loadSequencesFromFile_eq hwf]
  exact (foldl_loadRow config _ [] List.nodup_nil).1

/-! ## The intersection -/

theorem findCommonSequences_eq {config : Config} {f : InputFile} {fs : List InputFile}
    (hfiles : config.inputFiles = f :: fs) :
    findCommonSequences config =
      ((loadSequencesFromFile f.contents config.targetIp config.targetPort).filter fun s =>
        (fs.map fun g => loadSequencesFromFile g.contents config.targetIp config.targetPort).all
          fun set => s ∈ set).mergeSort := by
  simp only [findCommonSequences, hfiles, List.map_cons]
  by_cases h : (loadSequencesFromFile f.contents config.targetIp config.targetPort).length = 0
  · rw [if_pos h, List.length_eq_zero_iff.mp h]
    simp
  · rw [if_neg h]

/-- The intersection holds exactly the common sequence numbers. -/
theorem mem_findCommonSequences {config : Config} (hne : config.inputFiles ≠ [])
    (hwf : ∀ f ∈ config.inputFiles, WellFormedFile f) (s : UInt32) :
    s ∈ findCommonSequences config ↔ Common config s := by
  rcases hfiles : config.inputFiles with _ | ⟨f, fs⟩
  · exact absurd hfiles hne
  rw [hfiles] at hwf
  have hf := hwf f (by simp)
  rw [findCommonSequences_eq hfiles, List.mem_mergeSort, List.mem_filter,
    mem_loadSequencesFromFile hf]
  simp only [List.all_map, List.all_eq_true, Function.comp_apply, decide_eq_true_eq, Common, hfiles,
    List.mem_cons, forall_eq_or_imp]
  -- a number is common when the first file has it and the others do
  constructor
  · rintro ⟨h1, h2⟩
    refine ⟨h1, fun g hg => ?_⟩
    exact (mem_loadSequencesFromFile (hwf g (by simp [hg])) s).mp (h2 g hg)
  · rintro ⟨h1, h2⟩
    refine ⟨h1, fun g hg => ?_⟩
    exact (mem_loadSequencesFromFile (hwf g (by simp [hg])) s).mpr (h2 g hg)

theorem pairwise_le_of_mergeSort (l : List UInt32) : l.mergeSort.Pairwise (· ≤ ·) := by
  have h := @List.pairwise_mergeSort UInt32 (fun a b => decide (a ≤ b))
    (by
      intro a b c hab hbc
      simp only [decide_eq_true_eq] at *
      exact UInt32.le_trans hab hbc)
    (by
      intro a b
      simp only [Bool.or_eq_true, decide_eq_true_eq]
      exact UInt32.le_total a b) l
  simpa using h

/-- The intersection is strictly ascending. -/
theorem pairwise_findCommonSequences {config : Config} (hne : config.inputFiles ≠ [])
    (hwf : ∀ f ∈ config.inputFiles, WellFormedFile f) :
    (findCommonSequences config).Pairwise (· < ·) := by
  rcases hfiles : config.inputFiles with _ | ⟨f, fs⟩
  · exact absurd hfiles hne
  have hnd := @nodup_loadSequencesFromFile config _ (hwf f (by simp [hfiles]))
  rw [findCommonSequences_eq hfiles]
  have hnd' := (List.mergeSort_perm _ fun a b : UInt32 => decide (a ≤ b)).nodup_iff.mpr
    (hnd.filter fun s => (fs.map fun g => loadSequencesFromFile g.contents config.targetIp
      config.targetPort).all fun set => decide (s ∈ set))
  apply List.Pairwise.imp_of_mem _ ((pairwise_le_of_mergeSort _).and hnd')
  intro a b _ _ hab
  exact UInt32.lt_of_le_of_ne hab.1 hab.2

end TradingLatency.Csvjoin
