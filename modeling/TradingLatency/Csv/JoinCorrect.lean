import TradingLatency.Csv.JoinOutput
import Mathlib.Data.List.Sort

/-!
# When the join is correct

The result of the join on a documented configuration is known in full
(`processJoinOperation_eq`): the rows of the common sequence numbers, filled
from their last rows while there are fewer than `2^31` of them, and all `NULL`
otherwise. So the join is correct exactly below `2^31` common sequence numbers,
or where all timestamps are `NULL` anyway (`join_correct_iff`).
-/

namespace TradingLatency.Csvjoin

open CText

/-! ## Documented configurations -/

/-- There are input files, and all of them are well formed. -/
structure WellFormedInput (config : Config) : Prop where
  ne_nil : config.inputFiles ≠ []
  wellFormed : ∀ f ∈ config.inputFiles, WellFormedFile f

/-- The documented types fill every printed timestamp. -/
theorem documentedTypes_cover {mode : OperationMode} {target : TargetType} {t : Field}
    (ht : t ∈ outputTimestamps mode target) :
    ∃ ty ∈ documentedTypes mode target, t ∈ (populatedFields ty).2 := by
  revert t
  cases mode <;> cases target <;> decide

section Documented

variable {config : Config} (hdoc : Documented config)

include hdoc

theorem Documented.wellFormedInput : WellFormedInput config where
  ne_nil := by
    intro h
    have hlen := hdoc.types.length_eq
    rw [h] at hlen
    revert hlen
    cases config.mode <;> cases config.target <;> decide
  wellFormed := hdoc.wellFormed

/-- No two files of a documented combination fill the same field. -/
theorem pairwise_disjointTypes :
    config.inputFiles.Pairwise fun f g => DisjointTypes f.detectedType g.detectedType := by
  rw [← List.pairwise_map (f := InputFile.detectedType) (R := DisjointTypes)]
  have hsymm : ∀ {a b : FileType}, DisjointTypes a b → DisjointTypes b a :=
    fun h t hb ha => h t ha hb
  rw [hdoc.types.pairwise_iff hsymm]
  unfold DisjointTypes
  cases config.mode <;> cases config.target <;> decide

/-- Every printed timestamp is filled by one of the files. -/
theorem exists_owner {t : Field} (ht : t ∈ outputTimestamps config.mode config.target) :
    ∃ f ∈ config.inputFiles, t ∈ (populatedFields f.detectedType).2 := by
  rcases documentedTypes_cover ht with ⟨ty, hmem, hpop⟩
  rcases List.mem_map.mp (hdoc.types.mem_iff.mpr hmem) with ⟨f, hf, rfl⟩
  exact ⟨f, hf, hpop⟩

/-- The order of the files does not make a configuration less documented. -/
theorem documented_of_perm {files : List InputFile} (hperm : files.Perm config.inputFiles) :
    Documented { config with inputFiles := files } where
  detected f hf := hdoc.detected f (hperm.mem_iff.mp hf)
  types := (hperm.map _).trans hdoc.types
  wellFormed f hf := hdoc.wellFormed f (hperm.mem_iff.mp hf)

end Documented

/-! ## The fields of the rows -/

theorem mem_of_mem_splitOn {sep c : Char} {t w : Text} (hw : w ∈ t.splitOn sep) (hc : c ∈ w) :
    c ∈ t := by
  have ht : [sep].intercalate (t.splitOn sep) = t := List.intercalate_splitOn sep
  rw [← ht]
  rcases List.append_of_mem hw with ⟨l, r, hlr⟩
  rw [hlr]
  cases l with
  | nil => simp [intercalate_cons_eq, hc]
  | cons a l =>
    rw [List.cons_append, intercalate_cons_eq]
    exact List.mem_append_right _ (List.mem_flatMap.mpr ⟨w, by simp, List.mem_cons_of_mem _ hc⟩)

theorem not_mem_field {file : InputFile} (hwf : WellFormedFile file) {r : List Text}
    (hr : r ∈ rows file.contents) {f : Text} (hf : f ∈ r) : ',' ∉ f ∧ '\n' ∉ f := by
  rcases List.mem_map.mp hr with ⟨l, hl, rfl⟩
  rcases List.mem_filter.mp hl with ⟨hmem, hne⟩
  rcases List.mem_map.mp hmem with ⟨raw, hraw, rfl⟩
  refine ⟨not_mem_of_mem_splitOn hf, fun hc => ?_⟩
  rcases (hwf raw hraw).2 with h | h
  · simp [h] at hne
  · exact h.1.2.2 (mem_of_mem_splitOn hf hc)

theorem targetIp_clean {config : Config} (hin : WellFormedInput config) {s : UInt32}
    (hs : Common config s) : ',' ∉ config.targetIp ∧ '\n' ∉ config.targetIp := by
  rcases List.exists_mem_of_ne_nil _ hin.ne_nil with ⟨f, hf⟩
  rcases hs f hf with ⟨r, hr, -⟩
  rcases List.mem_filter.mp hr with ⟨hrow, hmatch⟩
  simp only [rowMatches, Bool.and_eq_true, decide_eq_true_eq] at hmatch
  exact not_mem_field (hin.wellFormed f hf) hrow (List.mem_of_getElem? hmatch.1)

theorem length_field_le {ty : FileType} {fields : List Text} (h : WellFormedRow ty fields)
    {i : Nat} {t : Field} (ht : (populatedFields ty).2[i]? = some t) {v : Text}
    (hv : fields[3 + i]? = some v) : v.length ≤ 31 := by
  have hcols := typeColumns_eq ty (ne_unknown_of_populated ht)
  have hi : i < (populatedFields ty).2.length := (List.getElem?_eq_some_iff.mp ht).1
  rcases h with ⟨-, -, -, ip, port, seq, ts, rfl, -, -, -, -, hshort⟩
  apply hshort
  rw [Nat.add_comm] at hv
  have hv' : ts[i]? = some v := by simpa using hv
  rcases List.getElem?_eq_some_iff.mp hv' with ⟨hlt, rfl⟩
  rw [List.mem_take_iff_getElem]
  refine ⟨i, ?_, rfl⟩
  rw [hcols]
  simp [idColumns]
  omega

/-! ## The columns of a file type -/

theorem fieldName_mem_drop {ty : FileType} {t : Field} (h : t ∈ (populatedFields ty).2) :
    fieldName t ∈ (typeColumns ty).drop 3 := by
  rcases List.getElem?_of_mem h with ⟨i, hi⟩
  rw [typeColumns_eq ty (ne_unknown_of_populated hi)]
  exact List.mem_map_of_mem h

/-- A file has the column of a field exactly if it fills the field. -/
theorem fieldName_mem_typeColumns {ty : FileType} {t : Field} (hlt : t.val < 12)
    (hts : IsTimestampColumn (fieldName t)) :
    fieldName t ∈ typeColumns ty ↔ t ∈ (populatedFields ty).2 := by
  constructor
  · intro h
    by_cases hty : ty = .unknown
    · simp [hty, typeColumns] at h
    · rw [typeColumns_eq ty hty, List.mem_append] at h
      rcases h with h | h
      · exact absurd hts (not_isTimestampColumn_id h)
      · rcases List.mem_map.mp h with ⟨t', ht', heq⟩
        rwa [fieldName_inj hlt heq.symm]
  · intro h
    exact List.mem_of_mem_drop (fieldName_mem_drop h)

theorem idxOf_map_fieldName {ts : List Field} (hts : ∀ t ∈ ts, t.val < 12) (t : Field) :
    (ts.map fieldName).idxOf (fieldName t) = ts.idxOf t := by
  induction ts with
  | nil => rfl
  | cons t' ts ih =>
    by_cases heq : t' = t
    · subst heq
      rw [List.map_cons, List.idxOf_cons_self, List.idxOf_cons_self]
    · have hname : fieldName t' ≠ fieldName t :=
        fun h => heq (fieldName_inj (hts t' List.mem_cons_self) h)
      rw [List.map_cons, List.idxOf_cons_ne _ hname, List.idxOf_cons_ne _ heq,
        ih fun t'' h => hts t'' (List.mem_cons_of_mem _ h)]

theorem idxOf_typeColumns {ty : FileType} {t : Field} (h : t ∈ (populatedFields ty).2) :
    (typeColumns ty).idxOf (fieldName t) = 3 + (populatedFields ty).2.idxOf t := by
  rcases List.getElem?_of_mem h with ⟨i, hi⟩
  have hid : fieldName t ∉ idColumns :=
    fun hmem => not_isTimestampColumn_id hmem ⟨ty, fieldName_mem_drop h⟩
  rw [typeColumns_eq ty (ne_unknown_of_populated hi), List.idxOf_append_of_notMem hid,
    idxOf_map_fieldName (fun t' ht' => populated_lt ht') t]
  rfl

/-! ## The records -/

section Filled

variable {config : Config} (hin : WellFormedInput config) {s : UInt32} (hs : Common config s)

include hin hs

/-- A field that some file fills ends up as in the last row of a file that fills
it. -/
theorem finalRecord_filled {t : Field}
    (hfill : ∃ f ∈ config.inputFiles, t ∈ (populatedFields f.detectedType).2) :
    ∃ f ∈ config.inputFiles, ∃ i r v, (populatedFields f.detectedType).2[i]? = some t ∧
      lastRow config f s = some r ∧ r[3 + i]? = some v ∧ CleanText v ∧
      (finalRecord config s).timestamps t = v := by
  rcases timestamps_foldl_filled hin.wellFormed hfill ⟨s, fun _ => "NULL".toList⟩ hs with
    ⟨f, hf, i, r, v, hi, hr, hv, heq⟩
  have hrow : r ∈ rows f.contents :=
    (List.mem_filter.mp (List.mem_filter.mp (List.mem_of_getLast? hr)).1).1
  have hwr := wellFormedRow_of_mem_rows (hin.wellFormed f hf) hrow
  refine ⟨f, hf, i, r, v, hi, hr, hv, ⟨length_field_le hwr hi hv, ?_⟩, heq⟩
  exact not_mem_field (hin.wellFormed f hf) hrow (List.mem_of_getElem? hv)

theorem cleanRecord_finalRecord : CleanRecord (finalRecord config s) := by
  intro t
  by_cases h : ∃ f ∈ config.inputFiles, t ∈ (populatedFields f.detectedType).2
  · rcases finalRecord_filled hin hs h with ⟨f, hf, i, r, v, -, -, -, hclean, heq⟩
    rw [heq]
    exact hclean
  · -- a field that no file fills keeps its `NULL`
    have hno : ∀ f ∈ config.inputFiles, t ∉ (populatedFields f.detectedType).2 :=
      fun f hf ht => h ⟨f, hf, ht⟩
    rw [finalRecord, timestamps_foldl_of_not_owned hno]
    exact cleanText_null

end Filled

section Records

variable {config : Config} (hdoc : Documented config) {s : UInt32} (hs : Common config s)

include hdoc hs

/-- A field that a file owns ends up as in the last row of this file. -/
theorem finalRecord_owned {f : InputFile} (hf : f ∈ config.inputFiles) {i : Nat} {t : Field}
    (ht : (populatedFields f.detectedType).2[i]? = some t) :
    ∃ r v, lastRow config f s = some r ∧ r[3 + i]? = some v ∧
      (finalRecord config s).timestamps t = v := by
  rcases exists_lastRow (hs f hf) with ⟨r, hr, hmatch⟩
  have hrow : r ∈ rows f.contents := (List.mem_filter.mp hmatch).1
  rcases timestamps_populateRecord (wellFormedRow_of_mem_rows (hdoc.wellFormed f hf) hrow) ht with
    ⟨v, hv, -⟩
  refine ⟨r, v, hr, hv, ?_⟩
  exact timestamps_foldl_of_owned hdoc.wellFormed (pairwise_disjointTypes hdoc) hf ht hr hv

/-- The records hold the owned fields. -/
theorem ownedField_finalRecord {t : Field}
    (ht : t ∈ outputTimestamps config.mode config.target) :
    ownedField config (fieldName t) s = some ((finalRecord config s).timestamps t) := by
  rcases exists_owner hdoc ht with ⟨g, hg, htg⟩
  have hcolumn : ∀ ty, fieldName t ∈ typeColumns ty ↔ t ∈ (populatedFields ty).2 := fun ty =>
    fieldName_mem_typeColumns (populated_lt htg) ⟨g.detectedType, fieldName_mem_drop htg⟩
  rcases hfind : config.inputFiles.find? fun f => fieldName t ∈ typeColumns f.detectedType with
    _ | f
  · -- some file has the column, because `g` has it
    exact absurd ((hcolumn _).mpr htg) (by simpa using List.find?_eq_none.mp hfind g hg)
  · -- the field is that of the first such file
    have hf : f ∈ config.inputFiles := List.mem_of_find?_eq_some hfind
    have hmem : t ∈ (populatedFields f.detectedType).2 := by
      rw [← hcolumn]
      simpa using List.find?_some hfind
    rcases finalRecord_owned hdoc hs hf (List.getElem?_idxOf hmem) with ⟨r, v, hr, hv, heq⟩
    simp only [ownedField, hfind, Option.bind_eq_bind, Option.bind_some, hr,
      idxOf_typeColumns hmem, hv, heq]

end Records

/-! ## The result of the join -/

/-- Strictly ascending lists with the same members are equal. -/
theorem eq_of_ascending {l l' : List UInt32} (hl : l.Pairwise (· < ·)) (hl' : l'.Pairwise (· < ·))
    (hmem : ∀ s, s ∈ l ↔ s ∈ l') : l = l' := by
  have hne : ∀ {a b : UInt32}, a < b → a ≠ b := UInt32.ne_of_lt
  have hperm : l.Perm l' := (List.perm_ext_iff_of_nodup (hl.imp hne) (hl'.imp hne)).mpr hmem
  apply hperm.eq_of_pairwise _ hl hl'
  intro a b _ _ hab hba
  exact absurd hba (UInt32.lt_asymm hab)

/-- The records that the join prints. -/
def joinedRecord (config : Config) (s : UInt32) : Record :=
  if (findCommonSequences config).length < 2 ^ 31 then finalRecord config s
  else ⟨s, fun _ => "NULL".toList⟩

theorem seqNum_finalRecord (config : Config) (s : UInt32) : (finalRecord config s).seqNum = s :=
  seqNum_foldl_updateFromFile config config.inputFiles _

theorem seqNum_joinedRecord (config : Config) (s : UInt32) :
    (joinedRecord config s).seqNum = s := by
  unfold joinedRecord
  split
  · exact seqNum_finalRecord config s
  · rfl

section Result

variable {config : Config} (hin : WellFormedInput config)

include hin

theorem common_iff (s : UInt32) : s ∈ findCommonSequences config ↔ Common config s :=
  mem_findCommonSequences hin.ne_nil hin.wellFormed s

theorem ascending_common : (findCommonSequences config).Pairwise (· < ·) :=
  pairwise_findCommonSequences hin.ne_nil hin.wellFormed

theorem cleanRecord_joinedRecord {s : UInt32} (hs : Common config s) :
    CleanRecord (joinedRecord config s) := by
  unfold joinedRecord
  split
  · exact cleanRecord_finalRecord hin hs
  · exact fun _ => cleanText_null

theorem nodup_common : (findCommonSequences config).Nodup :=
  (ascending_common hin).imp fun h => UInt32.ne_of_lt h

theorem length_common_le : (findCommonSequences config).length ≤ 2 ^ 32 := by
  have hnd : ((findCommonSequences config).map UInt32.toNat).Nodup :=
    (nodup_common hin).map fun a b h => UInt32.toNat_inj.mp h
  have hsub : ((findCommonSequences config).map UInt32.toNat).toFinset ⊆ Finset.range (2 ^ 32) := by
    intro n hn
    rcases List.mem_map.mp (List.mem_toFinset.mp hn) with ⟨s, -, rfl⟩
    exact Finset.mem_range.mpr s.toNat_lt
  have hcard := Finset.card_le_card hsub
  rwa [List.toFinset_card_of_nodup hnd, List.length_map, Finset.card_range] at hcard

theorem commonCount_eq : commonCount config = (findCommonSequences config).length := by
  have hset : {s | Common config s} = ((findCommonSequences config).toFinset : Set UInt32) := by
    ext s
    simp [common_iff hin]
  rw [commonCount, hset, Set.ncard_coe_finset, List.toFinset_card_of_nodup (nodup_common hin)]

/-- What the join writes: the records of the common sequence numbers. -/
theorem processJoinOperation_eq (hsome : ∃ s, Common config s) :
    processJoinOperation config =
      some (writeOutputCsv ((findCommonSequences config).map (joinedRecord config)) config) := by
  rcases hsome with ⟨s, hs⟩
  have hpos : (findCommonSequences config).length ≠ 0 := by
    intro h
    have := (common_iff hin s).mpr hs
    rw [List.length_eq_zero_iff.mp h] at this
    simp at this
  have hcount : (createRecordTable (findCommonSequences config)).length =
      (findCommonSequences config).length := List.length_map _
  have htable : populateFiles config (findCommonSequences config).length config.inputFiles
      (createRecordTable (findCommonSequences config)) =
      (findCommonSequences config).map (joinedRecord config) := by
    -- below 2^31 records every row finds its record
    by_cases hlt : (findCommonSequences config).length < 2 ^ 31
    · have hasc : Ascending (createRecordTable (findCommonSequences config)) := by
        have hcomp : (createRecordTable (findCommonSequences config)).map (·.seqNum) =
            findCommonSequences config := by
          rw [createRecordTable, List.map_map]
          exact List.map_id _
        unfold Ascending
        rw [hcomp]
        exact ascending_common hin
      have hpop := @populateFiles_eq config _ hin.wellFormed _ hasc (by rwa [hcount])
      rw [hcount] at hpop
      rw [hpop, createRecordTable, List.map_map]
      apply List.map_congr_left
      intro s _
      rw [joinedRecord, if_pos hlt]
      rfl
    · -- from 2^31 on the search finds none, and the records stay as they were created
      have hpop := @populateFiles_large config _ hin.wellFormed
        (createRecordTable (findCommonSequences config))
        (by rw [hcount]; omega) (by rw [hcount]; exact length_common_le hin)
      rw [hcount] at hpop
      rw [hpop, createRecordTable]
      apply List.map_congr_left
      intro s _
      rw [joinedRecord, if_neg hlt]
  unfold processJoinOperation
  rw [if_neg hpos]
  exact congrArg (fun t => some (writeOutputCsv t config)) htable

theorem processJoinOperation_none (hnone : ¬ ∃ s, Common config s) :
    processJoinOperation config = none := by
  have hnil : findCommonSequences config = [] := by
    apply List.eq_nil_iff_forall_not_mem.mpr
    intro s hs
    exact hnone ⟨s, (common_iff hin s).mp hs⟩
  simp [processJoinOperation, hnil]

end Result

section Order

variable {config : Config} (hdoc : Documented config)

include hdoc

theorem finalRecord_perm {files : List InputFile} (hperm : files.Perm config.inputFiles)
    {s : UInt32} (hs : Common config s) :
    finalRecord { config with inputFiles := files } s = finalRecord config s := by
  have hdoc' := documented_of_perm hdoc hperm
  have hs' : Common { config with inputFiles := files } s := fun f hf => hs f (hperm.mem_iff.mp hf)
  apply Record.ext
  · rw [seqNum_finalRecord, seqNum_finalRecord]
  · funext t
    by_cases h : ∃ f ∈ config.inputFiles, t ∈ (populatedFields f.detectedType).2
    · -- both orders take the field from the last row of its owner
      rcases h with ⟨f, hf, ht⟩
      rcases List.getElem?_of_mem ht with ⟨i, hi⟩
      rcases finalRecord_owned hdoc hs hf hi with ⟨r, v, hr, hv, heq⟩
      rcases finalRecord_owned hdoc' hs' (hperm.mem_iff.mpr hf) hi with ⟨r', v', hr', hv', heq'⟩
      have hrr : r' = r := Option.some.inj (hr'.symm.trans hr)
      rw [heq, heq']
      exact Option.some.inj (hv'.symm.trans (hrr ▸ hv))
    · have hno : ∀ f ∈ config.inputFiles, t ∉ (populatedFields f.detectedType).2 :=
        fun f hf ht => h ⟨f, hf, ht⟩
      have hno' : ∀ f ∈ files, t ∉ (populatedFields f.detectedType).2 :=
        fun f hf => hno f (hperm.mem_iff.mp hf)
      rw [finalRecord, timestamps_foldl_of_not_owned hno', finalRecord,
        timestamps_foldl_of_not_owned hno]

/-- The order of the files does not matter. -/
theorem processJoinOperation_perm {files : List InputFile}
    (hperm : files.Perm config.inputFiles) :
    processJoinOperation { config with inputFiles := files } = processJoinOperation config := by
  have hdoc' := documented_of_perm hdoc hperm
  have hcommon : ∀ s, Common { config with inputFiles := files } s ↔ Common config s := by
    intro s
    constructor
    · exact fun h f hf => h f (hperm.mem_iff.mpr hf)
    · exact fun h f hf => h f (hperm.mem_iff.mp hf)
  have hseqs : findCommonSequences { config with inputFiles := files } =
      findCommonSequences config := by
    -- both lists are ascending and have the same elements
    apply eq_of_ascending (ascending_common hdoc'.wellFormedInput) (ascending_common hdoc.wellFormedInput)
    intro s
    rw [common_iff hdoc'.wellFormedInput, common_iff hdoc.wellFormedInput, hcommon]
  by_cases hsome : ∃ s, Common config s
  · have hsome' : ∃ s, Common { config with inputFiles := files } s := by
      rcases hsome with ⟨s, hs⟩
      exact ⟨s, (hcommon s).mpr hs⟩
    rw [processJoinOperation_eq hdoc.wellFormedInput hsome, processJoinOperation_eq hdoc'.wellFormedInput hsome', hseqs]
    have hrecords : (findCommonSequences config).map
        (joinedRecord { config with inputFiles := files }) =
        (findCommonSequences config).map (joinedRecord config) := by
      apply List.map_congr_left
      intro s hs
      have hs := (common_iff hdoc.wellFormedInput s).mp hs
      unfold joinedRecord
      rw [hseqs]
      -- whether there are 2^31 records does not depend on the order either
      split
      · exact finalRecord_perm hdoc hperm hs
      · rfl
    rw [hrecords]
    rfl
  · -- without a common number neither of the two joins anything
    rw [processJoinOperation_none hdoc.wellFormedInput hsome, processJoinOperation_none hdoc'.wellFormedInput]
    rintro ⟨s, hs⟩
    exact hsome ⟨s, (hcommon s).mp hs⟩

end Order

/-! ## Correctness -/

theorem column_of_outputTimestamp {config : Config} {k : Nat} {t : Field}
    (ht : (outputTimestamps config.mode config.target)[k]? = some t) :
    (outputColumns config)[3 + k]? = some (fieldName t) := by
  have hk : k < (outputTimestamps config.mode config.target).length :=
    (List.getElem?_eq_some_iff.mp ht).1
  have hid : idColumns.length = 3 := rfl
  rw [outputColumns, outputColumns_eq, List.append_assoc,
    List.getElem?_append_right (by omega), List.getElem?_append_left (by simp; omega),
    List.getElem?_map, hid, Nat.add_sub_cancel_left, ht]
  rfl

theorem recordFields_getElem {config : Config} {record : Record} {k : Nat} {t : Field}
    (ht : (outputTimestamps config.mode config.target)[k]? = some t) :
    (recordFields config record)[3 + k]? = some (record.timestamps t) := by
  have hk : k < (outputTimestamps config.mode config.target).length :=
    (List.getElem?_eq_some_iff.mp ht).1
  rw [recordFields, List.getElem?_append_left (by simp; omega), Nat.add_comm]
  simp [ht]

theorem length_recordFields (config : Config) (record : Record) :
    (recordFields config record).length = (outputColumns config).length := by
  rw [outputColumns, outputColumns_eq, recordFields, calculateModeDeltas]
  simp only [List.length_append, List.length_cons, List.length_map, ← List.map_filterMap, idColumns,
    List.length_nil]
  omega

/-- The output is correct exactly if all printed timestamps are the owned ones. -/
theorem outputCorrect_iff {config : Config} (hdoc : Documented config)
    (hsome : ∃ s, Common config s) :
    OutputCorrect config
        (writeOutputCsv ((findCommonSequences config).map (joinedRecord config)) config) ↔
      ∀ s, Common config s → ∀ t ∈ outputTimestamps config.mode config.target,
        ownedField config (fieldName t) s = some ((joinedRecord config s).timestamps t) := by
  have hclean : ∀ r ∈ (findCommonSequences config).map (joinedRecord config), CleanRecord r := by
    intro r hr
    rcases List.mem_map.mp hr with ⟨s, hs, rfl⟩
    exact cleanRecord_joinedRecord hdoc.wellFormedInput ((common_iff hdoc.wellFormedInput s).mp hs)
  have hip : ',' ∉ config.targetIp ∧ '\n' ∉ config.targetIp := by
    rcases hsome with ⟨s, hs⟩
    exact targetIp_clean hdoc.wellFormedInput hs
  have hrows := outputRows_writeOutputCsv hclean hip
  constructor
  · rintro ⟨-, seqs, hasc, hmem, -, hrow⟩ s hs t ht
    -- the sequence numbers of the rows are the ones that the program has found
    have hseqs : seqs = findCommonSequences config := by
      apply eq_of_ascending hasc (ascending_common hdoc.wellFormedInput)
      intro s
      rw [hmem, common_iff hdoc.wellFormedInput]
    subst hseqs
    rcases List.getElem?_of_mem ((hmem s).mpr hs) with ⟨i, hi⟩
    rcases List.getElem?_of_mem ht with ⟨k, hk⟩
    have hout : (outputRows (writeOutputCsv ((findCommonSequences config).map
        (joinedRecord config)) config))[i]? = some (recordFields config (joinedRecord config s)) := by
      simp [hrows, hi]
    rcases exists_owner hdoc ht with ⟨f, -, hpop⟩
    rcases (hrow i s _ hi hout).2.2.2.2 (3 + k) (fieldName t) (column_of_outputTimestamp hk)
      ⟨_, fieldName_mem_drop hpop⟩ with ⟨v, hv, hval⟩
    rw [recordFields_getElem hk] at hval
    rw [hv, hval]
  · intro howned
    refine ⟨by rw [splitOn_writeOutputCsv hclean hip]; rfl, findCommonSequences config,
      ascending_common hdoc.wellFormedInput, common_iff hdoc.wellFormedInput, by simp [hrows], ?_⟩
    intro i s row hi hrow
    have hrow' : row = recordFields config (joinedRecord config s) := by
      rw [hrows, List.map_map, List.getElem?_map, hi] at hrow
      exact (Option.some.inj hrow).symm
    subst hrow'
    refine ⟨length_recordFields config _, rfl, rfl, ?_, ?_⟩
    · simp [recordFields, seqNum_joinedRecord]
    · intro p name hp hts
      rcases outputTimestamps_of_column hp hts with ⟨k, t, rfl, hk, rfl⟩
      refine ⟨_, howned s ((common_iff hdoc.wellFormedInput s).mp (List.mem_of_getElem? hi)) t
        (List.mem_of_getElem? hk), recordFields_getElem hk⟩

theorem allNull_iff {config : Config} (hdoc : Documented config) :
    AllNull config ↔ ∀ s, Common config s → ∀ t ∈ outputTimestamps config.mode config.target,
      ownedField config (fieldName t) s = some "NULL".toList := by
  constructor
  · intro h s hs t ht
    rcases List.getElem?_of_mem ht with ⟨k, hk⟩
    rcases exists_owner hdoc ht with ⟨f, -, hpop⟩
    exact h s hs _ (List.mem_of_getElem? (column_of_outputTimestamp hk))
      ⟨_, fieldName_mem_drop hpop⟩
  · intro h s hs name hname hts
    rcases List.getElem?_of_mem hname with ⟨p, hp⟩
    rcases outputTimestamps_of_column hp hts with ⟨k, t, -, hk, rfl⟩
    exact h s hs t (List.mem_of_getElem? hk)

/-- The output is correct below `2^31` common sequence numbers, and above them
only if there is nothing but `NULL` to be copied. -/
theorem outputCorrect_iff_small {config : Config} (hdoc : Documented config)
    (hsome : ∃ s, Common config s) :
    OutputCorrect config
        (writeOutputCsv ((findCommonSequences config).map (joinedRecord config)) config) ↔
      commonCount config < 2 ^ 31 ∨ AllNull config := by
  rw [outputCorrect_iff hdoc hsome, commonCount_eq hdoc.wellFormedInput, allNull_iff hdoc]
  by_cases hlt : (findCommonSequences config).length < 2 ^ 31
  · simp only [joinedRecord, hlt, if_true, true_or, iff_true]
    intro s hs t ht
    exact ownedField_finalRecord hdoc hs ht
  · simp only [joinedRecord, hlt, if_false, false_or]

theorem not_joinCorrect {config : Config} (hdoc : Documented config)
    (hlarge : 2 ^ 31 ≤ commonCount config) (hnull : ¬ AllNull config) : ¬ JoinCorrect config := by
  intro hjoin
  have hsome : ∃ s, Common config s := by
    by_contra hno
    exact hnull fun s hs => absurd ⟨s, hs⟩ hno
  rcases hjoin.written hsome with ⟨out, hout, hcorrect⟩
  rw [processJoinOperation_eq hdoc.wellFormedInput hsome] at hout
  rw [← Option.some.inj hout] at hcorrect
  rcases (outputCorrect_iff_small hdoc hsome).mp hcorrect with h | h
  · omega
  · exact hnull h

/-- The join of a documented configuration is correct if and only if fewer than
`2^31` sequence numbers are common, or all their timestamps are `NULL`. At exactly
`2^31` the search overflows an `int`: a run with undefined behaviour counts as one
that is not correct, whatever a compiler makes of it. -/
theorem join_correct_iff {config : Config} (hdoc : Documented config) :
    JoinCorrect config ↔ commonCount config < 2 ^ 31 ∨ AllNull config := by
  constructor
  · intro hjoin
    by_contra hcond
    rw [not_or] at hcond
    exact not_joinCorrect hdoc (by omega) hcond.2 hjoin
  · intro hcond
    constructor
    · exact processJoinOperation_none hdoc.wellFormedInput
    · intro hsome
      exact ⟨_, processJoinOperation_eq hdoc.wellFormedInput hsome, (outputCorrect_iff_small hdoc hsome).mpr hcond⟩
    · intro files hperm
      exact processJoinOperation_perm hdoc hperm

/-! ## A one-way server file with one row per sequence number -/

/-- The header of a one-way server file. -/
def serverHeader : Text :=
  "clt_src_ip,clt_src_port,seq_num,svr_hw_rx_ts,svr_ker_rx_ts,svr_app_rx_ts".toList

/-- The fields of the row of `s`. -/
def serverRow (s : Nat) : List Text :=
  ["10.0.0.1".toList, "1".toList, dec s, "1.1".toList, "1.2".toList, "1.3".toList]

/-- The rows of the sequence numbers below `n`. -/
def serverFile (n : Nat) : InputFile where
  contents := (serverHeader :: (List.range n).map fun s => [','].intercalate (serverRow s)).flatMap
    (· ++ ['\n'])
  detectedType := .serverOnewayMain

/-- The join of this file alone. -/
def serverConfig (n : Nat) : Config where
  targetIp := "10.0.0.1".toList
  targetPort := 1
  mode := .oneWay
  target := .server
  inputFiles := [serverFile n]
  targetIp_length_le := by decide

theorem mem_serverRow {s : Nat} {f : Text} (hf : f ∈ serverRow s) :
    f = dec s ∨ f ∈ ["10.0.0.1".toList, "1".toList, "1.1".toList, "1.2".toList, "1.3".toList] := by
  simp only [serverRow, List.mem_cons, List.not_mem_nil, or_false] at hf ⊢
  tauto

theorem not_mem_serverRow {s : Nat} {f : Text} (hf : f ∈ serverRow s) :
    ∀ c ∈ [',', '"', '\n', '\r', nul], c ∉ f := by
  rcases mem_serverRow hf with rfl | hf
  · have hdigit : ∀ c ∈ [',', '"', '\n', '\r', nul], c.isDigit = false := forall_of_all (by decide)
    exact fun c hc => not_mem_dec (hdigit c hc) s
  · clear * - hf
    apply forall_of_all
    revert f
    decide

theorem unpadded_serverRow {s : Nat} {f : Text} (hf : f ∈ serverRow s) : Unpadded f := by
  rcases mem_serverRow hf with rfl | hf
  · exact (plainField_of_isDecimal (isDecimal_dec s)).2.2
  · apply unpadded_of_forall
    clear * - hf
    apply forall_of_all
    revert f
    decide

theorem splitOn_serverRow (s : Nat) : ([','].intercalate (serverRow s)).splitOn ',' = serverRow s :=
  List.splitOn_intercalate ',' (fun _ hf => not_mem_serverRow hf ',' (by decide)) (by simp [serverRow])

theorem isPlain_serverLine (s : Nat) : IsPlain ([','].intercalate (serverRow s)) := by
  have hno : ∀ c ∈ ['\n', '\r', nul], c ∉ [','].intercalate (serverRow s) := by
    intro c hc hmem
    rcases mem_intercalate hmem with rfl | ⟨f, hf, hcf⟩
    · exact absurd hc (by decide)
    · exact not_mem_serverRow hf c (by simp at hc ⊢; tauto) hcf
  exact ⟨hno _ (by decide), hno _ (by decide), hno _ (by decide)⟩

theorem wellFormedRow_serverRow {s : Nat} (hs : s < 2 ^ 32) :
    WellFormedRow .serverOnewayMain (serverRow s) := by
  have hcols : (typeColumns .serverOnewayMain).length = 6 := (populatedFields_fst _).symm
  refine ⟨by rw [hcols]; rfl, Nat.le_of_ble_eq_true rfl, ?_, _, _, _, _, rfl, by decide, by decide,
    isDecimal_dec s, ?_, ?_⟩
  · exact fun f hf => ⟨not_mem_serverRow hf '"' (by decide), unpadded_serverRow hf⟩
  · rw [decimalValue_dec]
    omega
  · rw [hcols]
    decide

theorem rows_serverFile (n : Nat) :
    rows (serverFile n).contents = (List.range n).map serverRow := by
  rw [serverFile, rows_of_lines (by decide) (by decide), List.map_map]
  · apply List.map_congr_left
    intro s _
    exact splitOn_serverRow s
  · intro l hl
    rcases List.mem_map.mp hl with ⟨s, -, rfl⟩
    refine ⟨isPlain_serverLine s, ?_⟩
    rw [serverRow, List.intercalate_cons_cons]
    simp

set_option maxRecDepth 5000 in
theorem detectFileType_serverHeader : detectFileType serverHeader = .serverOnewayMain := by
  unfold detectFileType serverHeader
  repeat rw [String.toList_ofList]
  decide

theorem detectFileType_serverFile (n : Nat) :
    detectFileType (serverFile n).contents = .serverOnewayMain := by
  rw [serverFile, detectFileType_of_header (by decide) ⟨by decide, by decide, by decide⟩ (by decide),
    detectFileType_serverHeader]

theorem wellFormedFile_serverFile {n : Nat} (hn : n ≤ 2 ^ 32) : WellFormedFile (serverFile n) := by
  apply wellFormedFile_of_lines (by decide) (by decide)
  intro l hl
  rcases List.mem_map.mp hl with ⟨s, hs, rfl⟩
  have hlt : s < 2 ^ 32 := by
    rw [List.mem_range] at hs
    omega
  refine ⟨isPlain_serverLine s, ?_, ?_⟩
  · have hlen : (dec s).length ≤ 10 := length_dec_le (by decide) (by omega)
    rw [serverRow, intercalate_cons_eq]
    simp
    omega
  · rw [splitOn_serverRow]
    exact wellFormedRow_serverRow hlt

theorem documented_serverConfig {n : Nat} (hn : n ≤ 2 ^ 32) : Documented (serverConfig n) where
  detected f hf := by
    rw [List.mem_singleton.mp hf, detectFileType_serverFile]
    rfl
  types := List.Perm.refl _
  wellFormed f hf := by
    rw [List.mem_singleton.mp hf]
    exact wellFormedFile_serverFile hn

theorem matchingRows_serverConfig (n : Nat) :
    matchingRows (serverConfig n) (serverFile n) = (List.range n).map serverRow := by
  rw [matchingRows, rows_serverFile]
  apply List.filter_eq_self.mpr
  intro r hr
  rcases List.mem_map.mp hr with ⟨s, -, rfl⟩
  rfl

theorem rowSeq_serverRow (s : Nat) : rowSeq (serverRow s) = UInt32.ofNat s := by
  simp [rowSeq, serverRow]

theorem common_serverConfig {n : Nat} (hn : n ≤ 2 ^ 32) (s : UInt32) :
    Common (serverConfig n) s ↔ s.toNat < n := by
  have hfile : Common (serverConfig n) s ↔
      ∃ r ∈ matchingRows (serverConfig n) (serverFile n), rowSeq r = s := by
    constructor
    · exact fun h => h _ (List.mem_singleton_self _)
    · intro h f hf
      rwa [List.mem_singleton.mp hf]
  rw [hfile, matchingRows_serverConfig]
  -- up to 2^32 rows each row has a number of its own
  constructor
  · rintro ⟨r, hr, rfl⟩
    rcases List.mem_map.mp hr with ⟨k, hk, rfl⟩
    rw [List.mem_range] at hk
    rw [rowSeq_serverRow, UInt32.toNat_ofNat']
    omega
  · intro hs
    refine ⟨serverRow s.toNat, List.mem_map_of_mem (List.mem_range.mpr hs), ?_⟩
    rw [rowSeq_serverRow, UInt32.ofNat_toNat]

theorem commonCount_serverConfig {n : Nat} (hn : n ≤ 2 ^ 32) : commonCount (serverConfig n) = n := by
  have hset : {s | Common (serverConfig n) s} =
      ((List.range n).map UInt32.ofNat).toFinset := by
    ext s
    simp only [Set.mem_ofPred_eq, common_serverConfig hn, List.coe_toFinset, List.mem_map,
      List.mem_range]
    constructor
    · exact fun h => ⟨s.toNat, h, UInt32.ofNat_toNat⟩
    · rintro ⟨k, hk, rfl⟩
      rw [UInt32.toNat_ofNat']
      omega
  rw [commonCount, hset, Set.ncard_coe_finset, List.toFinset_card_of_nodup, List.length_map,
    List.length_range]
  apply List.nodup_range.map_on
  intro a ha b hb hab
  rw [List.mem_range] at ha hb
  have := congrArg UInt32.toNat hab
  rw [UInt32.toNat_ofNat', UInt32.toNat_ofNat'] at this
  omega

theorem not_allNull_serverConfig {n : Nat} (hpos : 0 < n) (hn : n ≤ 2 ^ 32) :
    ¬ AllNull (serverConfig n) := by
  intro h
  have hdoc := documented_serverConfig hn
  have hcommon : Common (serverConfig n) 0 := (common_serverConfig hn 0).mpr hpos
  have hmem : fieldSvrHwRxTs ∈ outputTimestamps (serverConfig n).mode (serverConfig n).target :=
    List.mem_cons_self
  have hnull := (allNull_iff hdoc).mp h 0 hcommon fieldSvrHwRxTs hmem
  rcases finalRecord_owned hdoc hcommon (List.mem_singleton_self (serverFile n)) (i := 0)
    (t := fieldSvrHwRxTs) rfl with ⟨r, v, hr, hv, heq⟩
  rw [ownedField_finalRecord hdoc hcommon hmem, heq] at hnull
  -- the field is the one of some row, and all rows hold the same text there
  have hrow := (List.mem_filter.mp (List.mem_of_getLast? hr)).1
  rw [matchingRows_serverConfig] at hrow
  rcases List.mem_map.mp hrow with ⟨s, -, rfl⟩
  have hv' : v = "1.1".toList := (Option.some.inj hv).symm
  rw [hv', Option.some.injEq] at hnull
  exact absurd hnull (by decide)

/-- Two sequence numbers are few enough. -/
theorem join_correct_two : Documented (serverConfig 2) ∧ JoinCorrect (serverConfig 2) := by
  have hdoc := documented_serverConfig (n := 2) (by omega)
  refine ⟨hdoc, (join_correct_iff hdoc).mpr (Or.inl ?_)⟩
  rw [commonCount_serverConfig (by omega)]
  omega

/-- With `2^31 + 1` sequence numbers the binary search finds no record, and all
timestamps of the output are lost. -/
theorem join_loses_timestamps :
    Documented (serverConfig (2 ^ 31 + 1)) ∧ ¬ JoinCorrect (serverConfig (2 ^ 31 + 1)) := by
  have hdoc := documented_serverConfig (n := 2 ^ 31 + 1) (by omega)
  refine ⟨hdoc, not_joinCorrect hdoc ?_ (not_allNull_serverConfig (by omega) (by omega))⟩
  rw [commonCount_serverConfig (by omega)]
  omega

end TradingLatency.Csvjoin
