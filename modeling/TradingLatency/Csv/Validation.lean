import TradingLatency.Csv.JoinCorrect

/-!
# The accepted file combinations (`validate_file_combination`)

The join asks for a number of files and for files of the right side, but never
uses that a main file or a TX file is missing, nor that a file is of the other
mode. `rows_complete_iff` states what an accepted combination has to contain so
that the joined rows have no gaps, and when it is one of the combinations of the
usage text.
-/

namespace TradingLatency.Csvjoin

open CText

/-! ## Validation -/

/-- The reasons for which `validate_file_combination` returns `-1`. -/
inductive FileCombinationError where
  | fileCount (expected got : Nat)
  | unknownType
  | serverFilesForClient
  | clientFilesForServer
deriving DecidableEq, Repr

/-- `expected_file_count`. -/
def expectedFileCount : OperationMode → TargetType → Nat
  | .oneWay, .client => 2
  | .oneWay, .server => 1
  | .oneWay, .clientServer => 3
  | .roundTrip, .client => 2
  | .roundTrip, .server => 2
  | .roundTrip, .clientServer => 4

/-- The loop that sets `detected_types[i]`. -/
def detectTypes : List InputFile → Except FileCombinationError (List InputFile)
  | [] => .ok []
  | f :: fs =>
      if detectFileType f.contents = .unknown then .error .unknownType
      else do
        let fs ← detectTypes fs
        return { f with detectedType := detectFileType f.contents } :: fs

def hasClientMain (files : List InputFile) : Bool :=
  files.any fun f => f.detectedType = .clientOnewayMain || f.detectedType = .clientRoundtripMain

def hasClientTx (files : List InputFile) : Bool :=
  files.any fun f => f.detectedType = .clientOnewayTx || f.detectedType = .clientRoundtripTx

def hasServerMain (files : List InputFile) : Bool :=
  files.any fun f => f.detectedType = .serverOnewayMain || f.detectedType = .serverRoundtripMain

def hasServerTx (files : List InputFile) : Bool :=
  files.any fun f => f.detectedType = .serverRoundtripTx

/-- `validate_file_combination`: the configuration with its detected types. -/
def validateFileCombination (config : Config) : Except FileCombinationError Config :=
  let expected := expectedFileCount config.mode config.target
  if config.inputFiles.length ≠ expected then
    .error (.fileCount expected config.inputFiles.length)
  else
    match detectTypes config.inputFiles with
    | .error e => .error e
    | .ok files =>
        if config.target = .client && (hasServerMain files || hasServerTx files) then
          .error .serverFilesForClient
        else if config.target = .server && (hasClientMain files || hasClientTx files) then
          .error .clientFilesForServer
        else .ok { config with inputFiles := files }

theorem detectTypes_ok {files detected : List InputFile} (h : detectTypes files = .ok detected) :
    detected.length = files.length ∧
      ∀ f ∈ detected, detectFileType f.contents = f.detectedType ∧ f.detectedType ≠ .unknown := by
  induction files generalizing detected with
  | nil =>
    cases h
    simp
  | cons f fs ih =>
    rw [detectTypes] at h
    split at h
    · -- a file whose type is unknown ends the detection
      cases h
    · rename_i hknown
      rcases hfs : detectTypes fs with e | fs'
      · rw [hfs] at h
        cases h
      · rw [hfs] at h
        cases h
        rcases ih hfs with ⟨hlen, htypes⟩
        refine ⟨by simp [hlen], ?_⟩
        -- the type of a file is the one that its header gives
        intro g hg
        rcases List.mem_cons.mp hg with rfl | hg
        · exact ⟨rfl, hknown⟩
        · exact htypes g hg

/-- All that acceptance says about the files. -/
theorem validateFileCombination_ok {config config' : Config}
    (h : validateFileCombination config = .ok config') :
    config'.inputFiles.length = expectedFileCount config'.mode config'.target ∧
      ∀ f ∈ config'.inputFiles,
        detectFileType f.contents = f.detectedType ∧ f.detectedType ≠ .unknown := by
  unfold validateFileCombination at h
  simp only at h
  split at h
  · -- not the expected number of files
    cases h
  · rename_i hcount
    rcases hfiles : detectTypes config.inputFiles with e | files
    · -- a file of unknown type
      rw [hfiles] at h
      cases h
    · rw [hfiles] at h
      rcases detectTypes_ok hfiles with ⟨hlen, htypes⟩
      have hcount' : files.length = expectedFileCount config.mode config.target := by
        rw [hlen]
        exact not_not.mp hcount
      simp only at h
      split at h
      · -- server files for the client alone
        cases h
      · split at h
        · -- client files for the server alone
          cases h
        · cases h
          exact ⟨hcount', htypes⟩

theorem length_documentedTypes (mode : OperationMode) (target : TargetType) :
    (documentedTypes mode target).length = expectedFileCount mode target := by
  cases mode <;> cases target <;> rfl

theorem expectedFileCount_pos (mode : OperationMode) (target : TargetType) :
    0 < expectedFileCount mode target := by
  cases mode <;> cases target <;> decide

/-- A combination of the right size is documented as soon as every documented
type occurs in it. -/
theorem perm_documentedTypes_iff {config : Config}
    (hlen : config.inputFiles.length = expectedFileCount config.mode config.target) :
    (config.inputFiles.map (·.detectedType)).Perm (documentedTypes config.mode config.target) ↔
      ∀ ty ∈ documentedTypes config.mode config.target,
        ∃ f ∈ config.inputFiles, f.detectedType = ty := by
  constructor
  · intro hperm ty hty
    rcases List.mem_map.mp (hperm.mem_iff.mpr hty) with ⟨f, hf, rfl⟩
    exact ⟨f, hf, rfl⟩
  · -- as many files as types: if each type is there, none is there twice
    intro hall
    have hnodup : (documentedTypes config.mode config.target).Nodup := by
      cases config.mode <;> cases config.target <;> decide
    have hsub : documentedTypes config.mode config.target ⊆
        config.inputFiles.map (·.detectedType) := by
      intro ty hty
      rcases hall ty hty with ⟨f, hf, rfl⟩
      exact List.mem_map_of_mem hf
    have hsubperm := List.subperm_of_subset hnodup hsub
    apply (hsubperm.perm_of_length_le _).symm
    rw [List.length_map, length_documentedTypes, hlen]

/-! ## Complete rows -/

/-- Every timestamp of the data rows is there. -/
def CompleteFile (file : InputFile) : Prop :=
  ∀ r ∈ rows file.contents, ∀ i, 3 ≤ i → i < (typeColumns file.detectedType).length →
    r[i]? ≠ some "NULL".toList

/-- Every timestamp column of every written row holds a timestamp of its column
in one of the files. -/
def CompleteRows (config : Config) : Prop :=
  ∀ out, processJoinOperation config = some out → ∀ row ∈ outputRows out,
    ∀ (p : Nat) (name : Text), (outputColumns config)[p]? = some name → IsTimestampColumn name →
      ∃ value, row[p]? = some value ∧ value ≠ "NULL".toList ∧
        ∃ f ∈ config.inputFiles, ∃ r ∈ rows f.contents, ∃ i : Nat,
          (typeColumns f.detectedType)[i]? = some name ∧ r[i]? = some value

/-- Every printed timestamp is filled by one of the detected types. -/
def Covered (config : Config) : Prop :=
  ∀ t ∈ outputTimestamps config.mode config.target,
    ∃ f ∈ config.inputFiles, t ∈ (populatedFields f.detectedType).2

theorem isTimestampColumn_of_output {mode : OperationMode} {target : TargetType} {t : Field}
    (ht : t ∈ outputTimestamps mode target) : IsTimestampColumn (fieldName t) := by
  rcases documentedTypes_cover ht with ⟨ty, -, hpop⟩
  exact ⟨ty, fieldName_mem_drop hpop⟩

theorem typeColumns_getElem {ty : FileType} {i : Nat} {t : Field}
    (hi : (populatedFields ty).2[i]? = some t) : (typeColumns ty)[3 + i]? = some (fieldName t) := by
  have hid : idColumns.length = 3 := rfl
  rw [typeColumns_eq ty (ne_unknown_of_populated hi), List.getElem?_append_right (by omega),
    List.getElem?_map, hid, Nat.add_sub_cancel_left, hi]
  rfl

section Accepted

variable {config : Config} (hin : WellFormedInput config)

include hin

/-- The rows of the output are those of the common sequence numbers. -/
theorem mem_outputRows_iff {out : Text} (hout : processJoinOperation config = some out)
    (row : List Text) :
    row ∈ outputRows out ↔
      ∃ s, Common config s ∧ row = recordFields config (joinedRecord config s) := by
  by_cases hsome : ∃ s, Common config s
  · -- all texts that the join copies are clean
    have hclean : ∀ r ∈ (findCommonSequences config).map (joinedRecord config),
        CleanRecord r := by
      intro r hr
      rcases List.mem_map.mp hr with ⟨s, hs, rfl⟩
      exact cleanRecord_joinedRecord hin ((common_iff hin s).mp hs)
    have hip : ',' ∉ config.targetIp ∧ '\n' ∉ config.targetIp := by
      rcases hsome with ⟨s, hs⟩
      exact targetIp_clean hin hs
    rw [processJoinOperation_eq hin hsome] at hout
    rw [← Option.some.inj hout, outputRows_writeOutputCsv hclean hip, List.map_map]
    constructor
    · intro hrow
      rcases List.mem_map.mp hrow with ⟨s, hs, rfl⟩
      exact ⟨s, (common_iff hin s).mp hs, rfl⟩
    · rintro ⟨s, hs, rfl⟩
      exact List.mem_map.mpr ⟨s, (common_iff hin s).mpr hs, rfl⟩
  · -- without a common sequence number there is no output
    rw [processJoinOperation_none hin hsome] at hout
    cases hout

/-- A printed `NULL` is a gap. -/
theorem not_completeRows_of_null {s : UInt32} (hs : Common config s) {t : Field}
    (ht : t ∈ outputTimestamps config.mode config.target)
    (hnull : (joinedRecord config s).timestamps t = "NULL".toList) : ¬ CompleteRows config := by
  intro hcomplete
  rcases List.getElem?_of_mem ht with ⟨k, hk⟩
  have hout := processJoinOperation_eq hin ⟨s, hs⟩
  have hrow := (mem_outputRows_iff hin hout (recordFields config (joinedRecord config s))).mpr
    ⟨s, hs, rfl⟩
  rcases hcomplete _ hout _ hrow (3 + k) _ (column_of_outputTimestamp hk)
    (isTimestampColumn_of_output ht) with ⟨value, hvalue, hne, -⟩
  rw [recordFields_getElem hk, hnull] at hvalue
  exact hne (Option.some.inj hvalue).symm

theorem completeRows_of_covered (hcomplete : ∀ f ∈ config.inputFiles, CompleteFile f)
    (hcount : commonCount config < 2 ^ 31) (hcov : Covered config) : CompleteRows config := by
  intro out hout row hrow p name hp hts
  rcases (mem_outputRows_iff hin hout row).mp hrow with ⟨s, hs, rfl⟩
  rcases outputTimestamps_of_column hp hts with ⟨k, t, rfl, hk, rfl⟩
  rw [commonCount_eq hin] at hcount
  have hjoined : joinedRecord config s = finalRecord config s := if_pos hcount
  -- the field comes from the last matching row of a file that owns the column
  rcases finalRecord_filled hin hs (hcov t (List.mem_of_getElem? hk)) with
    ⟨f, hf, i, r, v, hi, hr, hv, -, heq⟩
  have hrow' : r ∈ rows f.contents :=
    (List.mem_filter.mp (List.mem_filter.mp (List.mem_of_getLast? hr)).1).1
  have hcol := typeColumns_getElem hi
  refine ⟨v, ?_, ?_, f, hf, r, hrow', 3 + i, hcol, hv⟩
  · rw [recordFields_getElem hk, hjoined, heq]
  · -- a complete row has no `NULL`
    rintro rfl
    exact hcomplete f hf r hrow' (3 + i) (by omega) (List.getElem?_eq_some_iff.mp hcol).1 hv

theorem completeRows_iff (hcomplete : ∀ f ∈ config.inputFiles, CompleteFile f) :
    CompleteRows config ↔
      (¬ ∃ s, Common config s) ∨ commonCount config < 2 ^ 31 ∧ Covered config := by
  constructor
  · intro hrows
    by_contra hcond
    rw [not_or, not_not] at hcond
    rcases hcond with ⟨⟨s, hs⟩, hcond⟩
    by_cases hcount : commonCount config < 2 ^ 31
    · have hcov : ¬ Covered config := fun h => hcond ⟨hcount, h⟩
      unfold Covered at hcov
      push Not at hcov
      rcases hcov with ⟨t, ht, hno⟩
      refine not_completeRows_of_null hin hs ht ?_ hrows
      rw [commonCount_eq hin] at hcount
      rw [joinedRecord, if_pos hcount, finalRecord, timestamps_foldl_of_not_owned hno]
    · -- beyond `2^31` records the binary search finds none
      have hne : outputTimestamps config.mode config.target ≠ [] := by
        cases config.mode <;> cases config.target <;> simp [outputTimestamps]
      rcases List.exists_mem_of_ne_nil _ hne with ⟨t, ht⟩
      refine not_completeRows_of_null hin hs ht ?_ hrows
      rw [commonCount_eq hin] at hcount
      rw [joinedRecord, if_neg hcount]
  · rintro (hnone | ⟨hcount, hcov⟩)
    · intro out hout
      rw [processJoinOperation_none hin hnone] at hout
      cases hout
    · exact completeRows_of_covered hin hcomplete hcount hcov

end Accepted

/-- For every accepted combination of well-formed and complete files, the joined
rows have no gap if and only if no row is written, or fewer than `2^31` sequence
numbers are common and the detected types cover all printed timestamps; and the
combination is a documented one if and only if every type that is asked for
occurs in it. -/
theorem rows_complete_iff {config config' : Config}
    (haccepted : validateFileCombination config = .ok config')
    (hwf : ∀ f ∈ config'.inputFiles, WellFormedFile f)
    (hcomplete : ∀ f ∈ config'.inputFiles, CompleteFile f) :
    (CompleteRows config' ↔
      (¬ ∃ s, Common config' s) ∨ commonCount config' < 2 ^ 31 ∧ Covered config') ∧
    ((config'.inputFiles.map (·.detectedType)).Perm
        (documentedTypes config'.mode config'.target) ↔
      ∀ ty ∈ documentedTypes config'.mode config'.target,
        ∃ f ∈ config'.inputFiles, f.detectedType = ty) := by
  rcases validateFileCombination_ok haccepted with ⟨hlen, -⟩
  have hin : WellFormedInput config' := by
    refine ⟨?_, hwf⟩
    apply List.ne_nil_of_length_pos
    rw [hlen]
    exact expectedFileCount_pos _ _
  exact ⟨completeRows_iff hin hcomplete, perm_documentedTypes_iff hlen⟩

/-! ## One-way server files -/

theorem completeFile_serverFile (n : Nat) : CompleteFile (serverFile n) := by
  intro r hr i hi hlt
  rw [rows_serverFile] at hr
  rcases List.mem_map.mp hr with ⟨s, -, rfl⟩
  have hcols : (typeColumns (serverFile n).detectedType).length = 6 := (populatedFields_fst _).symm
  rw [hcols] at hlt
  have hrange : i = 3 ∨ i = 4 ∨ i = 5 := by omega
  rcases hrange with rfl | rfl | rfl <;> simp [serverRow]

theorem detectTypes_self {files : List InputFile}
    (h : ∀ f ∈ files, detectFileType f.contents = f.detectedType ∧ f.detectedType ≠ .unknown) :
    detectTypes files = .ok files := by
  induction files with
  | nil => rfl
  | cons f fs ih =>
    rcases h f List.mem_cons_self with ⟨htype, hknown⟩
    rw [detectTypes, htype, if_neg hknown, ih fun g hg => h g (List.mem_cons_of_mem _ hg)]
    rfl

/-- Server files that are detected as such are accepted for a server. -/
theorem validate_server {config : Config} (hserver : config.target = .server)
    (hlen : config.inputFiles.length = expectedFileCount config.mode config.target)
    (hfiles : ∀ f ∈ config.inputFiles, ∃ n, f = serverFile n) :
    validateFileCombination config = .ok config := by
  have hdetect : detectTypes config.inputFiles = .ok config.inputFiles := by
    apply detectTypes_self
    intro f hf
    rcases hfiles f hf with ⟨n, rfl⟩
    exact ⟨detectFileType_serverFile n, by simp [serverFile]⟩
  -- the two checks that look for client files find none
  have hmain : hasClientMain config.inputFiles = false := by
    rw [hasClientMain, List.any_eq_false]
    intro f hf
    rcases hfiles f hf with ⟨n, rfl⟩
    simp [serverFile]
  have htx : hasClientTx config.inputFiles = false := by
    rw [hasClientTx, List.any_eq_false]
    intro f hf
    rcases hfiles f hf with ⟨n, rfl⟩
    simp [serverFile]
  have hclient : config.target ≠ .client := by
    rw [hserver]
    decide
  unfold validateFileCombination
  rw [hdetect]
  simp [hlen, hclient, hmain, htx]

theorem validate_serverConfig (n : Nat) :
    validateFileCombination (serverConfig n) = .ok (serverConfig n) := by
  apply validate_server rfl rfl
  intro f hf
  exact ⟨n, List.mem_singleton.mp hf⟩

/-- The rows of a one-way server file alone are complete. -/
theorem rows_complete_two :
    validateFileCombination (serverConfig 2) = .ok (serverConfig 2) ∧
      CompleteRows (serverConfig 2) := by
  have hwf : ∀ f ∈ (serverConfig 2).inputFiles, WellFormedFile f :=
    (documented_serverConfig (by omega)).wellFormed
  have hcomplete : ∀ f ∈ (serverConfig 2).inputFiles, CompleteFile f := by
    intro f hf
    rw [List.mem_singleton.mp hf]
    exact completeFile_serverFile 2
  refine ⟨validate_serverConfig 2,
    (rows_complete_iff (validate_serverConfig 2) hwf hcomplete).1.mpr (Or.inr ⟨?_, ?_⟩)⟩
  · rw [commonCount_serverConfig (by omega)]
    omega
  · intro t ht
    exact exists_owner (documented_serverConfig (by omega)) ht

/-- The one-way server file twice, in place of the main and the TX file of a
round trip. -/
def repeatedConfig : Config :=
  { serverConfig 1 with mode := .roundTrip, inputFiles := [serverFile 1, serverFile 1] }

theorem mem_repeatedConfig {f : InputFile} (hf : f ∈ repeatedConfig.inputFiles) :
    f = serverFile 1 := by
  simpa [repeatedConfig] using hf

theorem validate_repeatedConfig :
    validateFileCombination repeatedConfig = .ok repeatedConfig := by
  apply validate_server rfl rfl
  intro f hf
  exact ⟨1, mem_repeatedConfig hf⟩

/-- The join accepts one main file given twice, and prints rows whose
application and kernel TX timestamps are `NULL`. -/
theorem accepted_rows_incomplete :
    validateFileCombination repeatedConfig = .ok repeatedConfig ∧
      (∀ f ∈ repeatedConfig.inputFiles, WellFormedFile f ∧ CompleteFile f) ∧
      ¬ CompleteRows repeatedConfig ∧
      ¬ (repeatedConfig.inputFiles.map (·.detectedType)).Perm
        (documentedTypes repeatedConfig.mode repeatedConfig.target) := by
  have hfiles : ∀ f ∈ repeatedConfig.inputFiles, WellFormedFile f ∧ CompleteFile f := by
    intro f hf
    rw [mem_repeatedConfig hf]
    exact ⟨wellFormedFile_serverFile (by omega), completeFile_serverFile 1⟩
  have hin : WellFormedInput repeatedConfig :=
    ⟨by simp [repeatedConfig], fun f hf => (hfiles f hf).1⟩
  have hcommon : Common repeatedConfig 0 := by
    intro f hf
    rw [mem_repeatedConfig hf]
    exact (common_serverConfig (n := 1) (by omega) 0).mpr (by decide) _ (List.mem_singleton_self _)
  have hno : ∀ f ∈ repeatedConfig.inputFiles,
      fieldSvrAppTxTs ∉ (populatedFields f.detectedType).2 := by
    intro f hf
    rw [mem_repeatedConfig hf]
    decide
  refine ⟨validate_repeatedConfig, hfiles, ?_, ?_⟩
  · -- no file owns `svr_app_tx_ts`, so it stays `NULL`
    refine not_completeRows_of_null hin hcommon (t := fieldSvrAppTxTs) (by decide) ?_
    unfold joinedRecord
    split
    · rw [finalRecord, timestamps_foldl_of_not_owned hno]
    · rfl
  · intro hperm
    have hmem := hperm.mem_iff.mpr (List.mem_cons_self : FileType.serverRoundtripMain ∈ _)
    exact absurd hmem (by decide)

end TradingLatency.Csvjoin
