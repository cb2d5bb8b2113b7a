import TradingLatency.Stats.Analysis
import TradingLatency.Lib.Run

/-!
# The option `--stats` (`timestamp_client.c`, `timestamp_server.c`)

Both programs read the option with the same `parse_stats_argument`: a buffer size
with an optional suffix, and parameters for the histogram. Whatever is accepted
keeps the three numbers in their ranges (`acceptedStats_of_options`).

The size that is stored need not be the one that was written. The range is checked
after the multiplication with the suffix, which may wrap, and the characters behind
the suffix are not looked at (`stores_written_iff`).
-/

namespace TradingLatency

open CText

/-- The reasons for which `parse_stats_argument` ends the program. -/
inductive StatsArgumentError where
  | invalidSuffix (c : Char)
  | bufferSizeRange
  | binWidthRange
  | binCountRange
  | unknownParameter (token : Text)
deriving DecidableEq, Repr

/-- The initial value of `stats_config`. -/
def defaultStatsConfig : StatsConfig where
  bufferSize := 5000000
  binWidthUs := 10
  maxBins := 1000

/-- The first token: a number with an optional suffix `M` or `K`. Only the
character at `endptr` is looked at. -/
def parseBufferSize (token : Text) : Except StatsArgumentError UInt64 :=
  let r := strtoul token
  match r.2 with
  | [] => .ok r.1
  | c :: _ =>
      if c = 'M' ∨ c = 'm' then .ok (r.1 * 1000000)
      else if c = 'K' ∨ c = 'k' then .ok (r.1 * 1000)
      else .error (.invalidSuffix c)

/-- One turn of the loop over the remaining tokens. -/
def parseStatsParameter (config : StatsConfig) (token : Text) :
    Except StatsArgumentError StatsConfig :=
  if "bw=".toList.isPrefixOf token then
    let binWidth := (strtoul (token.drop 3)).1
    if binWidth < 1 ∨ binWidth > 1000 then .error .binWidthRange
    else .ok { config with binWidthUs := binWidth.toUInt32 }
  else if "bn=".toList.isPrefixOf token then
    let binCount := (strtoul (token.drop 3)).1
    if binCount < 10 ∨ binCount > 10000 then .error .binCountRange
    else .ok { config with maxBins := binCount.toUInt32 }
  else .error (.unknownParameter token)

/-- `parse_stats_argument`. -/
def parseStatsArgument (arg : Text) (config : StatsConfig) :
    Except StatsArgumentError StatsConfig :=
  match strtok arg ',' with
  | [] => .ok config
  | token :: tokens => do
      let size ← parseBufferSize token
      if size < 10000 ∨ size > 10000000 then .error .bufferSizeRange
      else tokens.foldlM parseStatsParameter { config with bufferSize := size.toUInt32 }

/-- The option `-S`, with or without `optarg`. -/
def statsOption (config : StatsConfig) : Option Text → Except StatsArgumentError StatsConfig
  | some optarg => parseStatsArgument optarg config
  | none => .ok defaultStatsConfig

/-- All occurrences of the option on the command line. -/
def statsOptions (optargs : List (Option Text)) : Except StatsArgumentError StatsConfig :=
  optargs.foldlM statsOption defaultStatsConfig

/-! ## The accepted ranges -/

/-- The ranges that the parser checks. -/
structure AcceptedStats (config : StatsConfig) : Prop where
  bufferSize : 10000 ≤ config.bufferSize.toNat ∧ config.bufferSize.toNat ≤ 10000000
  binWidthUs : 1 ≤ config.binWidthUs.toNat ∧ config.binWidthUs.toNat ≤ 1000
  maxBins : 10 ≤ config.maxBins.toNat ∧ config.maxBins.toNat ≤ 10000

theorem acceptedStats_default : AcceptedStats defaultStatsConfig := by
  constructor <;> decide

/-- A number that has passed a range check keeps its value in 32 bits. -/
theorem toNat_toUInt32_of_range {n lo hi : UInt64} (hhi : hi.toNat < 2 ^ 32)
    (h : ¬ (n < lo ∨ n > hi)) :
    lo.toNat ≤ n.toUInt32.toNat ∧ n.toUInt32.toNat ≤ hi.toNat := by
  rw [not_or, UInt64.not_lt, gt_iff_lt, UInt64.not_lt] at h
  have hlo := UInt64.le_iff_toNat_le.mp h.1
  have hle := UInt64.le_iff_toNat_le.mp h.2
  rw [UInt64.toNat_toUInt32, Nat.mod_eq_of_lt (by omega)]
  exact ⟨hlo, hle⟩

/-- A parameter is in range, and touches nothing else. -/
theorem parseStatsParameter_ok {config config' : StatsConfig} {token : Text}
    (h : parseStatsParameter config token = .ok config') :
    config'.bufferSize = config.bufferSize ∧
      ("bw=".toList.isPrefixOf token = true ∧ config'.maxBins = config.maxBins ∧
          1 ≤ config'.binWidthUs.toNat ∧ config'.binWidthUs.toNat ≤ 1000 ∨
        "bw=".toList.isPrefixOf token = false ∧ "bn=".toList.isPrefixOf token = true ∧
          config'.binWidthUs = config.binWidthUs ∧
          10 ≤ config'.maxBins.toNat ∧ config'.maxBins.toNat ≤ 10000) := by
  unfold parseStatsParameter at h
  simp only at h
  split at h
  · -- `bw=`: the width is between 1 and 1000, or the program ends
    next hbw =>
    split at h
    · cases h
    · next hrange =>
      cases h
      exact ⟨rfl, Or.inl ⟨hbw, rfl, toNat_toUInt32_of_range (by decide) hrange⟩⟩
  · next hbw =>
    -- `bn=`: the number of bins is between 10 and 10000, or the program ends
    split at h
    · next hbn =>
      split at h
      · cases h
      · next hrange =>
        cases h
        exact ⟨rfl, Or.inr ⟨Bool.not_eq_true _ ▸ hbw, hbn, rfl,
          toNat_toUInt32_of_range (by decide) hrange⟩⟩
    · -- no other parameter is known
      cases h

/-- What an accepted argument has passed. -/
theorem parseStatsArgument_ok {arg token : Text} {tokens : List Text} {config config' : StatsConfig}
    (htok : strtok arg ',' = token :: tokens) (h : parseStatsArgument arg config = .ok config') :
    ∃ size, parseBufferSize token = .ok size ∧ ¬ (size < 10000 ∨ size > 10000000) ∧
      tokens.foldlM parseStatsParameter { config with bufferSize := size.toUInt32 } =
        .ok config' := by
  simp only [parseStatsArgument, htok] at h
  rcases hsize : parseBufferSize token with e | size
  · rw [hsize] at h
    cases h
  · rw [hsize] at h
    change (if size < 10000 ∨ size > 10000000 then _ else _) = _ at h
    split at h
    · cases h
    · next hrange => exact ⟨size, rfl, hrange, h⟩

theorem acceptedStats_parameter {config config' : StatsConfig} {token : Text}
    (hconfig : AcceptedStats config) (h : parseStatsParameter config token = .ok config') :
    AcceptedStats config' := by
  rcases parseStatsParameter_ok h with ⟨hsize, ⟨-, hbins, hwidth⟩ | ⟨-, -, hwidth, hbins⟩⟩
  · exact ⟨hsize ▸ hconfig.bufferSize, hwidth, hbins ▸ hconfig.maxBins⟩
  · exact ⟨hsize ▸ hconfig.bufferSize, hwidth ▸ hconfig.binWidthUs, hbins⟩

theorem acceptedStats_argument {arg : Text} {config config' : StatsConfig}
    (hconfig : AcceptedStats config) (h : parseStatsArgument arg config = .ok config') :
    AcceptedStats config' := by
  rcases htok : strtok arg ',' with _ | ⟨token, tokens⟩
  · simp only [parseStatsArgument, htok] at h
    cases h
    exact hconfig
  · rcases parseStatsArgument_ok htok h with ⟨size, -, hrange, hfold⟩
    refine Run.foldlM_ok (fun b a b' hb hp => acceptedStats_parameter hb hp) tokens ?_ hfold
    exact { hconfig with bufferSize := toNat_toUInt32_of_range (by decide) hrange }

/-- Every configuration that the option parser lets pass is in range. -/
theorem acceptedStats_of_options {optargs : List (Option Text)} {config : StatsConfig}
    (h : statsOptions optargs = .ok config) : AcceptedStats config := by
  refine Run.foldlM_ok ?_ optargs acceptedStats_default h
  intro b optarg b' hb hopt
  cases optarg with
  | none =>
    cases hopt
    exact acceptedStats_default
  | some arg => exact acceptedStats_argument hb hopt

/-- An accepted configuration can be analysed. -/
theorem initializeAnalysisResult_accepted {config : StatsConfig} (h : AcceptedStats config)
    (mode : StatsMode) :
    ∃ result, initializeAnalysisResult mode config = some result ∧ result.mode = mode := by
  have hsize : config.bufferSize ≠ 0 := by
    intro hzero
    have hlo := h.bufferSize.1
    rw [hzero] at hlo
    exact absurd hlo (by decide)
  have hbins : config.maxBins ≠ 0 := by
    intro hzero
    have hlo := h.maxBins.1
    rw [hzero] at hlo
    exact absurd hlo (by decide)
  have hwidth : config.binWidthUs ≠ 0 := by
    intro hzero
    have hlo := h.binWidthUs.1
    rw [hzero] at hlo
    exact absurd hlo (by decide)
  -- the tables of a mode are never empty, so only the sizes could be refused
  have hvalid : validateAnalysisResult (configureAnalysisForMode mode config) = true := by
    unfold validateAnalysisResult configureAnalysisForMode
    simp only [hbins, hwidth, ne_eq, not_false_eq_true, decide_true, Bool.and_true]
    cases mode <;> rfl
  rcases allocateLoop_spec hsize hbins (modeDeltas mode)
    (configureAnalysisForMode mode config).deltas with ⟨deltas, hloop, -, -⟩
  refine ⟨{ configureAnalysisForMode mode config with deltas := deltas }, ?_, rfl⟩
  unfold initializeAnalysisResult
  simp only [hvalid, if_true]
  exact congrArg (Option.map _) hloop

/-! ## The size that was written -/

/-- The texts of a size with the numbers that they stand for. -/
inductive WrittenSize : Text → Nat → Prop where
  | plain {n : Text} (hn : IsDecimal n) : WrittenSize n (decimalValue n)
  | kilo {n : Text} {c : Char} (hn : IsDecimal n) (hc : c = 'K' ∨ c = 'k') :
      WrittenSize (n ++ [c]) (decimalValue n * 1000)
  | mega {n : Text} {c : Char} (hn : IsDecimal n) (hc : c = 'M' ∨ c = 'm') :
      WrittenSize (n ++ [c]) (decimalValue n * 1000000)

/-- The first token is a size in the accepted range and is what has been stored, and
so are the parameters behind it. -/
structure StoresWritten (token : Text) (tokens : List Text) (config : StatsConfig) : Prop where
  bufferSize : ∃ v, WrittenSize token v ∧ 10000 ≤ v ∧ v ≤ 10000000 ∧ config.bufferSize.toNat = v
  binWidthUs : (∃ t ∈ tokens, "bw=".toList.isPrefixOf t) →
    1 ≤ config.binWidthUs.toNat ∧ config.binWidthUs.toNat ≤ 1000
  maxBins : (∃ t ∈ tokens, "bn=".toList.isPrefixOf t) →
    10 ≤ config.maxBins.toNat ∧ config.maxBins.toNat ≤ 10000

/-- The factor of the suffix in front of a text. -/
def suffixFactor : Text → Nat
  | [] => 1
  | c :: _ => if c = 'M' ∨ c = 'm' then 1000000 else 1000

/-- Nothing stands behind the suffix, and the product fits 64 bits. -/
def WrittenInFull (token : Text) : Prop :=
  (token.dropWhile Char.isDigit).length ≤ 1 ∧
    decimalValue (token.takeWhile Char.isDigit) * suffixFactor (token.dropWhile Char.isDigit) < 2 ^ 64

/-- No parameter is of both kinds. -/
theorem not_bn_of_bw {token : Text} (h : "bw=".toList.isPrefixOf token = true) :
    ¬ "bn=".toList.isPrefixOf token = true := by
  intro hbn
  have hstart := List.prefix_of_prefix_length_le (List.isPrefixOf_iff_prefix.mp h)
    (List.isPrefixOf_iff_prefix.mp hbn) (by decide)
  exact absurd hstart (by decide)

/-- The parameters of the histogram that are stored are in range. -/
theorem parameters_ok (tokens : List Text) {config config' : StatsConfig}
    (h : tokens.foldlM parseStatsParameter config = .ok config') :
    config'.bufferSize = config.bufferSize ∧
      ((∃ t ∈ tokens, "bw=".toList.isPrefixOf t) ∨
          (1 ≤ config.binWidthUs.toNat ∧ config.binWidthUs.toNat ≤ 1000) →
        1 ≤ config'.binWidthUs.toNat ∧ config'.binWidthUs.toNat ≤ 1000) ∧
      ((∃ t ∈ tokens, "bn=".toList.isPrefixOf t) ∨
          (10 ≤ config.maxBins.toNat ∧ config.maxBins.toNat ≤ 10000) →
        10 ≤ config'.maxBins.toNat ∧ config'.maxBins.toNat ≤ 10000) := by
  -- induction over the parameters; the last one of a kind counts
  induction tokens generalizing config with
  | nil =>
    cases h
    refine ⟨rfl, ?_, ?_⟩
    · -- without a parameter the value is the one before
      rintro (⟨t, ht, -⟩ | hrange)
      · cases ht
      · exact hrange
    · rintro (⟨t, ht, -⟩ | hrange)
      · cases ht
      · exact hrange
  | cons token tokens ih =>
    rw [List.foldlM_cons] at h
    rcases hfirst : parseStatsParameter config token with e | middle
    · rw [hfirst] at h
      cases h
    · rw [hfirst] at h
      rcases ih h with ⟨hsize, hwidth, hbins⟩
      rcases parseStatsParameter_ok hfirst with
        ⟨hsize', ⟨hbw, hbins', hwidth'⟩ | ⟨hbw, hbn, hwidth', hbins'⟩⟩
      · -- the first parameter is a width, so the number of bins comes from the others
        refine ⟨hsize.trans hsize', fun _ => hwidth (Or.inr hwidth'), ?_⟩
        rintro (⟨t, ht, hbn⟩ | hrange)
        · rcases List.mem_cons.mp ht with rfl | ht
          · exact absurd hbn (not_bn_of_bw hbw)
          · exact hbins (Or.inl ⟨t, ht, hbn⟩)
        · rw [← hbins'] at hrange
          exact hbins (Or.inr hrange)
      · -- the first parameter is a number of bins, so the width comes from the others
        refine ⟨hsize.trans hsize', ?_, fun _ => hbins (Or.inr hbins')⟩
        rintro (⟨t, ht, hbw'⟩ | hrange)
        · rcases List.mem_cons.mp ht with rfl | ht
          · rw [hbw] at hbw'
            cases hbw'
          · exact hwidth (Or.inl ⟨t, ht, hbw'⟩)
        · rw [← hwidth'] at hrange
          exact hwidth (Or.inr hrange)

/-! ## The first token -/

/-- What `parse_stats_argument` multiplies with. -/
theorem parseBufferSize_eq {n r : Text} (hn : IsDecimal n) (hr : ∀ c ∈ r.head?, c.isDigit = false)
    {size : UInt64} (h : parseBufferSize (n ++ r) = .ok size) :
    size = (if decimalValue n < 2 ^ 64 then UInt64.ofNat (decimalValue n)
        else UInt64.ofNat (2 ^ 64 - 1)) * UInt64.ofNat (suffixFactor r) ∧
      ∀ c ∈ r.head?, (c = 'M' ∨ c = 'm') ∨ c = 'K' ∨ c = 'k' := by
  simp only [parseBufferSize, strtoul_decimal n r hn hr] at h
  cases r with
  | nil =>
    -- no suffix: the number itself
    cases h
    refine ⟨(UInt64.mul_one _).symm, ?_⟩
    intro c hc
    cases hc
  | cons c r =>
    simp only at h
    -- millions
    by_cases hmega : c = 'M' ∨ c = 'm'
    · rw [if_pos hmega] at h
      cases h
      rw [suffixFactor, if_pos hmega]
      refine ⟨rfl, ?_⟩
      intro d hd
      cases hd
      exact Or.inl hmega
    · rw [if_neg hmega] at h
      -- thousands
      by_cases hkilo : c = 'K' ∨ c = 'k'
      · rw [if_pos hkilo] at h
        cases h
        rw [suffixFactor, if_neg hmega]
        refine ⟨rfl, ?_⟩
        intro d hd
        cases hd
        exact Or.inr hkilo
      · -- any other character ends the program
        rw [if_neg hkilo] at h
        cases h

theorem suffixFactor_cases (r : Text) :
    suffixFactor r = 1 ∨ suffixFactor r = 1000 ∨ suffixFactor r = 1000000 := by
  cases r with
  | nil => exact Or.inl rfl
  | cons c r =>
    rw [suffixFactor]
    split
    · exact Or.inr (Or.inr rfl)
    · exact Or.inr (Or.inl rfl)

/-- What `strtoul` has cut off is out of range with every suffix. -/
theorem saturated_range (r : Text) :
    UInt64.ofNat (2 ^ 64 - 1) * UInt64.ofNat (suffixFactor r) > 10000000 := by
  rcases suffixFactor_cases r with h | h | h
  · rw [h]
    decide
  · rw [h]
    decide
  · rw [h]
    decide

/-- A size that is accepted is the written number modulo `2^64`. -/
theorem parseBufferSize_ok {n r : Text} (hn : IsDecimal n) (hr : ∀ c ∈ r.head?, c.isDigit = false)
    {size : UInt64} (h : parseBufferSize (n ++ r) = .ok size)
    (hrange : ¬ (size < 10000 ∨ size > 10000000)) :
    size.toNat = decimalValue n * suffixFactor r % 2 ^ 64 := by
  have heq := (parseBufferSize_eq hn hr h).1
  by_cases hlt : decimalValue n < 2 ^ 64
  · rw [if_pos hlt] at heq
    rw [heq, UInt64.toNat_mul, UInt64.toNat_ofNat', UInt64.toNat_ofNat', ← Nat.mul_mod]
  · rw [if_neg hlt] at heq
    rw [heq] at hrange
    exact absurd (Or.inr (saturated_range r)) hrange

/-- A text of digits and something behind them has one reading as a size. -/
theorem writtenSize_iff {n r : Text} (hn : IsDecimal n) (hr : ∀ c ∈ r.head?, c.isDigit = false)
    (hsuffix : ∀ c ∈ r.head?, (c = 'M' ∨ c = 'm') ∨ c = 'K' ∨ c = 'k') (v : Nat) :
    WrittenSize (n ++ r) v ↔ r.length ≤ 1 ∧ v = decimalValue n * suffixFactor r := by
  rcases scan_decimal n r hn hr with ⟨-, htake, hdrop⟩
  constructor
  · -- the digits in front are the number, whatever the reading
    have hsame : ∀ m t : Text, IsDecimal m → (∀ c ∈ t.head?, c.isDigit = false) →
        m ++ t = n ++ r → m = n ∧ t = r := by
      intro m t hm ht heq
      rcases scan_decimal m t hm ht with ⟨-, htake', hdrop'⟩
      rw [heq, htake] at htake'
      rw [heq, hdrop] at hdrop'
      exact ⟨htake'.symm, hdrop'.symm⟩
    intro hwritten
    generalize htoken : n ++ r = token at hwritten
    cases hwritten with
    | plain hm =>
      rcases hsame token [] hm (fun _ h => by cases h) (by rw [List.append_nil, htoken]) with
        ⟨rfl, rfl⟩
      exact ⟨Nat.zero_le _, (Nat.mul_one _).symm⟩
    | @kilo m c hm hc =>
      have hnot : c.isDigit = false := by rcases hc with rfl | rfl <;> decide
      rcases hsame m [c] hm (fun _ h => by cases h; exact hnot) htoken.symm with ⟨rfl, rfl⟩
      rw [suffixFactor, if_neg (by rcases hc with rfl | rfl <;> decide)]
      exact ⟨Nat.le_refl _, rfl⟩
    | @mega m c hm hc =>
      have hnot : c.isDigit = false := by rcases hc with rfl | rfl <;> decide
      rcases hsame m [c] hm (fun _ h => by cases h; exact hnot) htoken.symm with ⟨rfl, rfl⟩
      rw [suffixFactor, if_pos hc]
      exact ⟨Nat.le_refl _, rfl⟩
  · rintro ⟨hlen, rfl⟩
    match r, hlen, hsuffix with
    | [], _, _ =>
      rw [List.append_nil, suffixFactor, Nat.mul_one]
      exact .plain hn
    | [c], _, hsuffix =>
      rw [suffixFactor]
      rcases hsuffix c rfl with hmega | hkilo
      · rw [if_pos hmega]
        exact .mega hn hmega
      · rw [if_neg (by rcases hkilo with rfl | rfl <;> decide)]
        exact .kilo hn hkilo

/-- Of an accepted argument whose first token begins with a digit, the size that was
written is stored exactly when nothing stands behind its suffix and the product fits
64 bits. -/
theorem stores_written_iff {arg token : Text} {tokens : List Text} {config config' : StatsConfig}
    {c : Char} (htok : strtok arg ',' = token :: tokens) (hfirst : token.head? = some c)
    (hdigit : c.isDigit = true) (h : parseStatsArgument arg config = .ok config') :
    StoresWritten token tokens config' ↔ WrittenInFull token := by
  rcases exists_decimal hfirst hdigit with ⟨n, r, rfl, hn, hr⟩
  rcases parseStatsArgument_ok htok h with ⟨size, hsize, hrange, hfold⟩
  have hvalue := parseBufferSize_ok hn hr hsize hrange
  have hsuffix := (parseBufferSize_eq hn hr hsize).2
  rcases parameters_ok tokens hfold with ⟨hstored, hwidth, hbins⟩
  rcases scan_decimal n r hn hr with ⟨-, htake, hdrop⟩
  -- the accepted range holds for the wrapped product, whatever was written
  have hbounds : 10000 ≤ size.toNat ∧ size.toNat ≤ 10000000 := by
    rw [not_or, UInt64.not_lt, gt_iff_lt, UInt64.not_lt] at hrange
    exact ⟨UInt64.le_iff_toNat_le.mp hrange.1, UInt64.le_iff_toNat_le.mp hrange.2⟩
  have hsize32 : config'.bufferSize.toNat = size.toNat := by
    rw [hstored, UInt64.toNat_toUInt32]
    omega
  rw [WrittenInFull, htake, hdrop]
  constructor
  · -- the value that was written is the one stored, so nothing may be left out or wrapped
    intro hwritten
    rcases hwritten.bufferSize with ⟨v, hv, -, hle, heq⟩
    rcases (writtenSize_iff hn hr hsuffix v).mp hv with ⟨hlen, rfl⟩
    exact ⟨hlen, by omega⟩
  · -- the product does not wrap, so it is the value that was written
    rintro ⟨hlen, hlt⟩
    rw [Nat.mod_eq_of_lt hlt] at hvalue
    refine ⟨⟨_, (writtenSize_iff hn hr hsuffix _).mpr ⟨hlen, rfl⟩, ?_⟩, ?_, ?_⟩
    · rw [← hvalue]
      exact ⟨hbounds.1, hbounds.2, hsize32⟩
    · exact fun hbw => hwidth (Or.inl hbw)
    · exact fun hbn => hbins (Or.inl hbn)

theorem stores_written_50k :
    ∃ config, parseStatsArgument "50K,bw=20".toList defaultStatsConfig = .ok config ∧
      StoresWritten "50K".toList ["bw=20".toList] config := by
  have hparse : parseStatsArgument "50K,bw=20".toList defaultStatsConfig =
      .ok ⟨50000, 20, 1000⟩ := by
    decide
  refine ⟨_, hparse, ?_⟩
  refine (@stores_written_iff "50K,bw=20".toList "50K".toList ["bw=20".toList] defaultStatsConfig _
    '5' (by decide) (by decide) (by decide) hparse).mpr ?_
  unfold WrittenInFull
  decide

/-- `10Kxyz` is taken for `10K`, and a number of which 10384 is left over modulo `2^64`
is taken for that. -/
theorem stores_not_written :
    parseStatsArgument "10Kxyz".toList defaultStatsConfig = .ok ⟨10000, 10, 1000⟩ ∧
      ¬ StoresWritten "10Kxyz".toList [] ⟨10000, 10, 1000⟩ ∧
      parseStatsArgument "18446744073709562K".toList defaultStatsConfig = .ok ⟨10384, 10, 1000⟩ ∧
      ¬ StoresWritten "18446744073709562K".toList [] ⟨10384, 10, 1000⟩ := by
  refine ⟨by decide, ?_, by decide, ?_⟩
  · -- what is behind the suffix is not read
    intro h
    rcases h.bufferSize with ⟨v, hv, -⟩
    have hlen := ((@writtenSize_iff ['1', '0'] ['K', 'x', 'y', 'z'] (by decide)
      (by rintro c ⟨⟩; rfl) (by rintro c ⟨⟩; decide) v).mp hv).1
    exact absurd hlen (by decide)
  · -- the written value is above the upper bound, its product wraps into the range
    intro h
    rcases h.bufferSize with ⟨v, hv, -, hle, -⟩
    have hvalue := ((@writtenSize_iff "18446744073709562".toList ['K'] (by decide)
      (by rintro c ⟨⟩; rfl) (by rintro c ⟨⟩; decide) v).mp hv).2
    rw [hvalue] at hle
    exact absurd hle (by decide)

end TradingLatency
