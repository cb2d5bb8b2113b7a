import TradingLatency.Lib.CText

/-!
# Trade messages (`MarketDataProviderClient.cpp`)

The benchmark client sends a fixed JSON text with a trade id of ten digits in it,
and reads the id back from the messages that it receives. Writer and reader share
the offset 38, but the ten digits behind `"t":` are at offset 50. The id makes its
way through the two functions (`extractTradeId_generateTradeMessage`), and the
message is no template any more for any id (`template_law_never`).
-/

namespace TradingLatency.TradeMessage

open CText

/-- `message_template`, as `initializeTemplate` sets it. -/
def messageTemplate : Text :=
  "\x7b\"e\":\"trade\",\"E\":1234567890123,\"s\":\"BTC-USDT\",\"t\":0000000000,\"p\":\"45000\",\"q\":\"1.5\",\"b\":1000000001,\"a\":1000000002,\"T\":1234567890000,\"S\":\"1\",\"X\":\"MARKET\"\x7d".toList

/-- `trade_id_offset`. -/
def tradeIdOffset : Nat := 38

/-- `'0' + (trade_id % 10)`. -/
def idChar (tradeId : UInt64) : Char := Char.ofNat ('0'.toNat + (tradeId % 10).toNat)

/-- The loop of `generateTradeMessage`, from the digit `i - 1` down to the first. -/
def writeTradeId : Nat → Text → UInt64 → Text
  | 0, buffer, _ => buffer
  | i + 1, buffer, tradeId =>
      writeTradeId i (buffer.set (tradeIdOffset + i) (idChar tradeId)) (tradeId / 10)

/-- `generateTradeMessage`: the first `length` characters of the buffer. -/
def generateTradeMessage (tradeId : UInt64) : Text := writeTradeId 10 messageTemplate tradeId

/-- The loop of `extractTradeId`. -/
def extractLoop : Text → UInt64 → UInt64
  | [], tradeId => tradeId
  | c :: cs, tradeId =>
      if c < '0' ∨ c > '9' then 0
      else extractLoop cs (tradeId * 10 + UInt64.ofNat (c.toNat - '0'.toNat))

/-- `extractTradeId`. -/
def extractTradeId (message : Text) : UInt64 :=
  if message.length < tradeIdOffset + 10 then 0
  else extractLoop ((message.drop tradeIdOffset).take 10) 0

/-! ## What a trade message should be -/

/-- The name of the field in front of the trade id. -/
def idField : Text := "\"t\":".toList

/-- The template is `pre`, the field with ten zeros, and `post`. -/
def IdBetween (pre post : Text) : Prop :=
  messageTemplate = pre ++ idField ++ List.replicate 10 '0' ++ post

/-- The law of a trade message with the id in its field. -/
structure TemplateLaw (tradeId : UInt64) : Prop where
  template : ∃ pre post, IdBetween pre post ∧
    generateTradeMessage tradeId = pre ++ idField ++ decPad 10 tradeId.toNat ++ post
  roundTrip : extractTradeId (generateTradeMessage tradeId) = tradeId
  -- only the ten digits behind the field matter
  stable : ∀ pre post message, IdBetween pre post →
    message.length = (generateTradeMessage tradeId).length →
    (message.drop (pre ++ idField).length).take 10 =
      ((generateTradeMessage tradeId).drop (pre ++ idField).length).take 10 →
    extractTradeId message = tradeId

/-! ## Writing -/

/-- The last `n` digits of the id. -/
def lowDigits : Nat → UInt64 → Text
  | 0, _ => []
  | n + 1, tradeId => lowDigits n (tradeId / 10) ++ [idChar tradeId]

theorem length_lowDigits (n : Nat) (tradeId : UInt64) : (lowDigits n tradeId).length = n := by
  induction n generalizing tradeId with
  | zero => rfl
  | succ n ih => rw [lowDigits, List.length_append, ih, List.length_singleton]

/-- The loop replaces `n` characters behind the offset. -/
theorem writeTradeId_eq (n : Nat) {buffer : Text} (tradeId : UInt64)
    (h : tradeIdOffset + n ≤ buffer.length) :
    writeTradeId n buffer tradeId =
      buffer.take tradeIdOffset ++ lowDigits n tradeId ++ buffer.drop (tradeIdOffset + n) := by
  -- the digits are written from the last one to the first
  induction n generalizing buffer tradeId with
  | zero =>
    rw [writeTradeId, lowDigits, List.append_nil]
    exact (List.take_append_drop _ _).symm
  | succ n ih =>
    have hlt : tradeIdOffset + n < buffer.length := by omega
    have htake : (buffer.set (tradeIdOffset + n) (idChar tradeId)).take tradeIdOffset =
        buffer.take tradeIdOffset := List.take_set_of_le (Nat.le_add_right _ _)
    have hdrop : (buffer.set (tradeIdOffset + n) (idChar tradeId)).drop (tradeIdOffset + n) =
        idChar tradeId :: buffer.drop (tradeIdOffset + (n + 1)) := by
      rw [List.drop_eq_getElem_cons (by rw [List.length_set]; exact hlt), List.getElem_set_self,
        List.drop_set_of_lt (Nat.lt_succ_self _)]
      rfl
    rw [writeTradeId, ih (tradeId / 10) (by rw [List.length_set]; omega), htake, hdrop, lowDigits]
    simp only [List.append_assoc, List.singleton_append]

set_option maxRecDepth 2000 in
theorem length_messageTemplate : messageTemplate.length = 152 :=
  of_literal (P := fun t => t.length = 152) (by decide +kernel)

theorem generateTradeMessage_eq (tradeId : UInt64) :
    generateTradeMessage tradeId =
      messageTemplate.take tradeIdOffset ++ lowDigits 10 tradeId ++
        messageTemplate.drop (tradeIdOffset + 10) := by
  apply writeTradeId_eq
  rw [length_messageTemplate]
  decide

/-! ## Reading -/

/-- The characters that `extractTradeId` takes for digits. -/
def IsIdChar (c : Char) : Prop := ¬ (c < '0' ∨ c > '9')

theorem idChar_spec (tradeId : UInt64) :
    IsIdChar (idChar tradeId) ∧ (idChar tradeId).toNat - '0'.toNat = (tradeId % 10).toNat := by
  have hlt : (tradeId % 10).toNat < 10 := by
    rw [UInt64.toNat_mod]
    exact Nat.mod_lt _ (by decide)
  unfold idChar IsIdChar
  generalize (tradeId % 10).toNat = d at hlt
  revert d
  decide

theorem isIdChar_of_mem {n : Nat} {tradeId : UInt64} {c : Char} (hc : c ∈ lowDigits n tradeId) :
    IsIdChar c := by
  induction n generalizing tradeId with
  | zero => cases hc
  | succ n ih =>
    rw [lowDigits, List.mem_append, List.mem_singleton] at hc
    rcases hc with hc | rfl
    · exact ih hc
    · exact (idChar_spec tradeId).1

theorem extractLoop_concat {l : Text} (hl : ∀ c ∈ l, IsIdChar c) {c : Char} (hc : IsIdChar c)
    (acc : UInt64) :
    extractLoop (l ++ [c]) acc = extractLoop l acc * 10 + UInt64.ofNat (c.toNat - '0'.toNat) := by
  induction l generalizing acc with
  | nil =>
    show (if c < '0' ∨ c > '9' then 0 else _) = _
    rw [if_neg hc]
    rfl
  | cons d l ih =>
    have hd : IsIdChar d := hl d List.mem_cons_self
    rw [List.cons_append, extractLoop, extractLoop, if_neg hd, if_neg hd]
    exact ih (fun e he => hl e (List.mem_cons_of_mem _ he)) _

/-- The digits are read back. -/
theorem toNat_extractLoop {n : Nat} (hn : n ≤ 10) (tradeId : UInt64) :
    (extractLoop (lowDigits n tradeId) 0).toNat = tradeId.toNat % 10 ^ n := by
  -- the reader goes over the digits from the first one, and the last has weight 1
  induction n generalizing tradeId with
  | zero => exact (Nat.mod_one _).symm
  | succ n ih =>
    have hloop := extractLoop_concat (fun c hc => isIdChar_of_mem hc)
      (idChar_spec tradeId).1 0 (l := lowDigits n (tradeId / 10))
    have hdigit : (tradeId % 10).toNat = tradeId.toNat % 10 := UInt64.toNat_mod _ _
    have hquot : (tradeId / 10).toNat = tradeId.toNat / 10 := UInt64.toNat_div _ _
    have hpow : 10 ^ n ≤ 10 ^ 10 := Nat.pow_le_pow_right (by decide) (by omega)
    have hlt : tradeId.toNat / 10 % 10 ^ n < 10 ^ n := Nat.mod_lt _ (Nat.pow_pos (by decide))
    have hten : (10 : UInt64).toNat = 10 := rfl
    have hsplit : tradeId.toNat % 10 ^ (n + 1) =
        tradeId.toNat % 10 + 10 * (tradeId.toNat / 10 % 10 ^ n) := by
      rw [Nat.pow_succ', Nat.mod_mul]
    rw [lowDigits, hloop, (idChar_spec tradeId).2, hdigit, UInt64.toNat_add, UInt64.toNat_mul,
      ih (by omega), hquot, UInt64.toNat_ofNat', hten, hsplit]
    omega

/-- The id makes its way through the two functions, wherever it is written. -/
theorem extractTradeId_generateTradeMessage {tradeId : UInt64} (h : tradeId.toNat < 10 ^ 10) :
    extractTradeId (generateTradeMessage tradeId) = tradeId := by
  have hlen : (messageTemplate.take tradeIdOffset).length = tradeIdOffset := by
    rw [List.length_take, length_messageTemplate]
    rfl
  have hmessage := generateTradeMessage_eq tradeId
  have hlong : ¬ (generateTradeMessage tradeId).length < tradeIdOffset + 10 := by
    rw [hmessage, List.length_append, List.length_append, hlen, length_lowDigits]
    omega
  rw [extractTradeId, if_neg hlong, hmessage, List.append_assoc, List.drop_left' hlen,
    List.take_left' (length_lowDigits 10 tradeId), ← UInt64.toNat_inj,
    toNat_extractLoop (Nat.le_refl _), Nat.mod_eq_of_lt h]

/-! ## The template -/

/-- Outside of the ten digits a message is the template. -/
theorem getElem?_of_idBetween {pre post digits : Text} (h : IdBetween pre post)
    (hdigits : digits.length = 10) {i : Nat} {c : Char} (hi : messageTemplate[i]? = some c)
    (hc : c ≠ '0') : (pre ++ idField ++ digits ++ post)[i]? = some c := by
  rw [h] at hi
  generalize pre ++ idField = start at hi ⊢
  have hzeros : (List.replicate 10 '0').length = digits.length := by
    rw [List.length_replicate, hdigits]
  by_cases hstart : i < start.length
  · rw [List.append_assoc, List.getElem?_append_left hstart] at hi ⊢
    exact hi
  rw [List.append_assoc, List.getElem?_append_right (by omega)] at hi ⊢
  by_cases hlt : i - start.length < digits.length
  · -- there the template has zeros
    rw [List.getElem?_append_left (by omega), List.getElem?_replicate_of_lt (by omega)] at hi
    exact absurd (Option.some.inj hi).symm hc
  · rw [List.getElem?_append_right (by omega), hzeros] at hi
    rw [List.getElem?_append_right (by omega)]
    exact hi

set_option maxRecDepth 2000 in
theorem getElem?_messageTemplate : messageTemplate[tradeIdOffset]? = some 'C' :=
  of_literal (P := fun t => t[tradeIdOffset]? = some 'C') (by decide +kernel)

theorem getElem?_generateTradeMessage (tradeId : UInt64) :
    ∃ c, (generateTradeMessage tradeId)[tradeIdOffset]? = some c ∧ IsIdChar c := by
  have hlen : (messageTemplate.take tradeIdOffset).length = tradeIdOffset := by
    rw [List.length_take, length_messageTemplate]
    rfl
  have hdigits := length_lowDigits 10 tradeId
  cases hlow : lowDigits 10 tradeId with
  | nil =>
    rw [hlow] at hdigits
    cases hdigits
  | cons c cs =>
    refine ⟨c, ?_, isIdChar_of_mem (hlow ▸ List.mem_cons_self)⟩
    rw [generateTradeMessage_eq, hlow, List.append_assoc, List.getElem?_append_right (by omega),
      hlen, Nat.sub_self]
    rfl

/-- For no id is the message the template with the id in its field: the first
digit takes the place of a letter of the symbol. -/
theorem template_law_never (tradeId : UInt64) : ¬ TemplateLaw tradeId := by
  intro h
  rcases h.template with ⟨pre, post, hbetween, hmessage⟩
  -- both texts are as long as the template, so there are ten digits
  have hdigits : (decPad 10 tradeId.toNat).length = 10 := by
    have htemplate := congrArg List.length hbetween
    have hlen := congrArg List.length hmessage
    rw [generateTradeMessage_eq] at hlen
    simp only [List.length_append, List.length_replicate, List.length_take, List.length_drop,
      length_lowDigits, length_messageTemplate, tradeIdOffset] at htemplate hlen
    omega
  have hletter := getElem?_of_idBetween hbetween hdigits getElem?_messageTemplate (by decide)
  rcases getElem?_generateTradeMessage tradeId with ⟨c, hc, hid⟩
  rw [← hmessage, hc] at hletter
  cases hletter
  exact absurd hid (by unfold IsIdChar; decide)

set_option maxRecDepth 2000 in
/-- The message with the id 1 has the id in the symbol and zeros in its field, and
another letter in the symbol is another id. -/
theorem trade_message_one :
    generateTradeMessage 1 =
        "\x7b\"e\":\"trade\",\"E\":1234567890123,\"s\":\"BT0000000001\":0000000000,\"p\":\"45000\",\"q\":\"1.5\",\"b\":1000000001,\"a\":1000000002,\"T\":1234567890000,\"S\":\"1\",\"X\":\"MARKET\"\x7d".toList ∧
      extractTradeId ((generateTradeMessage 1).set 38 '9') = 9000000001 ∧ ¬ TemplateLaw 1 := by
  have hnine : extractTradeId ((generateTradeMessage 1).set 38 '9') = 9000000001 :=
    of_literal (P := fun t => extractTradeId ((writeTradeId 10 t 1).set 38 '9') = 9000000001)
      (by decide +kernel)
  have hbetween : IdBetween (messageTemplate.take 46) (messageTemplate.drop 60) :=
    of_literal (P := fun t => t = t.take 46 ++ idField ++ List.replicate 10 '0' ++ t.drop 60)
      (by decide +kernel)
  have hdigits : (((generateTradeMessage 1).set 38 '9').drop
        (messageTemplate.take 46 ++ idField).length).take 10 =
      ((generateTradeMessage 1).drop (messageTemplate.take 46 ++ idField).length).take 10 :=
    of_literal (P := fun t =>
      (((writeTradeId 10 t 1).set 38 '9').drop (t.take 46 ++ idField).length).take 10 =
        ((writeTradeId 10 t 1).drop (t.take 46 ++ idField).length).take 10) (by decide +kernel)
  refine ⟨?_, hnine, ?_⟩
  · refine of_literal (P := fun t => generateTradeMessage 1 = t) ?_
    refine of_literal (P := fun t => writeTradeId 10 t 1 = _) ?_
    decide +kernel
  intro h
  have hstable := h.stable _ _ _ hbetween List.length_set hdigits
  rw [hnine] at hstable
  exact absurd hstable (by decide)

end TradingLatency.TradeMessage
