import TradingLatency.Client.RoundTrip

/-!
# Correlation of sent packets and replies

The kernel has a packet before the send loop has stored its timestamps and
created its statistics entry, so that a reply may come first: it is logged with
the timestamps of an older packet, and the statistics never see it.

`replies_correlated` says that rows and statistics are right in every run in
which the RX thread comes behind the send loop, and before a packet that takes
the same index of the correlation arrays. A run in which the reply is faster is
`reply_uncorrelated`.
-/

namespace TradingLatency.Client

open Ring

/-! ## Statement -/

/-- The sent packets that the send loop has not stored yet. -/
def Sender.unstored : Sender → Nat
  | .storing batch i => batch.length - i
  | _ => 0

/-- The sent packets whose statistics entry has not been created yet. -/
def Sender.uncreated : Sender → Nat
  | .storing batch _ => batch.length
  | .creating batch i => batch.length - i
  | .updating batch i => batch.length - (i + 1)
  | _ => 0

/-- The packets in the correlation arrays, in the order of sending. -/
def State.stored (s : State) : List SentPacket := s.sent.take (s.sent.length - s.sender.unstored)

/-- The packets with a statistics entry, in the order of sending. -/
def State.created (s : State) : List SentPacket := s.sent.take (s.sent.length - s.sender.uncreated)

/-- The row of a reply has the sequence number and the TX timestamps of the packet. -/
def DescribesRow (cfg : Config) (r : Reply) (row : CsvEntry) (p : SentPacket) : Prop :=
  row.seqNum = p.seqNum ∧ row.timestampNs 0 = (tscToTimespec cfg r.txRef p.txTsc).ns ∧
    row.timestampNs 1 = p.appTxTs.ns

/-- An entry has TX timestamps. A counter value of zero is not recorded. -/
def HasTx (appTx tscTx : UInt64) (e : StatsEntry) : Prop :=
  e.timestampNs 1 = appTx ∧ (0 < tscTx → e.timestampNs 0 = tscTx)

/-- An entry has the RX timestamps of a reply. -/
def HasRx (cfg : Config) (r : Reply) (e : StatsEntry) : Prop :=
  e.timestampNs 3 = r.hwRxTs.ns ∧ e.timestampNs 4 = r.kerRxTs.ns ∧
    e.timestampNs 6 = r.app.time.ns ∧ (0 < r.rxTscNs cfg → e.timestampNs 5 = r.rxTscNs cfg)

/-- Rows and statistics belong to the packets: the row for the reply to a packet
has the TX timestamps that were taken for the packet, and the entry of a packet,
while it is in the ring, has its TX timestamps and the RX timestamps of its
reply. -/
structure RepliesCorrelated (cfg : Config) (s : State) : Prop where
  rows : ∀ row ∈ s.rows, ∃ p, s.sent[row.1]? = some p ∧ DescribesRow cfg row.2.1 row.2.2 p
  tx : ∀ k refs, s.txRefs[k]? = some refs → ∃ p, s.sent[k]? = some p ∧
    ∀ e, entryOf s.stats s.created.length k = some e →
      e.seqNum = p.seqNum ∧ HasTx p.appTxTs.ns (txTscNs cfg refs.1 refs.2 p.txTsc) e
  rx : ∀ k r, s.answered k = some r → ∃ p, s.sent[k]? = some p ∧
    ∀ e, entryOf s.stats s.created.length k = some e → e.seqNum = p.seqNum ∧ HasRx cfg r e

/-- A reply arrives behind the packet that it answers, and before 50000 further
packets have been sent. -/
def ReplyInTime (s : State) : Label → Prop
  | .receive k r => 4 ≤ r.data.length →
      (s.sent[k]?).map (·.seqNum) = some r.seqNum ∧ s.sent.length ≤ k + 50000
  | _ => True

/-- The packet that a reply answers has been stored, and its index of the
correlation arrays has not been taken by a later packet. -/
def LookupReady (s : State) : Receiver → Prop
  | .received k r => k < s.stored.length ∧
      ∀ q ∈ s.stored.drop (k + 1), getCircularIndex q.seqNum ≠ getCircularIndex r.seqNum
  | _ => True

/-- The statistics entry of the packet that a reply answers has been created, and
no later entry has its sequence number. -/
def UpdateReady (s : State) : Receiver → Prop
  | .lookedUp k r _ _ => k < s.created.length ∧ ∀ q ∈ s.created.drop (k + 1), q.seqNum ≠ r.seqNum
  | _ => True

/-- The RX thread comes behind the send loop. -/
def BookkeepingDone (s : State) : Label → Prop
  | .lookup => LookupReady s s.receiver
  | .updateRx => UpdateReady s s.receiver
  | _ => True

/-! ## The send loop and the RX thread -/

/-- The steps of the send loop. -/
def Label.bySender : Label → Bool
  | .sendmmsg _ _ | .store | .createStats | .updateAppTx _ _ | .shutdown => true
  | _ => false

/-- What the send loop owns is as before. -/
structure SenderFrame (s s' : State) : Prop where
  sender : s'.sender = s.sender
  seqNum : s'.seqNum = s.seqNum
  appTxTimestamps : s'.appTxTimestamps = s.appTxTimestamps
  appTxTscValues : s'.appTxTscValues = s.appTxTscValues
  sent : s'.sent = s.sent
  txRefs : s'.txRefs = s.txRefs

/-- What the RX thread owns is as before. -/
structure ReceiverFrame (s s' : State) : Prop where
  receiver : s'.receiver = s.receiver
  rows : s'.rows = s.rows
  answered : s'.answered = s.answered

section Frames

variable {cfg : Config} {s s' : State} {l : Label}

theorem senderFrame_of_step (hl : l.bySender = false) (h : step cfg s l = some s') :
    SenderFrame s s' := by
  -- the steps of the receiver, and the TX timestamps that the kernel queues
  cases l <;> simp only [Label.bySender, Bool.true_eq_false] at hl
  case receive k r =>
    obtain ⟨-, ⟨-, rfl⟩ | rfl⟩ := step_receive h
    · constructor <;> rfl
    · -- a datagram without a sequence number changes nothing
      constructor <;> rfl
  case lookup =>
    obtain ⟨_, _, -, rfl⟩ := step_lookup h
    constructor <;> rfl
  case updateRx =>
    obtain ⟨_, _, _, _, -, rfl⟩ := step_updateRx h
    constructor <;> rfl
  case logRow =>
    obtain ⟨_, _, _, _, -, rfl⟩ := step_logRow h
    constructor <;> rfl
  case rxExit =>
    obtain ⟨-, rfl⟩ := step_rxExit h
    constructor <;> rfl
  case txTimestamp msg =>
    simp only [step, Option.some.injEq] at h
    subst h
    constructor <;> rfl

theorem receiverFrame_of_step (hl : l.bySender = true) (h : step cfg s l = some s') :
    ReceiverFrame s s' := by
  -- the steps of the sender
  cases l <;> simp only [Label.bySender, Bool.false_eq_true] at hl
  case sendmmsg =>
    obtain ⟨-, ⟨_, -, rfl⟩ | rfl | rfl⟩ := step_sendmmsg h <;> constructor <;> rfl
  case store =>
    obtain ⟨_, _, _, -, -, rfl⟩ := step_store h
    constructor <;> rfl
  case createStats =>
    obtain ⟨_, _, -, rfl⟩ := step_createStats h
    constructor <;> rfl
  case updateAppTx =>
    obtain ⟨_, _, _, -, -, rfl⟩ := step_updateAppTx h
    constructor <;> rfl
  case shutdown =>
    obtain ⟨-, rfl⟩ := step_shutdown h
    constructor <;> rfl

theorem SenderFrame.stored (h : SenderFrame s s') : s'.stored = s.stored := by
  unfold State.stored
  rw [h.sent, h.sender]

theorem SenderFrame.created (h : SenderFrame s s') : s'.created = s.created := by
  unfold State.created
  rw [h.sent, h.sender]

end Frames

/-! ## The correlation arrays -/

/-- The packets of the batch that is being stored or recorded. -/
def Sender.batch : Sender → List SentPacket
  | .storing batch _ | .creating batch _ | .updating batch _ => batch
  | .top | .done => []

/-- The loop variable is in range. -/
def Sender.InRange : Sender → Prop
  | .storing batch i | .creating batch i | .updating batch i => i < batch.length
  | .top | .done => True

/-- The batch has been sent last, with the sequence numbers from `seqNum` on, and
the arrays hold what has been stored. -/
structure SendInv (s : State) : Prop where
  batch : s.sender.batch <:+ s.sent
  numbers : ∀ i p, s.sender.batch[i]? = some p → p.seqNum = s.seqNum + UInt32.ofNat i
  inRange : s.sender.InRange
  timestamps : s.appTxTimestamps =
    writeAll (fun p => getCircularIndex p.seqNum) (·.appTxTs) (fun _ => ⟨0, 0⟩) s.stored
  tscValues : s.appTxTscValues =
    writeAll (fun p => getCircularIndex p.seqNum) (·.txTsc) (fun _ => 0) s.stored

/-- Where the packets of the last batch stand among those sent. -/
theorem getElem?_batch {sent batch : List SentPacket} (hbatch : batch <:+ sent) {i : Nat}
    {p : SentPacket} (hp : batch[i]? = some p) :
    sent[sent.length - (batch.length - i)]? = some p := by
  obtain ⟨old, rfl⟩ := hbatch
  have hlt := (List.getElem?_eq_some_iff.mp hp).1
  have hindex : (old ++ batch).length - (batch.length - i) = old.length + i := by
    rw [List.length_append]
    omega
  rw [hindex, List.getElem?_append_right (by omega), Nat.add_sub_cancel_left]
  exact hp

/-- The packets of a batch are counted one by one. -/
theorem take_next {sent batch : List SentPacket} (hbatch : batch <:+ sent) {i : Nat}
    {p : SentPacket} (hp : batch[i]? = some p) :
    sent.take (sent.length - (batch.length - (i + 1))) =
      sent.take (sent.length - (batch.length - i)) ++ [p] := by
  have hlt := (List.getElem?_eq_some_iff.mp hp).1
  have hlen := hbatch.length_le
  have hnext : sent.length - (batch.length - (i + 1)) = sent.length - (batch.length - i) + 1 := by
    omega
  rw [hnext, List.take_add_one, getElem?_batch hbatch hp]
  rfl

section SendInv

variable {cfg : Config} {s s' : State} {l : Label}

theorem getElem?_prepareBatch {seqNum : UInt32} {clock : Nat → ClockReading} {i : Nat}
    {p : SentPacket} (h : (prepareBatch cfg seqNum clock)[i]? = some p) :
    p.seqNum = seqNum + UInt32.ofNat i := by
  rw [prepareBatch, List.getElem?_map] at h
  obtain ⟨j, hj, rfl⟩ := Option.map_eq_some_iff.mp h
  obtain ⟨-, rfl⟩ := List.getElem?_eq_some_iff.mp hj
  rw [List.getElem_range]

theorem stored_of_unstored (h : s.sender.unstored = 0) : s.stored = s.sent := by
  rw [State.stored, h, Nat.sub_zero, List.take_length]

/-- The packets of a batch that has just been sent are not stored yet. -/
theorem stored_afterSend (htop : s.sender = .top) (batch : List SentPacket) :
    State.stored { s with sent := s.sent ++ batch, sender := afterSend batch } = s.stored := by
  have hold : s.stored = s.sent := stored_of_unstored (by rw [htop]; rfl)
  have hunstored : (afterSend batch).unstored = batch.length := by
    cases batch <;> rfl
  rw [hold]
  simp [State.stored, hunstored]

theorem batch_afterSend (batch : List SentPacket) : (afterSend batch).batch = batch := by
  cases batch <;> rfl

theorem inRange_afterSend (batch : List SentPacket) : (afterSend batch).InRange := by
  cases batch with
  | nil => trivial
  | cons p batch => exact Nat.succ_pos _

/-- Steps behind the loop that stores. -/
theorem SendInv.of_stored (h : SendInv s) (hall : s.sender.unstored = 0)
    (hall' : s'.sender.unstored = 0) (hsent : s'.sent = s.sent)
    (htimestamps : s'.appTxTimestamps = s.appTxTimestamps)
    (htsc : s'.appTxTscValues = s.appTxTscValues) (hbatch : s'.sender.batch <:+ s'.sent)
    (hnumbers : ∀ i p, s'.sender.batch[i]? = some p → p.seqNum = s'.seqNum + UInt32.ofNat i)
    (hinRange : s'.sender.InRange) : SendInv s' := by
  have hstored : s'.stored = s.stored := by
    rw [stored_of_unstored hall, stored_of_unstored hall', hsent]
  constructor
  · exact hbatch
  · exact hnumbers
  · exact hinRange
  · rw [htimestamps, hstored]
    exact h.timestamps
  · rw [htsc, hstored]
    exact h.tscValues

theorem sendmmsg_sendInv {clock : Nat → ClockReading} {result : SendResult} (h : SendInv s)
    (hl : step cfg s (.sendmmsg clock result) = some s') : SendInv s' := by
  obtain ⟨htop, ⟨batch, hprefix, rfl⟩ | rfl | rfl⟩ := step_sendmmsg hl
  · -- the kernel took a prefix of the batch, whose numbers start at `seq_num`
    constructor
    · show (afterSend batch).batch <:+ s.sent ++ batch
      rw [batch_afterSend]
      exact List.suffix_append _ _
    · intro i p hp
      rw [show Sender.batch _ = batch from batch_afterSend batch] at hp
      obtain ⟨rest, hrest⟩ := hprefix
      have hprepared : (prepareBatch cfg s.seqNum clock)[i]? = some p := by
        rw [← hrest, List.getElem?_append_left (List.getElem?_eq_some_iff.mp hp).1]
        exact hp
      exact getElem?_prepareBatch hprepared
    · exact inRange_afterSend batch
    · rw [stored_afterSend htop]
      exact h.timestamps
    · rw [stored_afterSend htop]
      exact h.tscValues
  · -- `EAGAIN`: the batch is tried again
    exact h
  · -- any other error ends the thread
    exact h.of_stored (by rw [htop]; rfl) rfl rfl rfl rfl List.nil_suffix (by simp [Sender.batch])
      trivial

theorem store_sendInv (h : SendInv s) (hl : step cfg s .store = some s') : SendInv s' := by
  obtain ⟨batch, i, p, hsender, hp, rfl⟩ := step_store hl
  have hbatch := h.batch
  have hnumbers := h.numbers
  have hinRange := h.inRange
  rw [hsender] at hbatch hnumbers hinRange
  have hlt : i < batch.length := hinRange
  -- the arrays get one more packet, whichever loop is next
  have hstored : ∀ f g, State.stored { s with
      appTxTimestamps := f
      appTxTscValues := g
      sender := if i + 1 < batch.length then .storing batch (i + 1) else .creating batch 0 } =
      s.stored ++ [p] := by
    intro f g
    have hunstored : (if i + 1 < batch.length then Sender.storing batch (i + 1)
        else .creating batch 0).unstored = batch.length - (i + 1) := by
      split
      · rfl
      · show 0 = _
        omega
    unfold State.stored
    rw [hunstored, hsender]
    exact take_next hbatch hp
  have hseq := hnumbers i p hp
  have hnext : (if i + 1 < batch.length then Sender.storing batch (i + 1)
      else .creating batch 0).batch = batch := by
    split <;> rfl
  constructor
  · rw [show Sender.batch _ = batch from hnext]
    exact hbatch
  · rw [show Sender.batch _ = batch from hnext]
    exact hnumbers
  · show Sender.InRange (if _ then _ else _)
    split
    · assumption
    · show 0 < batch.length
      omega
  · rw [hstored, writeAll_concat, ← h.timestamps, hseq]
  · rw [hstored, writeAll_concat, ← h.tscValues, hseq]

theorem updateAppTx_sendInv {ref₁ ref₂ : ClockReading} (h : SendInv s)
    (hl : step cfg s (.updateAppTx ref₁ ref₂) = some s') : SendInv s' := by
  obtain ⟨batch, i, p, hsender, hp, rfl⟩ := step_updateAppTx hl
  have hbatch := h.batch
  have hnumbers := h.numbers
  rw [hsender] at hbatch hnumbers
  have hall : s.sender.unstored = 0 := by rw [hsender]; rfl
  by_cases hnext : i + 1 < batch.length
  · simp only [if_pos hnext]
    exact h.of_stored hall rfl rfl rfl rfl hbatch hnumbers hnext
  · simp only [if_neg hnext]
    exact h.of_stored hall rfl rfl rfl rfl List.nil_suffix (by simp [Sender.batch]) trivial

theorem step_sendInv (h : SendInv s) (hl : step cfg s l = some s') : SendInv s' := by
  by_cases hsender : l.bySender = true
  · cases l <;> simp only [Label.bySender, Bool.false_eq_true] at hsender
    case sendmmsg => exact sendmmsg_sendInv h hl
    case store => exact store_sendInv h hl
    case createStats =>
      -- the record of packet `i`; what has been stored stays
      obtain ⟨batch, i, hsender, rfl⟩ := step_createStats hl
      have hbatch := h.batch
      have hnumbers := h.numbers
      have hinRange := h.inRange
      rw [hsender] at hbatch hnumbers hinRange
      exact h.of_stored (by rw [hsender]; rfl) rfl rfl rfl rfl hbatch hnumbers hinRange
    case updateAppTx => exact updateAppTx_sendInv h hl
    case shutdown =>
      obtain ⟨htop, rfl⟩ := step_shutdown hl
      exact h.of_stored (by rw [htop]; rfl) rfl rfl rfl rfl List.nil_suffix
        (by simp [Sender.batch]) trivial
  · -- the receiver leaves every field that this invariant reads
    have hf := senderFrame_of_step (by simpa using hsender) hl
    constructor
    · rw [hf.sender, hf.sent]
      exact h.batch
    · rw [hf.sender, hf.seqNum]
      exact h.numbers
    · rw [hf.sender]
      exact h.inRange
    · rw [hf.appTxTimestamps, hf.stored]
      exact h.timestamps
    · rw [hf.appTxTscValues, hf.stored]
      exact h.tscValues

end SendInv

/-! ## Rows -/

/-- The RX thread has the sequence number and the TX timestamps of the packet. -/
def Receiver.Fits (sent : List SentPacket) : Receiver → Prop
  | .received k r => ∃ p, sent[k]? = some p ∧ r.seqNum = p.seqNum
  | .lookedUp k r txTs txTsc | .updated k r txTs txTsc =>
      ∃ p, sent[k]? = some p ∧ r.seqNum = p.seqNum ∧ txTs = p.appTxTs ∧ txTsc = p.txTsc
  | .idle | .done => True

/-- The RX thread and the rows so far are right. -/
structure RowsInv (cfg : Config) (s : State) : Prop where
  receiver : s.receiver.Fits s.sent
  rows : ∀ row ∈ s.rows, ∃ p, s.sent[row.1]? = some p ∧ DescribesRow cfg row.2.1 row.2.2 p

section RowsInv

variable {cfg : Config} {s s' : State} {l : Label}

/-- Packets stay sent. -/
theorem sent_prefix (hl : step cfg s l = some s') : s.sent <+: s'.sent := by
  by_cases hsender : l.bySender = true
  · cases l <;> simp only [Label.bySender, Bool.false_eq_true] at hsender
    case sendmmsg =>
      obtain ⟨-, ⟨batch, -, rfl⟩ | rfl | rfl⟩ := step_sendmmsg hl
      · -- only an accepted batch lengthens the list
        exact List.prefix_append _ _
      · exact List.prefix_refl _
      · exact List.prefix_refl _
    case store =>
      obtain ⟨_, _, _, -, -, rfl⟩ := step_store hl
      exact List.prefix_refl _
    case createStats =>
      obtain ⟨_, _, -, rfl⟩ := step_createStats hl
      exact List.prefix_refl _
    case updateAppTx =>
      obtain ⟨_, _, _, -, -, rfl⟩ := step_updateAppTx hl
      exact List.prefix_refl _
    case shutdown =>
      obtain ⟨-, rfl⟩ := step_shutdown hl
      exact List.prefix_refl _
  · rw [(senderFrame_of_step (by simpa using hsender) hl).sent]

theorem getElem?_of_prefix {α : Type} {l l' : List α} (h : l <+: l') {k : Nat} {a : α}
    (hk : l[k]? = some a) : l'[k]? = some a := by
  obtain ⟨rest, rfl⟩ := h
  rw [List.getElem?_append_left (List.getElem?_eq_some_iff.mp hk).1]
  exact hk

theorem Receiver.Fits.mono {sent sent' : List SentPacket} (h : sent <+: sent') {rx : Receiver}
    (hfits : rx.Fits sent) : rx.Fits sent' := by
  cases rx with
  | idle => trivial
  | received k r =>
    obtain ⟨p, hp, hseq⟩ := hfits
    exact ⟨p, getElem?_of_prefix h hp, hseq⟩
  | lookedUp k r txTs txTsc =>
    obtain ⟨p, hp, hrest⟩ := hfits
    exact ⟨p, getElem?_of_prefix h hp, hrest⟩
  | updated k r txTs txTsc =>
    obtain ⟨p, hp, hrest⟩ := hfits
    exact ⟨p, getElem?_of_prefix h hp, hrest⟩
  | done => trivial

/-- The arrays give the timestamps of a stored packet whose index was not taken. -/
theorem lookup_fits (hsend : SendInv s) (h : RowsInv cfg s) (hready : LookupReady s s.receiver)
    (hl : step cfg s .lookup = some s') : s'.receiver.Fits s'.sent := by
  obtain ⟨k, r, hrcv, rfl⟩ := step_lookup hl
  have hfits := h.receiver
  rw [hrcv] at hfits hready
  obtain ⟨p, hp, hseq⟩ := hfits
  obtain ⟨hlt, hnew⟩ := hready
  -- the packet of the reply is stored, so the arrays have its values
  have hk : s.stored[k]? = some p := by
    have hlen := hlt
    rw [State.stored, List.length_take] at hlen
    rw [State.stored, List.getElem?_take_of_lt (by omega)]
    exact hp
  rw [hseq] at hnew
  -- and no later packet has written to its index
  refine ⟨p, hp, hseq, ?_, ?_⟩
  · rw [hsend.timestamps, hseq]
    exact writeAll_newest _ hk hnew _
  · rw [hsend.tscValues, hseq]
    exact writeAll_newest _ hk hnew _

theorem describesRow_rxRow {r : Reply} {p : SentPacket} (hseq : r.seqNum = p.seqNum) :
    DescribesRow cfg r (rxRow cfg r p.appTxTs p.txTsc) p := by
  refine ⟨hseq, ?_, ?_⟩
  · simp [rxRow, createCsvClientRoundtripRx, createCsv]
  · simp [rxRow, createCsvClientRoundtripRx, createCsv]

theorem step_rowsInv (hsend : SendInv s) (h : RowsInv cfg s) (htime : ReplyInTime s l)
    (hready : BookkeepingDone s l) (hl : step cfg s l = some s') : RowsInv cfg s' := by
  have hprefix := sent_prefix hl
  have hrows : ∀ row ∈ s.rows,
      ∃ p, s'.sent[row.1]? = some p ∧ DescribesRow cfg row.2.1 row.2.2 p := by
    intro row hrow
    obtain ⟨p, hp, hd⟩ := h.rows row hrow
    exact ⟨p, getElem?_of_prefix hprefix hp, hd⟩
  by_cases hsender : l.bySender = true
  · -- a step of the sender writes no row, and only lengthens the list of packets
    have hf := receiverFrame_of_step hsender hl
    constructor
    · rw [hf.receiver]
      exact h.receiver.mono hprefix
    · rw [hf.rows]
      exact hrows
  cases l <;> simp only [Label.bySender, not_true_eq_false] at hsender
  case receive k r =>
    obtain ⟨-, ⟨hlen, rfl⟩ | rfl⟩ := step_receive hl
    · -- the reply carries the number of a packet that was sent before it
      obtain ⟨p, hp, hseq⟩ := Option.map_eq_some_iff.mp (htime hlen).1
      exact ⟨⟨p, hp, hseq.symm⟩, hrows⟩
    · exact h
  case lookup =>
    have hfits := lookup_fits hsend h hready hl
    obtain ⟨k, r, hrcv, rfl⟩ := step_lookup hl
    exact ⟨hfits, hrows⟩
  case updateRx =>
    obtain ⟨k, r, txTs, txTsc, hrcv, rfl⟩ := step_updateRx hl
    have hfits := h.receiver
    rw [hrcv] at hfits
    exact ⟨hfits, hrows⟩
  case logRow =>
    obtain ⟨k, r, txTs, txTsc, hrcv, rfl⟩ := step_logRow hl
    have hfits := h.receiver
    rw [hrcv] at hfits
    obtain ⟨p, hp, hseq, rfl, rfl⟩ := hfits
    refine ⟨trivial, fun row hrow => ?_⟩
    rcases List.mem_append.mp hrow with hrow | hrow
    · exact hrows row hrow
    · -- the new row is that of the reply just looked up
      rw [List.mem_singleton.mp hrow]
      exact ⟨p, hp, describesRow_rxRow hseq⟩
  case rxExit =>
    obtain ⟨-, rfl⟩ := step_rxExit hl
    exact ⟨trivial, hrows⟩
  case txTimestamp msg =>
    simp only [step, Option.some.injEq] at hl
    subst hl
    exact ⟨h.receiver, hrows⟩

end RowsInv

/-! ## Statistics -/

/-- The sent packets whose statistics entry has not got its TX timestamps yet. -/
def Sender.unupdated : Sender → Nat
  | .storing batch _ => batch.length
  | .creating batch i | .updating batch i => batch.length - i
  | _ => 0

/-- The entries so far are those of the packets, with the timestamps so far. -/
structure StatsInv (cfg : Config) (m : Nat) (s : State) (log : List StatsEntry) : Prop where
  records : Records m s.stats (s.created.map (·.seqNum)) log
  count : s.txRefs.length = s.sent.length - s.sender.unupdated
  tx : ∀ k refs, s.txRefs[k]? = some refs → ∃ p, s.sent[k]? = some p ∧
    EntryHas (2 ^ m) log k (HasTx p.appTxTs.ns (txTscNs cfg refs.1 refs.2 p.txTsc))
  rx : ∀ k r, s.answered k = some r → ∃ p, s.sent[k]? = some p ∧
    EntryHas (2 ^ m) log k (HasRx cfg r)

theorem HasTx.edit {appTx tscTx : UInt64} {u : StatsUpdate} (h₀ : 0 ∉ u.ownedSlots)
    (h₁ : 1 ∉ u.ownedSlots) (e : StatsEntry) (h : HasTx appTx tscTx e) :
    HasTx appTx tscTx (e.edit u.edit) := by
  constructor
  · exact (edit_of_not_owned u _ h₁).trans h.1
  · exact fun htsc => (edit_of_not_owned u _ h₀).trans (h.2 htsc)

theorem HasRx.edit {cfg : Config} {r : Reply} {u : StatsUpdate} (h₃ : 3 ∉ u.ownedSlots)
    (h₄ : 4 ∉ u.ownedSlots) (h₅ : 5 ∉ u.ownedSlots) (h₆ : 6 ∉ u.ownedSlots) (e : StatsEntry)
    (h : HasRx cfg r e) : HasRx cfg r (e.edit u.edit) := by
  refine ⟨?_, ?_, ?_, fun htsc => ?_⟩
  · exact (edit_of_not_owned u _ h₃).trans h.1
  · exact (edit_of_not_owned u _ h₄).trans h.2.1
  · exact (edit_of_not_owned u _ h₆).trans h.2.2.1
  · exact (edit_of_not_owned u _ h₅).trans (h.2.2.2 htsc)

theorem hasRx_edit (cfg : Config) (r : Reply) (e : StatsEntry) :
    HasRx cfg r (e.edit (editRx r.hwRxTs.ns r.kerRxTs.ns r.app.time.ns (r.rxTscNs cfg)
      .clientRoundtrip)) := by
  by_cases htsc : 0 < r.rxTscNs cfg
  · refine ⟨?_, ?_, ?_, fun _ => ?_⟩ <;> simp [StatsEntry.edit, editRx, htsc]
  · refine ⟨?_, ?_, ?_, fun h => absurd h htsc⟩ <;> simp [StatsEntry.edit, editRx, htsc]

section StatsInv

variable {cfg : Config} {m : Nat} {s s' : State} {l : Label} {log : List StatsEntry}

/-- Steps that change neither entries nor their timestamps. -/
theorem StatsInv.of_frame (h : StatsInv cfg m s log) (hsent : s.sent <+: s'.sent)
    (hcreated : s'.created = s.created) (hstats : s'.stats = s.stats)
    (hrefs : s'.txRefs = s.txRefs)
    (hcount : s'.sent.length - s'.sender.unupdated = s.sent.length - s.sender.unupdated)
    (hanswered : s'.answered = s.answered) : StatsInv cfg m s' log := by
  constructor
  · rw [hstats, hcreated]
    exact h.records
  · rw [hrefs, hcount]
    exact h.count
  · intro k refs hk
    rw [hrefs] at hk
    obtain ⟨p, hp, hentry⟩ := h.tx k refs hk
    exact ⟨p, getElem?_of_prefix hsent hp, hentry⟩
  · intro k r hk
    rw [hanswered] at hk
    obtain ⟨p, hp, hentry⟩ := h.rx k r hk
    exact ⟨p, getElem?_of_prefix hsent hp, hentry⟩

theorem createStats_statsInv (hm : m < 32) (hsend : SendInv s) (h : StatsInv cfg m s log)
    (hl : step cfg s .createStats = some s') : ∃ log', StatsInv cfg m s' log' := by
  obtain ⟨batch, i, hsender, rfl⟩ := step_createStats hl
  have hbatch := hsend.batch
  have hnumbers := hsend.numbers
  have hlt := hsend.inRange
  rw [hsender] at hbatch hnumbers hlt
  obtain ⟨p, hp⟩ : ∃ p, batch[i]? = some p := ⟨_, List.getElem?_eq_getElem hlt⟩
  have hcreated : ∀ stats, State.created { s with stats := stats, sender := .updating batch i } =
      s.created ++ [p] := by
    intro stats
    unfold State.created
    rw [hsender]
    exact take_next hbatch hp
  refine ⟨log ++ [minimalStatsEntry (s.seqNum + UInt32.ofNat i) cfg.clientSrcPort
    .clientRoundtrip], ?_, ?_, ?_, ?_⟩
  · rw [hcreated, List.map_append, List.map_singleton, hnumbers i p hp]
    exact h.records.create hm _ _ _
  · have hcount := h.count
    rw [hsender] at hcount
    exact hcount
  · intro k refs hk
    obtain ⟨q, hq, hentry⟩ := h.tx k refs hk
    exact ⟨q, hq, hentry.concat _⟩
  · intro k r hk
    obtain ⟨q, hq, hentry⟩ := h.rx k r hk
    exact ⟨q, hq, hentry.concat _⟩

-- whichever loop is next, the packets of the batch behind this one are still to come
theorem uncreated_next (batch : List SentPacket) (i : Nat) :
    (if i + 1 < batch.length then Sender.creating batch (i + 1) else .top).uncreated =
      batch.length - (i + 1) := by
  split
  · rfl
  · show 0 = _
    omega

theorem unupdated_next (batch : List SentPacket) (i : Nat) :
    (if i + 1 < batch.length then Sender.creating batch (i + 1) else .top).unupdated =
      batch.length - (i + 1) := by
  split
  · rfl
  · show 0 = _
    omega

/-- The TX timestamps reach the entry that was created last. -/
theorem updateAppTx_statsInv (hm : m < 32) (hsend : SendInv s) (h : StatsInv cfg m s log)
    {ref₁ ref₂ : ClockReading} (hl : step cfg s (.updateAppTx ref₁ ref₂) = some s') :
    ∃ log', StatsInv cfg m s' log' := by
  obtain ⟨batch, i, p, hsender, hp, rfl⟩ := step_updateAppTx hl
  have hbatch := hsend.batch
  have hnumbers := hsend.numbers
  have hcount := h.count
  simp only [hsender, Sender.batch, Sender.unupdated] at hbatch hnumbers hcount
  have hlt : i < batch.length := (List.getElem?_eq_some_iff.mp hp).1
  have hlen := hbatch.length_le
  -- the packet is the last one with an entry
  have hcreated : s.created = s.sent.take s.txRefs.length ++ [p] := by
    rw [hcount, ← take_next hbatch hp, State.created, hsender]
    rfl
  have hsent : s.sent[s.txRefs.length]? = some p := by
    rw [hcount]
    exact getElem?_batch hbatch hp
  have hlength : s.created.length = s.txRefs.length + 1 := by
    rw [hcreated, List.length_append, List.length_take, List.length_singleton]
    omega
  set u : StatsUpdate := .appTx (s.seqNum + UInt32.ofNat i) p.appTxTs.ns
    (txTscNs cfg ref₁ ref₂ p.txTsc) .clientRoundtrip with hu
  have hk : (s.created.map (·.seqNum))[s.txRefs.length]? = some u.seqNum := by
    rw [List.getElem?_map, State.created, List.getElem?_take_of_lt, hsent]
    · exact congrArg some (hnumbers i p hp)
    · rw [hsender]
      show _ < _ - (batch.length - (i + 1))
      omega
  have hnewer : ∀ j, s.txRefs.length < j → (s.created.map (·.seqNum))[j]? ≠ some u.seqNum := by
    intro j hj hsome
    have hj' := (List.getElem?_eq_some_iff.mp hsome).1
    rw [List.length_map, hlength] at hj'
    omega
  refine ⟨logUpdate (2 ^ m) log u, ?_, ?_, ?_, ?_⟩
  · have hrecords := h.records.update hm u
    rw [State.created, hsender] at hrecords
    rw [State.created, uncreated_next]
    exact hrecords
  · rw [unupdated_next, List.length_append, List.length_singleton, hcount]
    show _ = s.sent.length - _
    omega
  · intro k refs hrefs
    by_cases hnew : k < s.txRefs.length
    · rw [List.getElem?_append_left hnew] at hrefs
      obtain ⟨q, hq, hentry⟩ := h.tx k refs hrefs
      exact ⟨q, hq, h.records.entryHas_other hk hnewer hentry (Nat.ne_of_lt hnew)⟩
    · have hlast := (List.getElem?_eq_some_iff.mp hrefs).1
      rw [List.length_append, List.length_singleton] at hlast
      obtain rfl : k = s.txRefs.length := by omega
      rw [List.getElem?_concat_length] at hrefs
      obtain rfl : (ref₁, ref₂) = refs := Option.some.inj hrefs
      refine ⟨p, hsent, h.records.entryHas_self hk hnewer fun e _ => ?_⟩
      constructor
      · simp [hu, StatsEntry.edit, StatsUpdate.edit, editAppTx]
      · intro htsc
        simp [hu, StatsEntry.edit, StatsUpdate.edit, editAppTx, htsc]
  · intro k r hr
    obtain ⟨q, hq, hentry⟩ := h.rx k r hr
    refine ⟨q, hq, hentry.update (HasRx.edit ?_ ?_ ?_ ?_)⟩
    all_goals simp [hu, StatsUpdate.ownedSlots]

/-- The RX timestamps reach the entry of the packet that the reply answers. -/
theorem updateRx_statsInv (hm : m < 32) (hrows : RowsInv cfg s) (h : StatsInv cfg m s log)
    (hready : UpdateReady s s.receiver) (hl : step cfg s .updateRx = some s') :
    ∃ log', StatsInv cfg m s' log' := by
  obtain ⟨k, r, txTs, txTsc, hrcv, rfl⟩ := step_updateRx hl
  have hfits := hrows.receiver
  rw [hrcv] at hfits hready
  obtain ⟨p, hp, hseq, -, -⟩ := hfits
  obtain ⟨hlt, hnew⟩ := hready
  -- the update finds its record by the sequence number
  set u : StatsUpdate := .rx r.seqNum r.hwRxTs.ns r.kerRxTs.ns r.app.time.ns (r.rxTscNs cfg)
    .clientRoundtrip with hu
  have hk : (s.created.map (·.seqNum))[k]? = some u.seqNum := by
    have hlen := hlt
    rw [State.created, List.length_take] at hlen
    rw [List.getElem?_map, State.created, List.getElem?_take_of_lt (by omega), hp, Option.map_some,
      ← hseq]
    rfl
  -- the newest record with the number is the one of the packet itself
  have hnewer : ∀ j, k < j → (s.created.map (·.seqNum))[j]? ≠ some u.seqNum := by
    intro j hj hsome
    rw [List.getElem?_map] at hsome
    obtain ⟨q, hq, hqseq⟩ := Option.map_eq_some_iff.mp hsome
    refine hnew q ?_ hqseq
    apply List.mem_of_getElem? (i := j - (k + 1))
    rw [List.getElem?_drop, Nat.add_sub_cancel' hj]
    exact hq
  refine ⟨logUpdate (2 ^ m) log u, h.records.update hm u, h.count, ?_, ?_⟩
  · -- slots that the update of a reply does not own stay
    intro j refs hrefs
    obtain ⟨q, hq, hentry⟩ := h.tx j refs hrefs
    refine ⟨q, hq, hentry.update (HasTx.edit ?_ ?_)⟩
    all_goals simp [hu, StatsUpdate.ownedSlots]
  · intro j r' hr'
    change Function.update s.answered k (some r) j = some r' at hr'
    -- the packet that was answered has the values of its reply now
    by_cases hj : j = k
    · subst hj
      rw [Function.update_self] at hr'
      obtain rfl : r = r' := Option.some.inj hr'
      exact ⟨p, hp, h.records.entryHas_self hk hnewer fun e _ => hasRx_edit cfg r e⟩
    · rw [Function.update_of_ne hj] at hr'
      obtain ⟨q, hq, hentry⟩ := h.rx j r' hr'
      exact ⟨q, hq, h.records.entryHas_other hk hnewer hentry hj⟩

/-- The batch that has just been sent has neither entries nor timestamps. -/
theorem sendmmsg_statsInv (h : StatsInv cfg m s log) {clock : Nat → ClockReading}
    {result : SendResult} (hl : step cfg s (.sendmmsg clock result) = some s') :
    StatsInv cfg m s' log := by
  have hprefix := sent_prefix hl
  obtain ⟨htop, ⟨batch, -, rfl⟩ | rfl | rfl⟩ := step_sendmmsg hl
  · -- the records of the batch are still to be created, and to be updated
    have huncreated : (afterSend batch).uncreated = batch.length := by
      cases batch <;> rfl
    have hunupdated : (afterSend batch).unupdated = batch.length := by
      cases batch <;> rfl
    refine h.of_frame hprefix ?_ rfl rfl ?_ rfl
    · have htop' : s.sender.uncreated = 0 := by rw [htop]; rfl
      unfold State.created
      simp [huncreated, htop']
    · have htop' : s.sender.unupdated = 0 := by rw [htop]; rfl
      simp [hunupdated, htop']
  · exact h
  · refine h.of_frame hprefix ?_ rfl rfl ?_ rfl
    · unfold State.created
      rw [htop]
      rfl
    · rw [htop]
      rfl

theorem step_statsInv (hm : m < 32) (hsend : SendInv s) (hrows : RowsInv cfg s)
    (h : StatsInv cfg m s log) (hready : BookkeepingDone s l) (hl : step cfg s l = some s') :
    ∃ log', StatsInv cfg m s' log' := by
  have hprefix := sent_prefix hl
  cases l with
  | sendmmsg clock result => exact ⟨log, sendmmsg_statsInv h hl⟩
  | store =>
    obtain ⟨batch, i, p, hsender, hp, rfl⟩ := step_store hl
    -- both loops that may be next have the whole batch before them
    have hnext : ∀ t, t = (if i + 1 < batch.length then Sender.storing batch (i + 1)
        else .creating batch 0) → t.uncreated = batch.length ∧ t.unupdated = batch.length := by
      rintro t rfl
      split <;> exact ⟨rfl, rfl⟩
    obtain ⟨huncreated, hunupdated⟩ := hnext _ rfl
    refine ⟨log, h.of_frame hprefix ?_ rfl rfl ?_ rfl⟩
    · unfold State.created
      rw [huncreated, hsender]
      rfl
    · rw [hunupdated, hsender]
      rfl
  | createStats => exact createStats_statsInv hm hsend h hl
  | updateAppTx ref₁ ref₂ => exact updateAppTx_statsInv hm hsend h hl
  | shutdown =>
    obtain ⟨htop, rfl⟩ := step_shutdown hl
    refine ⟨log, h.of_frame hprefix ?_ rfl rfl ?_ rfl⟩
    · unfold State.created
      rw [htop]
      rfl
    · rw [htop]
      rfl
  | receive k r =>
    obtain ⟨-, ⟨-, rfl⟩ | rfl⟩ := step_receive hl
    · exact ⟨log, h.of_frame hprefix rfl rfl rfl rfl rfl⟩
    · exact ⟨log, h⟩
  | lookup =>
    obtain ⟨_, _, -, rfl⟩ := step_lookup hl
    exact ⟨log, h.of_frame hprefix rfl rfl rfl rfl rfl⟩
  | updateRx => exact updateRx_statsInv hm hrows h hready hl
  | logRow =>
    obtain ⟨_, _, _, _, -, rfl⟩ := step_logRow hl
    exact ⟨log, h.of_frame hprefix rfl rfl rfl rfl rfl⟩
  | rxExit =>
    obtain ⟨-, rfl⟩ := step_rxExit hl
    exact ⟨log, h.of_frame hprefix rfl rfl rfl rfl rfl⟩
  | txTimestamp msg =>
    simp only [step, Option.some.injEq] at hl
    subst hl
    set u : StatsUpdate := .tx msg.read.1 msg.read.2.ns (correlationMode s.stats) with hu
    have howned : u.ownedSlots = [2] := by
      rw [hu, correlationMode]
      split <;> rfl
    refine ⟨logUpdate (2 ^ m) log u, h.records.update hm u, h.count, ?_, ?_⟩
    · intro k refs hrefs
      obtain ⟨q, hq, hentry⟩ := h.tx k refs hrefs
      refine ⟨q, hq, hentry.update (HasTx.edit ?_ ?_)⟩
      all_goals simp [howned]
    · intro k r hr
      obtain ⟨q, hq, hentry⟩ := h.rx k r hr
      refine ⟨q, hq, hentry.update (HasRx.edit ?_ ?_ ?_ ?_)⟩
      all_goals simp [howned]

end StatsInv

/-! ## Correct correlation -/

/-- All invariants together. -/
structure RepliesInv (cfg : Config) (m : Nat) (s : State) : Prop where
  send : SendInv s
  rows : RowsInv cfg s
  stats : ∃ log, StatsInv cfg m s log

theorem repliesInv_init {m : Nat} {stats : StatsCollector} (cfg : Config)
    (h : Represents m stats []) : RepliesInv cfg m (State.init stats) := by
  constructor
  · refine ⟨List.nil_suffix, ?_, trivial, rfl, rfl⟩
    intro i p hp
    simp [State.init, Sender.batch] at hp
  · exact ⟨trivial, fun _ hrow => absurd hrow List.not_mem_nil⟩
  · refine ⟨[], ⟨h, rfl⟩, rfl, ?_, ?_⟩
    · intro k refs hk
      simp [State.init] at hk
    · intro k r hk
      simp [State.init] at hk

/-- The invariants give the statement. -/
theorem RepliesInv.correlated {cfg : Config} {m : Nat} (hm : m < 32) {s : State}
    (h : RepliesInv cfg m s) : RepliesCorrelated cfg s := by
  obtain ⟨log, hlog⟩ := h.stats
  -- the entry of a packet has its sequence number
  have hentry : ∀ {k : Nat} {p : SentPacket} {P : StatsEntry → Prop}, s.sent[k]? = some p →
      EntryHas (2 ^ m) log k P → ∀ e, entryOf s.stats s.created.length k = some e →
        e.seqNum = p.seqNum ∧ P e := by
    intro k p P hp hP e he
    rw [← List.length_map (f := (·.seqNum))] at he
    obtain ⟨hnum, hPe⟩ := hlog.records.entryOf hm hP he
    have hlt := (List.getElem?_eq_some_iff.mp hnum).1
    rw [List.length_map, State.created, List.length_take] at hlt
    rw [List.getElem?_map, State.created, List.getElem?_take_of_lt (by omega), hp] at hnum
    exact ⟨(Option.some.inj hnum).symm, hPe⟩
  constructor
  · exact h.rows.rows
  · intro k refs hk
    obtain ⟨p, hp, hP⟩ := hlog.tx k refs hk
    exact ⟨p, hp, hentry hp hP⟩
  · intro k r hk
    obtain ⟨p, hp, hP⟩ := hlog.rx k r hk
    exact ⟨p, hp, hentry hp hP⟩

/-- In every run in which the replies arrive behind their packets and the RX
thread handles them behind the send loop, rows and statistics are those of the
packets. -/
theorem replies_correlated {cfg : Config} {n : UInt32} {stats : StatsCollector}
    (hcreate : createStatsCollector n .clientRoundtrip = some stats) {ls : List Label} {s : State}
    (hmeets : Run.Meets (step cfg) (fun s l => ReplyInTime s l ∧ BookkeepingDone s l)
      (State.init stats) ls)
    (hrun : Run.exec (step cfg) (State.init stats) ls = some s) : RepliesCorrelated cfg s := by
  rcases represents_create hcreate with ⟨m, hm, -, -, -, hrep⟩
  refine RepliesInv.correlated hm (Run.invariant_of_meets ?_ (repliesInv_init cfg hrep) hmeets hrun)
  rintro t l t' ⟨hsend, hrows, log, hlog⟩ ⟨htime, hready⟩ hl
  exact ⟨step_sendInv hsend hl, step_rowsInv hsend hrows htime hready hl,
    step_statsInv hm hsend hrows hlog hready hl⟩

/-! ## Two schedules of one packet -/

instance (s : State) : (l : Label) → Decidable (ReplyInTime s l)
  | .receive k r => inferInstanceAs (Decidable (4 ≤ r.data.length →
      (s.sent[k]?).map (·.seqNum) = some r.seqNum ∧ s.sent.length ≤ k + 50000))
  | .sendmmsg _ _ | .store | .createStats | .updateAppTx _ _ | .shutdown | .lookup | .updateRx
  | .logRow | .rxExit | .txTimestamp _ => .isTrue trivial

instance (s : State) : (rx : Receiver) → Decidable (LookupReady s rx)
  | .received k r => inferInstanceAs (Decidable (k < s.stored.length ∧
      ∀ q ∈ s.stored.drop (k + 1), getCircularIndex q.seqNum ≠ getCircularIndex r.seqNum))
  | .idle | .lookedUp _ _ _ _ | .updated _ _ _ _ | .done => .isTrue trivial

instance (s : State) : (rx : Receiver) → Decidable (UpdateReady s rx)
  | .lookedUp k r _ _ => inferInstanceAs (Decidable (k < s.created.length ∧
      ∀ q ∈ s.created.drop (k + 1), q.seqNum ≠ r.seqNum))
  | .idle | .received _ _ | .updated _ _ _ _ | .done => .isTrue trivial

instance (s : State) : (l : Label) → Decidable (BookkeepingDone s l)
  | .lookup => inferInstanceAs (Decidable (LookupReady s s.receiver))
  | .updateRx => inferInstanceAs (Decidable (UpdateReady s s.receiver))
  | .sendmmsg _ _ | .store | .createStats | .updateAppTx _ _ | .shutdown | .receive _ _
  | .logRow | .rxExit | .txTimestamp _ => .isTrue trivial

/-- A client that sends one packet at a time, on a processor of 1 GHz. -/
def sampleConfig : Config where
  clientSrcIp := "10.0.0.1".toList
  clientSrcPort := 40000
  pps := 1
  tscReliable := true
  cyclesToNs := id

/-- The clocks, in seconds and cycles. -/
def sampleReading (sec : Int64) (tsc : UInt64) : ClockReading := ⟨⟨sec, 0⟩, tsc⟩

/-- The packet is sent one second behind the start. -/
def sendLabel : Label := .sendmmsg (fun _ => sampleReading 1 1000000000) (.sent 1)

/-- The send loop stores and records the packet. -/
def bookkeepingLabels : List Label :=
  [.store, .createStats, .updateAppTx (sampleReading 1 1000000000) (sampleReading 1 1000000000)]

/-- The reply to the first packet, one second later. -/
def sampleReply : Reply where
  data := [0, 0, 0, 0]
  hwRxTs := ⟨2, 100⟩
  kerRxTs := ⟨2, 200⟩
  app := sampleReading 2 2000000000
  txRef := sampleReading 2 2000000000
  rxRef := sampleReading 2 2000000000

/-- The RX thread handles the reply. -/
def replyLabels : List Label := [.receive 0 sampleReply, .lookup, .updateRx, .logRow]

/-- A client with a collector of four slots. -/
def sampleState : State := State.init ((createStatsCollector 4 .clientRoundtrip).get rfl)

/-- The reply comes behind the bookkeeping. -/
theorem replies_correlated_one :
    ∃ s, Run.exec (step sampleConfig) sampleState (sendLabel :: bookkeepingLabels ++ replyLabels) =
        some s ∧ s.rows.length = 1 ∧ s.txRefs.length = 1 ∧ (s.answered 0).isSome ∧
      RepliesCorrelated sampleConfig s := by
  have hmeets : Run.Meets (step sampleConfig) (fun s l => ReplyInTime s l ∧ BookkeepingDone s l)
      sampleState (sendLabel :: bookkeepingLabels ++ replyLabels) := by
    decide +kernel
  exact ⟨_, rfl, rfl, rfl, rfl, replies_correlated (n := 4) rfl hmeets rfl⟩

/-- The reply comes between the send and the bookkeeping. The row has no TX
timestamp, and the entry no RX timestamps. -/
theorem reply_uncorrelated :
    ∃ s, Run.exec (step sampleConfig) sampleState (sendLabel :: replyLabels ++ bookkeepingLabels) =
        some s ∧
      Run.Meets (step sampleConfig) ReplyInTime sampleState
        (sendLabel :: replyLabels ++ bookkeepingLabels) ∧
      ¬ RepliesCorrelated sampleConfig s := by
  refine ⟨_, rfl, by decide +kernel, ?_⟩
  intro h
  obtain ⟨p, hp, hd⟩ := h.rows _ (List.mem_singleton_self _)
  obtain rfl : ⟨0, ⟨1, 0⟩, 1000000000⟩ = p := Option.some.inj hp
  exact absurd hd.2.2 (by decide)

end TradingLatency.Client
