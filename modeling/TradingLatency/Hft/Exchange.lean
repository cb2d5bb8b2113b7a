import TradingLatency.Hft.Client
import TradingLatency.Lib.Duplex

/-!
# A test against an answering server (`client.rs`, `tracker.rs`)

Every request of the client asks for one reply. A server that gives it, in
whatever time and with whatever else in the message, takes turns with the client:
`receive_turn` says what the client makes of a reply, and holds for every such
server.

A test is complete when `test_size` responses have arrived, and the statistics are
printed when the number of responses is a multiple of `test_size`. Both are looked
at after a `DONE` only, and then the number of responses is even. So a test
reports its samples if and only if `test_size` is even or one
(`test_reported_iff`).
-/

namespace TradingLatency.Hft

open Json Duplex

/-! ## Requests and replies -/

/-- What a request asks for and its reply answers. -/
inductive Topic where
  | authentication
  | subscription
  | order (clientId : String)
  | cancel (clientId : String)
deriving DecidableEq

/-- The topic of a request. -/
def requestTopic : Text → Option Topic
  | none => none
  | some request =>
      match (request.index "type").asStr with
      | some "AUTHENTICATE" => some .authentication
      | some "SUBSCRIBE" => some .subscription
      | some "CREATE_ORDER" => ((request.index "order").index "client_id").asStr.map .order
      | some "CANCEL_ORDER" => (request.index "client_id").asStr.map .cancel
      | _ => none

/-- The topic of a reply. -/
def replyTopic (reply : Text) : Option Topic :=
  match parseMessage reply with
  | none => none
  | some msg =>
      match msg.msgType with
      | "AUTHENTICATED" => some .authentication
      | "SUBSCRIPTIONS" => some .subscription
      | "BOOKED" => msg.clientId.map .order
      | "DONE" => msg.clientId.map .cancel
      | _ => none

/-- The orders whose answer is awaited. -/
def Topic.orderIds : Topic → List String
  | order clientId => [clientId]
  | _ => []

/-- The cancels whose answer is awaited. -/
def Topic.cancelIds : Topic → List String
  | cancel clientId => [clientId]
  | _ => []

/-- The requests of the client. -/
inductive RequestFor : Topic → Text → Prop where
  | authentication (apiToken : UInt32) : RequestFor .authentication (authMessage apiToken)
  | subscription : RequestFor .subscription subscribeMessage
  | order (instrumentCode clientId : String) :
      RequestFor (.order clientId) (createBuyOrder instrumentCode clientId)
  | cancel (instrumentCode clientId : String) :
      RequestFor (.cancel clientId) (cancelOrder instrumentCode clientId)

theorem RequestFor.requestTopic_eq {topic : Topic} {request : Text} (h : RequestFor topic request) :
    requestTopic request = some topic := by
  cases h <;> rfl

/-- What a reply looks like to `handle_message`. -/
theorem parseMessage_of_replyTopic {reply : Text} {topic : Topic}
    (h : replyTopic reply = some topic) :
    ∃ msg, parseMessage reply = some msg ∧
      match topic with
      | .authentication => msg.msgType = "AUTHENTICATED"
      | .subscription => msg.msgType = "SUBSCRIPTIONS"
      | .order clientId => msg.msgType = "BOOKED" ∧ msg.clientId = some clientId
      | .cancel clientId => msg.msgType = "DONE" ∧ msg.clientId = some clientId := by
  unfold replyTopic at h
  split at h
  · cases h
  · rename_i msg hmsg
    refine ⟨msg, hmsg, ?_⟩
    split at h
    · rename_i htype
      cases h
      exact htype
    · rename_i htype
      cases h
      exact htype
    -- `BOOKED` and `DONE` answer a client id only where they carry one
    · rename_i htype
      rcases Option.map_eq_some_iff.mp h with ⟨clientId, hid, rfl⟩
      exact ⟨htype, hid⟩
    · rename_i htype
      rcases Option.map_eq_some_iff.mp h with ⟨clientId, hid, rfl⟩
      exact ⟨htype, hid⟩
    · cases h

/-! ## The client between two messages -/

/-- What was counted, at all times: `response_count` has 64 bits. -/
structure Counted (testSize : UInt64) (l : TestLoop) : Prop where
  testSize_eq : l.client.tracker.testSize = testSize
  responses : l.client.tracker.responseCount = UInt64.ofNat l.handled
  exact_responses : testSize.toNat + 1 < 2 ^ 64 → l.client.tracker.responseCount.toNat = l.handled

/-- The client waits for a reply. An order is waited for after an even number of
responses, and a cancel after one more. -/
structure Waits (testSize : UInt64) (l : TestLoop) (topic : Topic) : Prop
    extends Counted testSize l where
  running : l.status = .running
  open_ : Message.close ∉ l.sent
  orders : l.client.tracker.orderSentTimes.keys = topic.orderIds
  cancels : l.client.tracker.cancelSentTimes.keys = topic.cancelIds
  unreported : l.client.tracker.reports = []
  histogram : l.client.tracker.histogram.values = l.client.tracker.samples
  even : (l.client.tracker.responseCount.toNat + topic.cancelIds.length) % 2 = 0
  incomplete : l.client.tracker.responseCount.toNat < testSize.toNat + topic.cancelIds.length

/-- `print_stats` was called once, with all samples of the run. -/
def ReportedOnce (t : LatencyTracker) : Prop := t.reports = [t.samples]

/-- The client has closed the connection. -/
structure Completed (testSize : UInt64) (l : TestLoop) : Prop extends Counted testSize l where
  orders : l.client.tracker.orderSentTimes.keys = []
  cancels : l.client.tracker.cancelSentTimes.keys = []
  reported : ReportedOnce l.client.tracker ↔ testSize.toNat % 2 = 0 ∨ testSize.toNat = 1

/-- The client in a turn. -/
def ClientOk (testSize : UInt64) (l : TestLoop) : Turn Message → Prop
  | .right (.text request) => ∃ topic, RequestFor topic request ∧ Waits testSize l topic
  | .left (.text reply) => ∃ topic, replyTopic reply = some topic ∧ Waits testSize l topic
  | .right .close | .left .close | .quiet => Completed testSize l
  | _ => False

/-- Once the connection is closed, the test is complete. -/
theorem ClientOk.completed {testSize : UInt64} {l : TestLoop} {t : Turn Message}
    (h : ClientOk testSize l t) (hclosed : Message.close ∈ l.sent) : Completed testSize l := by
  unfold ClientOk at h
  split at h
  · rcases h with ⟨topic, -, hwaits⟩
    exact absurd hclosed hwaits.open_
  · rcases h with ⟨topic, -, hwaits⟩
    exact absurd hclosed hwaits.open_
  · exact h
  · exact h
  · exact h
  · exact h.elim

theorem sendOrder_tracker (c : HftClient) (m : Moment) :
    (c.sendOrder m).1.tracker = c.tracker.recordOrderSent m.clientId m.sent := by
  simp only [HftClient.sendOrder, HftClient.rotatePair]
  split
  · rfl
  · rfl

theorem sendOrder_out (c : HftClient) (m : Moment) :
    (c.sendOrder m).2 = [.text (createBuyOrder c.currentPair m.clientId)] := rfl

theorem not_mem_sent {sent : List Message} {text : Text} (h : Message.close ∉ sent) :
    Message.close ∉ sent ++ [.text text] := by
  intro hmem
  rcases List.mem_append.mp hmem with hmem | hmem
  · exact h hmem
  · cases List.mem_singleton.mp hmem

theorem isResponse_of_parse {text : Text} {msg : IncomingMessage} (h : parseMessage text = some msg) :
    isResponse text = (msg.msgType = "BOOKED" || msg.msgType = "DONE" : Bool) := by
  simp only [isResponse, h]

/-- With the authentication done, the subscription is sent and waited for. -/
theorem Waits.subscribing {testSize : UInt64} {l : TestLoop} (h : Waits testSize l .authentication) :
    Waits testSize ⟨{ l.client with state := .subscribing }, .running, l.handled,
      l.sent ++ [.text subscribeMessage]⟩ .subscription :=
  ⟨⟨h.testSize_eq, h.responses, h.exact_responses⟩, rfl, not_mem_sent h.open_, h.orders, h.cancels,
    h.unreported, h.histogram, h.even, h.incomplete⟩

theorem Waits.testing {testSize : UInt64} {l : TestLoop} (h : Waits testSize l .subscription) :
    Waits testSize ⟨{ l.client with state := .testing }, .running, l.handled, l.sent⟩ .subscription :=
  ⟨⟨h.testSize_eq, h.responses, h.exact_responses⟩, rfl, h.open_, h.orders, h.cancels, h.unreported,
    h.histogram, h.even, h.incomplete⟩

/-- With nothing pending, an order is sent and waited for. -/
theorem Waits.sendOrder {testSize : UInt64} {l : TestLoop} (h : Waits testSize l .subscription)
    (m : Moment) :
    Waits testSize { l with
      client := (l.client.sendOrder m).1
      sent := l.sent ++ (l.client.sendOrder m).2 } (.order m.clientId) where
  testSize_eq := by
    rw [sendOrder_tracker]
    exact h.testSize_eq
  responses := by
    rw [sendOrder_tracker]
    exact h.responses
  exact_responses := by
    rw [sendOrder_tracker]
    exact h.exact_responses
  running := h.running
  open_ := not_mem_sent h.open_
  orders := by
    rw [sendOrder_tracker]
    simp only [LatencyTracker.recordOrderSent, AList.keys_insert, h.orders, Topic.orderIds,
      List.erase_nil]
  cancels := by
    rw [sendOrder_tracker]
    exact h.cancels
  unreported := by
    rw [sendOrder_tracker]
    exact h.unreported
  histogram := by
    rw [sendOrder_tracker]
    exact h.histogram
  even := by
    rw [sendOrder_tracker]
    exact h.even
  incomplete := by
    rw [sendOrder_tracker]
    exact h.incomplete

/-- One more response is counted. -/
theorem Counted.response {testSize : UInt64} {l : TestLoop} (h : Counted testSize l)
    (hle : l.client.tracker.responseCount.toNat ≤ testSize.toNat) :
    l.client.tracker.responseCount + 1 = UInt64.ofNat (l.handled + 1) ∧
      (testSize.toNat + 1 < 2 ^ 64 →
        (l.client.tracker.responseCount + 1).toNat = l.handled + 1) := by
  constructor
  · rw [h.responses, UInt64.ofNat_add]
    rfl
  · intro hlt
    rw [UInt64.toNat_add, ← h.exact_responses hlt]
    exact Nat.mod_eq_of_lt (by show _ + 1 < _; omega)

/-- A booked order is a sample, and its cancel is sent and waited for. -/
theorem Waits.booked {testSize : UInt64} {l : TestLoop} {clientId : String}
    (h : Waits testSize l (.order clientId)) (m : Moment) {msg : IncomingMessage}
    (hid : msg.clientId = some clientId) :
    ∃ instrumentCode, (l.client.handleBooked m msg).2 = [.text (cancelOrder instrumentCode clientId)] ∧
      Waits testSize ⟨(l.client.handleBooked m msg).1, .running, l.handled + 1,
        l.sent ++ (l.client.handleBooked m msg).2⟩ (.cancel clientId) := by
  have hmem : clientId ∈ l.client.tracker.orderSentTimes.keys := by
    rw [h.orders]
    exact List.mem_singleton_self _
  rcases LatencyTracker.recordOrderResponse_of_mem hmem m.received with ⟨rtt, hrecord⟩
  have hlt : l.client.tracker.responseCount.toNat < testSize.toNat := h.incomplete
  have hsize := testSize.toNat_lt
  have hcount : (l.client.tracker.responseCount + 1).toNat =
      l.client.tracker.responseCount.toNat + 1 := by
    rw [UInt64.toNat_add]
    exact Nat.mod_eq_of_lt (by show _ + 1 < _; omega)
  rcases h.toCounted.response (Nat.le_of_lt hlt) with ⟨hresponses, hexact⟩
  have heven : l.client.tracker.responseCount.toNat % 2 = 0 := h.even
  simp only [HftClient.handleBooked, hid, hrecord, HftClient.sendCancel]
  refine ⟨_, rfl, ⟨h.testSize_eq, hresponses, hexact⟩, rfl, not_mem_sent h.open_, ?_, ?_,
    h.unreported, ?_, ?_, ?_⟩
  · -- the order leaves the map with its response
    show (l.client.tracker.orderSentTimes.erase clientId).keys = []
    rw [AList.keys_erase, h.orders]
    exact List.erase_cons_head ..
  · -- its cancel is the one that waits now
    show (l.client.tracker.cancelSentTimes.insert clientId m.sent).keys = [clientId]
    rw [AList.keys_insert, h.cancels]
    rfl
  · refine (LatencyTracker.recordLatency_histogram _ rtt).trans ?_
    rw [h.histogram]
    rfl
  · -- one response more, so the count is odd until the cancel is answered
    show ((l.client.tracker.responseCount + 1).toNat + 1) % 2 = 0
    omega
  · show (l.client.tracker.responseCount + 1).toNat < testSize.toNat + 1
    omega

/-- The client behind the sample of a `DONE`, before the two conditions are
looked at. -/
structure Sampled (testSize : UInt64) (l : TestLoop) : Prop extends Counted testSize l where
  running : l.status = .running
  open_ : Message.close ∉ l.sent
  orders : l.client.tracker.orderSentTimes.keys = []
  cancels : l.client.tracker.cancelSentTimes.keys = []
  unreported : l.client.tracker.reports = []
  histogram : l.client.tracker.histogram.values = l.client.tracker.samples
  even : l.client.tracker.responseCount.toNat % 2 = 0
  le : l.client.tracker.responseCount.toNat ≤ testSize.toNat + 1

theorem Waits.sampled {testSize : UInt64} {l : TestLoop} {clientId : String}
    (h : Waits testSize l (.cancel clientId)) (rtt : UInt64) :
    Sampled testSize { l with
      client.tracker := LatencyTracker.recordLatency { l.client.tracker with
        cancelSentTimes := l.client.tracker.cancelSentTimes.erase clientId } rtt
      handled := l.handled + 1 } := by
  have hlt : l.client.tracker.responseCount.toNat < testSize.toNat + 1 := h.incomplete
  have heven : (l.client.tracker.responseCount.toNat + 1) % 2 = 0 := h.even
  have hcount : (l.client.tracker.responseCount + 1).toNat =
      (l.client.tracker.responseCount.toNat + 1) % 2 ^ 64 := UInt64.toNat_add ..
  rcases h.toCounted.response (by omega) with ⟨hresponses, hexact⟩
  refine ⟨⟨h.testSize_eq, hresponses, hexact⟩, h.running, h.open_, h.orders, ?_, h.unreported, ?_, ?_,
    ?_⟩
  · show (l.client.tracker.cancelSentTimes.erase clientId).keys = []
    rw [AList.keys_erase, h.cancels]
    exact List.erase_cons_head ..
  · refine (LatencyTracker.recordLatency_histogram _ rtt).trans ?_
    rw [h.histogram]
    rfl
  · -- the counter may wrap here, at an even number
    show (l.client.tracker.responseCount + 1).toNat % 2 = 0
    omega
  · show (l.client.tracker.responseCount + 1).toNat ≤ testSize.toNat + 1
    omega

/-- The test goes on: nothing is printed, and nothing is pending. -/
theorem Sampled.waits {testSize : UInt64} {l : TestLoop} (h : Sampled testSize l)
    (hlt : l.client.tracker.responseCount.toNat < testSize.toNat) : Waits testSize l .subscription :=
  ⟨h.toCounted, h.running, h.open_, h.orders, h.cancels, h.unreported, h.histogram, h.even, hlt⟩

/-- The test is complete, and it is reported if the number of responses is a
multiple of `test_size`. -/
theorem Sampled.completed {testSize : UInt64} {l : TestLoop} (h : Sampled testSize l)
    (hpos : 0 < testSize.toNat) (hge : testSize.toNat ≤ l.client.tracker.responseCount.toNat)
    {print : Bool} {state : ClientState} {sent : List Message}
    (hprint : print = true ↔ l.client.tracker.responseCount.toNat % testSize.toNat = 0) :
    Completed testSize { l with
      client.tracker := if print then l.client.tracker.printStats else l.client.tracker
      client.state := state
      sent := sent } := by
  have hiff := LatencyTracker.print_iff_of_even hpos hge h.le h.even
  cases print with
  | true =>
    refine ⟨⟨h.testSize_eq, h.responses, h.exact_responses⟩, h.orders, h.cancels, ?_⟩
    refine iff_of_true ?_ (hiff.mp (hprint.mp rfl))
    show l.client.tracker.reports ++ [l.client.tracker.histogram.values] = [l.client.tracker.samples]
    rw [h.unreported, h.histogram]
    rfl
  | false =>
    refine ⟨⟨h.testSize_eq, h.responses, h.exact_responses⟩, h.orders, h.cancels, ?_⟩
    -- nothing was printed before either, so there is no report at all
    refine iff_of_false ?_ fun heq => Bool.false_ne_true (hprint.mpr (hiff.mpr heq))
    intro hreported
    have hnil : l.client.tracker.reports = [l.client.tracker.samples] := hreported
    rw [h.unreported] at hnil
    cases hnil

/-- Printing does not change whether the test is complete. -/
theorem isTestComplete_printed {t : LatencyTracker} (print : Bool) (h : t.isTestComplete = true) :
    (if print then t.printStats else t).isTestComplete = true := by
  cases print with
  | true => exact h
  | false => exact h

/-- After a `DONE` the next order is sent, or the connection is closed. -/
theorem Waits.done {testSize : UInt64} {l : TestLoop} {clientId : String}
    (h : Waits testSize l (.cancel clientId)) (hpos : 0 < testSize.toNat) (m : Moment)
    {msg : IncomingMessage} (hid : msg.clientId = some clientId) :
    ∃ client out, l.client.handleDone m msg = .ok (client, out) ∧
      ((out = [.close] ∧ Completed testSize
          ⟨client, .running, l.handled + 1, l.sent ++ out⟩) ∨
        ∃ instrumentCode, out = [.text (createBuyOrder instrumentCode m.clientId)] ∧
          Waits testSize ⟨client, .running, l.handled + 1, l.sent ++ out⟩ (.order m.clientId)) := by
  rcases l with ⟨client, status, handled, sent⟩
  have hrunning : status = .running := h.running
  subst hrunning
  have hmem : clientId ∈ client.tracker.cancelSentTimes.keys := by
    rw [h.cancels]
    exact List.mem_singleton_self _
  rcases LatencyTracker.recordCancelResponse_of_mem hmem m.received with ⟨rtt, hrecord⟩
  have hsampled := h.sampled rtt
  -- the rest depends on the new tracker through `Sampled` only
  generalize LatencyTracker.recordLatency { client.tracker with
    cancelSentTimes := client.tracker.cancelSentTimes.erase clientId } rtt = tracker
    at hrecord hsampled
  have hsize : tracker.testSize = testSize := hsampled.testSize_eq
  have hshould := @LatencyTracker.shouldPrintStats_eq tracker (by rw [hsize]; exact hpos)
  rw [hsize] at hshould
  simp only [HftClient.handleDone, hid, hrecord, hshould]
  rcases Nat.lt_or_ge tracker.responseCount.toNat testSize.toNat with hlt | hge
  -- the test goes on; below `test_size` nothing is printed
  · have hprint := LatencyTracker.not_print_of_lt hlt
    have hcomplete : ¬ tracker.isTestComplete = true := by
      rw [LatencyTracker.isTestComplete_iff, hsize]
      omega
    simp only [hprint, decide_false, Bool.false_eq_true, if_false, hcomplete]
    exact ⟨_, _, rfl, .inr ⟨_, sendOrder_out .., (hsampled.waits hlt).sendOrder m⟩⟩
  -- the test is complete, and printed or not
  · have hcomplete : tracker.isTestComplete = true := by
      rw [LatencyTracker.isTestComplete_iff, hsize]
      exact hge
    have hprint : decide (0 < tracker.responseCount.toNat ∧
        tracker.responseCount.toNat % testSize.toNat = 0) = true ↔
        tracker.responseCount.toNat % testSize.toNat = 0 := by
      rw [decide_eq_true_iff]
      exact ⟨fun hboth => hboth.2, fun hmod => ⟨by omega, hmod⟩⟩
    rw [if_pos (isTestComplete_printed _ hcomplete)]
    exact ⟨_, _, rfl, .inl ⟨rfl, hsampled.completed hpos hge hprint⟩⟩

/-- Whatever server: a reply to what the client waits for makes it send the next
request, or close. -/
theorem receive_turn {testSize : UInt64} (hpos : 0 < testSize.toNat) {l l' : TestLoop} {m : Moment}
    {message : Message} {out : List Message} (h : ClientOk testSize l (.left message))
    (hreceive : l.receive m message = some (l', out)) :
    ∃ t, Turn.ofLeft out = some t ∧ ClientOk testSize l' t := by
  cases message with
  | text reply =>
    rcases h with ⟨topic, htopic, hwaits⟩
    rcases parseMessage_of_replyTopic htopic with ⟨msg, hmsg, htype⟩
    -- only `BOOKED` and `DONE` count as responses
    have hresponse := isResponse_of_parse hmsg
    simp only [TestLoop.receive, hwaits.running, HftClient.handleMessage, hmsg] at hreceive
    cases topic with
    | authentication =>
      simp only [htype] at hreceive hresponse
      rw [hresponse] at hreceive
      cases hreceive
      exact ⟨_, rfl, _, .subscription, hwaits.subscribing⟩
    | subscription =>
      simp only [htype] at hreceive hresponse
      rw [hresponse] at hreceive
      cases hreceive
      exact ⟨_, rfl, _, .order _ _, hwaits.testing.sendOrder m⟩
    | order clientId =>
      rcases htype with ⟨htype, hid⟩
      rcases hwaits.booked m hid with ⟨instrumentCode, hout, hwaits'⟩
      simp only [htype] at hreceive hresponse
      rw [hresponse] at hreceive
      cases hreceive
      refine ⟨.right (.text (cancelOrder instrumentCode clientId)), ?_, _, .cancel _ _, hwaits'⟩
      rw [hout]
      rfl
    | cancel clientId =>
      rcases htype with ⟨htype, hid⟩
      rcases hwaits.done hpos m hid with ⟨client, out', hdone, hnext⟩
      simp only [htype, hdone] at hreceive hresponse
      rw [hresponse] at hreceive
      cases hreceive
      rcases hnext with ⟨rfl, hcompleted⟩ | ⟨instrumentCode, rfl, hwaits'⟩
      · exact ⟨.right .close, rfl, hcompleted⟩
      · exact ⟨_, rfl, _, .order _ _, hwaits'⟩
  | close =>
    simp only [TestLoop.receive] at hreceive
    split at hreceive
    · cases hreceive
      exact ⟨.quiet, rfl, ⟨h.testSize_eq, h.responses, h.exact_responses⟩, h.orders, h.cancels,
        h.reported⟩
    · cases hreceive
  | ping data => exact h.elim
  | pong data => exact h.elim
  | binary data => exact h.elim

/-! ## A completed test -/

/-- A client and a server, at the start of `run_test_loop`. -/
def startSession {σ : Type} (config : Config) (server : σ) : Duplex TestLoop σ Message :=
  ⟨(TestLoop.start config).1, server, [], (TestLoop.start config).2⟩

theorem clientOk_start {config : Config} (hsize : 1 ≤ config.testSize) :
    ClientOk config.testSize (TestLoop.start config).1 (.right (.text (authMessage config.apiToken))) := by
  have hpos : 0 < config.testSize.toNat := UInt64.le_iff_toNat_le.mp hsize
  refine ⟨_, .authentication _, ⟨rfl, rfl, fun _ => rfl⟩, rfl, ?_, rfl, rfl, rfl, rfl, rfl, hpos⟩
  intro hmem
  cases List.mem_singleton.mp hmem

/-- A server that takes the requests in order and answers each with a reply to
it: `reply` is what it chooses to send. -/
def answer (server : Unit) (reply : Text) : Message → Option (Unit × List Message)
  | .text request =>
      if (requestTopic request).isSome ∧ replyTopic reply = requestTopic request then
        some (server, [.text reply])
      else none
  | .close => some (server, [.close])
  | _ => some (server, [])

/-- A completed test has reported its samples if and only if `test_size` is even
or one. -/
theorem test_reported_iff {config : Config} {ls : List (Label Moment Text)}
    {s : Duplex TestLoop Unit Message} (hsize : 1 ≤ config.testSize)
    (hrun : Run.exec (Duplex.step TestLoop.receive answer) (startSession config ()) ls = some s)
    (hclosed : Message.close ∈ s.left.sent) :
    ReportedOnce s.left.client.tracker ↔
      config.testSize.toNat % 2 = 0 ∨ config.testSize.toNat = 1 := by
  have hpos : 0 < config.testSize.toNat := UInt64.le_iff_toNat_le.mp hsize
  have hturn : InTurn (fun l _ t => ClientOk config.testSize l t) s := by
    -- `answer` chooses freely, so no input needs a condition
    have hok : ∀ l ∈ ls, (fun _ : Label Moment Text => True) l := fun _ _ => trivial
    refine turn_invariant ?_ ?_ ⟨_, rfl, rfl, clientOk_start hsize⟩ hok hrun
    · intro l _ message m l' out _ hok hreceive
      exact receive_turn hpos hok hreceive
    · intro l server message reply server' out _ hok hanswer
      cases message with
      | text request =>
        rcases hok with ⟨topic, htopic, hwaits⟩
        simp only [answer] at hanswer
        split at hanswer
        · rename_i hreply
          cases hanswer
          exact ⟨_, rfl, topic, hreply.2.trans htopic.requestTopic_eq, hwaits⟩
        · cases hanswer
      | close =>
        cases hanswer
        exact ⟨_, rfl, hok⟩
      | ping data => exact hok.elim
      | pong data => exact hok.elim
      | binary data => exact hok.elim
  rcases hturn with ⟨t, -, -, hok⟩
  exact (hok.completed hclosed).reported

/-- A test of the given size with the default token. -/
def sampleConfig (testSize : UInt64) : Config := ⟨["BTC_USDT", "BTC_CHF"], 3001, testSize⟩

def sampleReply (type : String) : Text := obj [("type", str type)]

def sampleReplyTo (type clientId : String) : Text :=
  obj [("type", str type), ("client_id", str clientId)]

/-- Authentication and subscription, and the first order at time 0. -/
def sampleOpening (first : String) : List (Label Moment Text) :=
  [.right (sampleReply "AUTHENTICATED"), .left ⟨"", 0, 0⟩, .right (sampleReply "SUBSCRIPTIONS"),
    .left ⟨first, 0, 0⟩]

/-- An order of the given time is booked and cancelled, in 20 nanoseconds. -/
def sampleCycle (time : Nat) (clientId next : String) : List (Label Moment Text) :=
  [.right (sampleReplyTo "BOOKED" clientId), .left ⟨"", time + 5, time + 10⟩,
    .right (sampleReplyTo "DONE" clientId), .left ⟨next, time + 17, time + 20⟩]

def isClose : Message → Bool
  | .close => true
  | _ => false

theorem isClose_iff {m : Message} : isClose m = true ↔ m = .close := by
  cases m <;> simp [isClose]

/-- What a run has closed, sampled and reported. -/
def outcome (config : Config) (ls : List (Label Moment Text)) :
    Option (Bool × List UInt64 × List (List UInt64)) :=
  (Run.exec (Duplex.step TestLoop.receive answer) (startSession config ()) ls).map fun s =>
    (s.left.sent.any isClose, s.left.client.tracker.samples, s.left.client.tracker.reports)

theorem test_reported_iff_two :
    ∃ s, Run.exec (Duplex.step TestLoop.receive answer) (startSession (sampleConfig 2) ())
        (sampleOpening "a" ++ sampleCycle 0 "a" "b") = some s ∧
      s.left.client.tracker.samples = [5, 7] ∧ ReportedOnce s.left.client.tracker := by
  have houtcome : outcome (sampleConfig 2) (sampleOpening "a" ++ sampleCycle 0 "a" "b") =
      some (true, [5, 7], [[5, 7]]) := by
    decide +kernel
  rcases Option.map_eq_some_iff.mp houtcome with ⟨s, hs, hvalues⟩
  simp only [Prod.mk.injEq, List.any_eq_true] at hvalues
  rcases hvalues with ⟨⟨m, hm, hclose⟩, hsamples, -⟩
  rw [isClose_iff] at hclose
  subst hclose
  exact ⟨s, hs, hsamples, (test_reported_iff (by decide) hs hm).mpr (.inl rfl)⟩

/-- With a `test_size` of three the test ends at four responses and prints
nothing. -/
theorem test_unreported_three :
    ∃ ls s, Run.exec (Duplex.step TestLoop.receive answer) (startSession (sampleConfig 3) ()) ls = some s ∧
      Message.close ∈ s.left.sent ∧ ¬ ReportedOnce s.left.client.tracker := by
  have houtcome : outcome (sampleConfig 3)
      (sampleOpening "a" ++ sampleCycle 0 "a" "b" ++ sampleCycle 20 "b" "c") =
      some (true, [5, 7, 5, 7], []) := by
    decide +kernel
  -- four samples and the connection closed, but no report
  rcases Option.map_eq_some_iff.mp houtcome with ⟨s, hs, hvalues⟩
  simp only [Prod.mk.injEq, List.any_eq_true] at hvalues
  rcases hvalues with ⟨⟨m, hm, hclose⟩, -, hreports⟩
  rw [isClose_iff] at hclose
  subst hclose
  refine ⟨_, s, hs, hm, ?_⟩
  intro hreported
  rw [ReportedOnce, hreports] at hreported
  cases hreported

end TradingLatency.Hft
