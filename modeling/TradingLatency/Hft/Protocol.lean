import TradingLatency.Hft.Exchange
import TradingLatency.Hft.MockServer

/-!
# The Rust client and the mock server

One client, one `WebSocketActor` and the two directions of their connection. They
take turns: the actor answers every request of the client with its reply, so what
holds of a client against any answering server holds here
(`receive_turn`), and the client never sends what the actor cannot read.

So at most one text is on its way at any time, the tracker holds the sending time
of exactly the order or cancel that this text is about, every response is counted,
and the actor never panics (`exchange_orderly`).
-/

namespace TradingLatency.Hft

open Json Duplex

/-! ## The server in a turn -/

/-- The actor answers each request of the client, with the user known from the
first one on. -/
theorem handleText_answers {topic : Topic} {request : Text} (h : RequestFor topic request)
    {a : WebSocketActor} {e : ServerMoment} (hclock : e.ClockOk)
    (huser : topic = .authentication ∨ a.userId.isSome) :
    ∃ a' reply, a.handleText e request = some (a', [.text reply]) ∧
      replyTopic reply = some topic ∧ a'.userId.isSome := by
  have htime := timestamp_of_clockOk hclock
  cases h with
  | authentication apiToken => exact ⟨_, _, rfl, rfl, rfl⟩
  -- every other branch unwraps the user, who is known by then
  | subscription =>
    rcases Option.isSome_iff_exists.mp (huser.resolve_left nofun) with ⟨user, hsome⟩
    show ∃ a' reply, a.handleSubscribe e _ = some (a', [.text reply]) ∧ _
    simp only [WebSocketActor.handleSubscribe, htime, hsome]
    exact ⟨a, _, rfl, rfl, huser.resolve_left nofun⟩
  | order instrumentCode clientId =>
    rcases Option.isSome_iff_exists.mp (huser.resolve_left nofun) with ⟨user, hsome⟩
    show ∃ a' reply, a.handleCreateOrder e _ = some (a', [.text reply]) ∧ _
    simp only [WebSocketActor.handleCreateOrder, htime, hsome]
    exact ⟨a, _, rfl, rfl, huser.resolve_left nofun⟩
  | cancel instrumentCode clientId =>
    rcases Option.isSome_iff_exists.mp (huser.resolve_left nofun) with ⟨user, hsome⟩
    show ∃ a' reply, a.handleCancelOrder e _ = some (a', [.text reply]) ∧ _
    simp only [WebSocketActor.handleCancelOrder, htime, hsome]
    exact ⟨a, _, rfl, rfl, huser.resolve_left nofun⟩

/-- The server in a turn. It runs as long as a text is on its way, and knows the
user once it has answered. -/
def ServerOk (s : Server) : Turn Message → Prop
  | .right (.text request) =>
      s.status = .running ∧ (RequestFor .authentication request ∨ s.actor.userId.isSome)
  | .left (.text _) => s.status = .running ∧ s.actor.userId.isSome
  | .right _ => s.status = .running
  | .left _ | .quiet => s.status ≠ .panicked

/-- Both parties in a turn. -/
def PartiesOk (testSize : UInt64) (l : TestLoop) (s : Server) (t : Turn Message) : Prop :=
  ClientOk testSize l t ∧ ServerOk s t

/-- The server answers the request that the client waits for. -/
theorem handle_turn {testSize : UInt64} {l : TestLoop} {s s' : Server} {e : ServerMoment}
    {message : Message} {out : List Message} (hclock : e.ClockOk)
    (h : PartiesOk testSize l s (.right message)) (hhandle : s.handle e message = some (s', out)) :
    ∃ t, Turn.ofRight out = some t ∧ PartiesOk testSize l s' t := by
  rcases h with ⟨hclient, hserver⟩
  cases message with
  | text request =>
    rcases hclient with ⟨topic, hrequest, hwaits⟩
    rcases hserver with ⟨hrunning, huser⟩
    -- before the first answer the request can only be the authentication
    have huser' : topic = .authentication ∨ s.actor.userId.isSome := by
      rcases huser with hauth | huser
      · left
        exact Option.some.inj (hrequest.requestTopic_eq.symm.trans hauth.requestTopic_eq)
      · exact .inr huser
    rcases handleText_answers hrequest hclock huser' with ⟨a', reply, htext, htopic, hknown⟩
    simp only [Server.handle, hrunning, htext] at hhandle
    cases hhandle
    exact ⟨_, rfl, ⟨topic, htopic, hwaits⟩, rfl, hknown⟩
  | close =>
    have hrunning : s.status = .running := hserver
    simp only [Server.handle, hrunning] at hhandle
    cases hhandle
    exact ⟨.left .close, rfl, hclient, nofun⟩
  | ping data => exact hclient.elim
  | pong data => exact hclient.elim
  | binary data => exact hclient.elim

/-- A server that has answered is ready for every turn. -/
theorem serverOk_of_known {s : Server} (hrunning : s.status = .running)
    (hknown : s.actor.userId.isSome) (t : Turn Message) : ServerOk s t := by
  have halive : s.status ≠ .panicked := by
    rw [hrunning]
    exact nofun
  unfold ServerOk
  split
  · exact ⟨hrunning, .inr hknown⟩
  · exact ⟨hrunning, hknown⟩
  · exact hrunning
  · exact halive
  · exact halive

/-- The client keeps what it has to keep, and does not touch the server. -/
theorem receive_parties {testSize : UInt64} (hpos : 0 < testSize.toNat) {l l' : TestLoop}
    {s : Server} {m : Moment} {message : Message} {out : List Message}
    (h : PartiesOk testSize l s (.left message)) (hreceive : l.receive m message = some (l', out)) :
    ∃ t, Turn.ofLeft out = some t ∧ PartiesOk testSize l' s t := by
  rcases h with ⟨hclient, hserver⟩
  rcases receive_turn hpos hclient hreceive with ⟨t, ht, hclient'⟩
  refine ⟨t, ht, hclient', ?_⟩
  -- the server has its user from the first reply on
  cases message with
  | text reply => exact serverOk_of_known hserver.1 hserver.2 t
  | close =>
    simp only [TestLoop.receive] at hreceive
    split at hreceive
    · cases hreceive
      cases ht
      exact hserver
    · cases hreceive
  | ping data => exact hclient.elim
  | pong data => exact hclient.elim
  | binary data => exact hclient.elim

/-! ## Every run -/

/-- The texts among some messages. -/
def texts (messages : List Message) : List Text :=
  messages.filterMap fun
    | .text text => some text
    | _ => none

/-- What the texts on their way are about. -/
def inFlightTopics {σ : Type} (s : Duplex TestLoop σ Message) : List Topic :=
  (texts s.toRight).filterMap requestTopic ++ (texts s.toLeft).filterMap replyTopic

/-- The exchange is in order. -/
structure Orderly (testSize : UInt64) (s : Duplex TestLoop Server Message) : Prop where
  inFlight : (texts s.toRight ++ texts s.toLeft).length ≤ 1
  entries : s.left.client.tracker.orderSentTimes.keys.length +
    s.left.client.tracker.cancelSentTimes.keys.length ≤ 1
  orders : s.left.client.tracker.orderSentTimes.keys = (inFlightTopics s).flatMap Topic.orderIds
  cancels : s.left.client.tracker.cancelSentTimes.keys = (inFlightTopics s).flatMap Topic.cancelIds
  responses : s.left.client.tracker.responseCount = UInt64.ofNat s.left.handled
  exact_responses : testSize.toNat + 1 < 2 ^ 64 →
    s.left.client.tracker.responseCount.toNat = s.left.handled
  alive : s.right.status ≠ .panicked

theorem Topic.length_ids_le (topic : Topic) :
    topic.orderIds.length + topic.cancelIds.length ≤ 1 := by
  cases topic <;> simp [Topic.orderIds, Topic.cancelIds]

/-- A text on its way, and what the client waits for. -/
theorem Waits.orderly {testSize : UInt64} {s : Duplex TestLoop Server Message} {topic : Topic}
    (h : Waits testSize s.left topic) (halive : s.right.status ≠ .panicked)
    (hone : (texts s.toRight ++ texts s.toLeft).length ≤ 1) (htopics : inFlightTopics s = [topic]) :
    Orderly testSize s where
  inFlight := hone
  entries := by
    rw [h.orders, h.cancels]
    exact topic.length_ids_le
  orders := by
    rw [h.orders, htopics, List.flatMap_singleton]
  cancels := by
    rw [h.cancels, htopics, List.flatMap_singleton]
  responses := h.responses
  exact_responses := h.exact_responses
  alive := halive

/-- Nothing but a `Close` on its way. -/
theorem Completed.orderly {testSize : UInt64} {s : Duplex TestLoop Server Message}
    (h : Completed testSize s.left) (halive : s.right.status ≠ .panicked)
    (hright : texts s.toRight = []) (hleft : texts s.toLeft = []) : Orderly testSize s := by
  have htopics : inFlightTopics s = [] := by
    rw [inFlightTopics, hright, hleft]
    rfl
  refine ⟨?_, ?_, ?_, ?_, h.responses, h.exact_responses, halive⟩
  · rw [hright, hleft]
    exact Nat.zero_le _
  · rw [h.orders, h.cancels]
    exact Nat.zero_le _
  · rw [h.orders, htopics]
    rfl
  · rw [h.cancels, htopics]
    rfl

theorem orderly_of_inTurn {testSize : UInt64} {s : Duplex TestLoop Server Message}
    (h : InTurn (PartiesOk testSize) s) : Orderly testSize s := by
  rcases s with ⟨l, server, toLeft, toRight⟩
  rcases h with ⟨t, htl, htr, hclient, hserver⟩
  simp only at htl htr hclient hserver
  subst htl htr
  -- each turn has at most one request on its way
  match t with
  | .right (.text request) =>
    rcases hclient with ⟨topic, hrequest, hwaits⟩
    refine hwaits.orderly ?_ (Nat.le_refl 1) ?_
    · rw [hserver.1]
      exact nofun
    · simp only [inFlightTopics, texts, Turn.toRight, Turn.toLeft, List.filterMap_cons,
        List.filterMap_nil, hrequest.requestTopic_eq, List.append_nil]
  | .left (.text reply) =>
    rcases hclient with ⟨topic, hreply, hwaits⟩
    refine hwaits.orderly ?_ (Nat.le_refl 1) ?_
    · rw [hserver.1]
      exact nofun
    · simp only [inFlightTopics, texts, Turn.toRight, Turn.toLeft, List.filterMap_cons,
        List.filterMap_nil, hreply, List.nil_append]
  | .right .close =>
    have hrunning : server.status = .running := hserver
    refine Completed.orderly hclient ?_ rfl rfl
    simp only [hrunning]
    exact nofun
  | .left .close => exact Completed.orderly hclient hserver rfl rfl
  | .quiet => exact Completed.orderly hclient hserver rfl rfl

/-- The server reads its clock at a time since 1970. -/
def ClockOk : Label Moment ServerMoment → Prop
  | .left _ => True
  | .right e => e.ClockOk

/-- In every run of the client and the server the exchange is in order. -/
theorem exchange_orderly {config : Config} {ls : List (Label Moment ServerMoment)}
    {s : Duplex TestLoop Server Message} (hsize : 1 ≤ config.testSize) (hclock : ∀ l ∈ ls, ClockOk l)
    (hrun : Run.exec (Duplex.step TestLoop.receive Server.handle) (startSession config Server.start) ls =
      some s) : Orderly config.testSize s := by
  have hpos : 0 < config.testSize.toNat := UInt64.le_iff_toNat_le.mp hsize
  apply orderly_of_inTurn
  have hstart : InTurn (PartiesOk config.testSize) (startSession config Server.start) :=
    ⟨.right (.text (authMessage config.apiToken)), rfl, rfl, clientOk_start hsize, rfl,
      .inl (.authentication _)⟩
  -- the run starts with the turn of the server, and each handler passes it on
  refine turn_invariant ?_ ?_ hstart hclock hrun
  · intro l server message m l' out _ hok hreceive
    exact receive_parties hpos hok hreceive
  · intro l server message e server' out hclock hok hhandle
    exact handle_turn hclock hok hhandle

/-- A call of the server's handler in November 2023. -/
def sampleServe : Label Moment ServerMoment := .right ⟨1700000000000, -7, "order"⟩

/-- Up to the cancel of the first order, which the server has answered. -/
def sampleExchange : List (Label Moment ServerMoment) :=
  [sampleServe, .left ⟨"", 0, 0⟩, sampleServe, .left ⟨"a", 0, 0⟩, sampleServe, .left ⟨"", 5, 10⟩,
    sampleServe]

theorem exchange_orderly_cancel :
    ∃ s, Run.exec (Duplex.step TestLoop.receive Server.handle)
        (startSession (sampleConfig 10) Server.start) sampleExchange = some s ∧
      s.left.client.tracker.cancelSentTimes.keys = ["a"] ∧ s.left.handled = 1 ∧
      Orderly 10 s := by
  have hclock : ∀ l ∈ sampleExchange, ClockOk l := by
    simp [sampleExchange, sampleServe, ClockOk, ServerMoment.ClockOk]
  have hvalues : (Run.exec (Duplex.step TestLoop.receive Server.handle)
      (startSession (sampleConfig 10) Server.start) sampleExchange).map (fun s =>
        (s.left.client.tracker.cancelSentTimes.keys, s.left.handled)) = some (["a"], 1) := by
    decide +kernel
  rcases Option.map_eq_some_iff.mp hvalues with ⟨s, hs, heq⟩
  rcases Prod.mk.inj heq with ⟨hkeys, hhandled⟩
  exact ⟨s, hs, hkeys, hhandled, exchange_orderly (by decide) hclock hs⟩

end TradingLatency.Hft
