import TradingLatency.Hft.Client

/-!
# The mock trading server (`websocket.rs`, `websocket_message_types.rs`)

`WebSocketActor` answers every request of a connection at once. It reads the type
of a request from the untyped value and then reads the whole request again with a
type; where that fails, or where the user is not known yet, an `unwrap` fails and
the handler panics.
-/

namespace TradingLatency.Hft

open Json

/-! ## Requests -/

structure AuthRequest where
  apiToken : String

/-- A channel of a `SUBSCRIBE` request. -/
structure Channel where
  name : String

structure SubscriptionRequest where
  channels : List Channel

structure Order where
  instrumentCode : String
  clientId : String
  side : String
  price : String
  amount : String

structure LimitOrderRequest where
  order : Order

structure CancelOrderRequest where
  clientId : String
  instrumentCode : String

def AuthRequest.read (v : Json) : Option AuthRequest := do
  let field ← v.fields ["api_token"]
  return ⟨← readString (field "api_token")⟩

def Channel.read (v : Json) : Option Channel := do
  let field ← v.fields ["name"]
  return ⟨← readString (field "name")⟩

def SubscriptionRequest.read (v : Json) : Option SubscriptionRequest := do
  let field ← v.fields ["channels"]
  return ⟨← readArray Channel.read (field "channels")⟩

def Order.read (v : Json) : Option Order := do
  let field ← v.fields ["instrument_code", "client_id", "side", "price", "amount"]
  return ⟨← readString (field "instrument_code"), ← readString (field "client_id"),
    ← readString (field "side"), ← readString (field "price"), ← readString (field "amount")⟩

def LimitOrderRequest.read (v : Json) : Option LimitOrderRequest := do
  let field ← v.fields ["order"]
  return ⟨← Order.read (← field "order")⟩

def CancelOrderRequest.read (v : Json) : Option CancelOrderRequest := do
  let field ← v.fields ["client_id", "instrument_code"]
  return ⟨← readString (field "client_id"), ← readString (field "instrument_code")⟩

/-! ## The handler -/

structure WebSocketActor where
  userId : Option String

/-- What one call of the handler reads from its surroundings: the system clock in
milliseconds from 1970 on, a random number, and a fresh order id. -/
structure ServerMoment where
  clock : Int
  orderBookSequence : Int
  orderId : String

/-- `timestamp` as a value; `none` when it fails: `duration_since` does before 1970,
and `json!` on a number of more than 64 bits. -/
def timestamp (e : ServerMoment) : Option Json :=
  if 0 ≤ e.clock ∧ e.clock < 2 ^ 64 then some (num (toString e.clock)) else none

namespace WebSocketActor

def new : WebSocketActor := ⟨none⟩

/-- The branch of `handle` for `AUTHENTICATE`. -/
def handleAuthenticate (_ : WebSocketActor) (payload : Json) :
    Option (WebSocketActor × List Message) := do
  let request ← AuthRequest.read payload
  return (⟨some request.apiToken⟩, [.text (obj [("type", str "AUTHENTICATED")])])

/-- The branch of `handle` for `SUBSCRIBE`. -/
def handleSubscribe (a : WebSocketActor) (e : ServerMoment) (payload : Json) :
    Option (WebSocketActor × List Message) := do
  let time ← timestamp e
  let request ← SubscriptionRequest.read payload
  -- the user is only looked at where there is a channel
  let outputChannels ← request.channels.mapM fun channel => do
    return obj [("account_id", str (← a.userId)), ("name", str channel.name)]
  return (a, [.text (obj [("type", str "SUBSCRIPTIONS"), ("channels", arr outputChannels),
    ("time", time)])])

/-- The branch of `handle` for `CREATE_ORDER`. -/
def handleCreateOrder (a : WebSocketActor) (e : ServerMoment) (payload : Json) :
    Option (WebSocketActor × List Message) := do
  let time ← timestamp e
  let request ← LimitOrderRequest.read payload
  return (a, [.text (obj [("type", str "BOOKED"),
    ("order_book_sequence", num (toString e.orderBookSequence)), ("side", str request.order.side),
    ("uid", str (← a.userId)), ("amount", str request.order.amount),
    ("price", str request.order.price), ("instrument_code", str request.order.instrumentCode),
    ("client_id", str request.order.clientId), ("order_id", str e.orderId),
    ("channel_name", str "TRADING"), ("time", time)])])

/-- The branch of `handle` for `CANCEL_ORDER`. -/
def handleCancelOrder (a : WebSocketActor) (e : ServerMoment) (payload : Json) :
    Option (WebSocketActor × List Message) := do
  let time ← timestamp e
  let request ← CancelOrderRequest.read payload
  return (a, [.text (obj [("type", str "DONE"), ("status", str "CANCELLED"),
    ("order_book_sequence", num (toString e.orderBookSequence)), ("uid", str (← a.userId)),
    ("instrument_code", str request.instrumentCode), ("client_id", str request.clientId),
    ("order_id", str e.orderId), ("channel_name", str "TRADING"), ("time", time)])])

/-- `handle` for a text; `none` when an `unwrap` fails. -/
def handleText (a : WebSocketActor) (e : ServerMoment) (text : Text) :
    Option (WebSocketActor × List Message) :=
  -- a text that is no JSON, and a type that is not known, are logged only
  match text with
  | none => some (a, [])
  | some payload =>
      match (payload.index "type").asStr with
      | some "AUTHENTICATE" => a.handleAuthenticate payload
      | some "SUBSCRIBE" => a.handleSubscribe e payload
      | some "CREATE_ORDER" => a.handleCreateOrder e payload
      | some "CANCEL_ORDER" => a.handleCancelOrder e payload
      | _ => some (a, [])

end WebSocketActor

inductive ServerStatus where
  | running
  | stopped
  | panicked
deriving DecidableEq

/-- The actor of a connection, and whether it still runs. -/
structure Server where
  actor : WebSocketActor
  status : ServerStatus

namespace Server

def start : Server := ⟨WebSocketActor.new, .running⟩

/-- `handle`; `none` when the actor does not run any more. -/
def handle (s : Server) (e : ServerMoment) (message : Message) : Option (Server × List Message) :=
  match s.status with
  | .running =>
      match message with
      | .text text =>
          match s.actor.handleText e text with
          | none => some ({ s with status := .panicked }, [])
          | some (actor, out) => some ({ s with actor := actor }, out)
      | .close => some ({ s with status := .stopped }, [.close])
      | _ => some (s, [])
  | _ => none

end Server

/-! ## Requests that are answered -/

/-- The clock of the server shows a time since 1970, in 64 bits. -/
def ServerMoment.ClockOk (e : ServerMoment) : Prop := 0 ≤ e.clock ∧ e.clock < 2 ^ 64

theorem timestamp_of_clockOk {e : ServerMoment} (h : e.ClockOk) :
    timestamp e = some (num (toString e.clock)) := if_pos h

end TradingLatency.Hft
