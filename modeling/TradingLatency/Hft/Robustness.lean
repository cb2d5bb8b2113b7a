import TradingLatency.Hft.MockServer
import TradingLatency.Lib.Run

/-!
# The mock server and arbitrary texts (`websocket.rs`)

A connection sends any texts in any order. The first reading of a text and the look
at its type have a branch for their failure, which logs the text and returns. The
second reading, the clock and the user have none: each is unwrapped.

`robust_iff` says for which sequences of texts the handler never panics: those in
which every request can be read as what its type says, and comes behind the
authentication. What is rejected never changes the user and is never acknowledged.
-/

namespace TradingLatency.Hft

open Json

/-! ## Texts -/

/-- The types of requests that the handler knows. -/
inductive RequestKind where
  | authenticate
  | subscribe
  | createOrder
  | cancelOrder

/-- The type of a text, and its value; `none` for a text that is no JSON, has no
type or an unknown one. -/
def requestKind (text : Text) : Option (RequestKind × Json) :=
  match text with
  | none => none
  | some payload =>
      match (payload.index "type").asStr with
      | some "AUTHENTICATE" => some (.authenticate, payload)
      | some "SUBSCRIBE" => some (.subscribe, payload)
      | some "CREATE_ORDER" => some (.createOrder, payload)
      | some "CANCEL_ORDER" => some (.cancelOrder, payload)
      | _ => none

/-- A text as it arrives. -/
structure Incoming where
  moment : ServerMoment
  text : Text

/-- The handler, by the type of the request. -/
theorem handleText_eq (a : WebSocketActor) (e : ServerMoment) (text : Text) :
    a.handleText e text =
      match requestKind text with
      | none => some (a, [])
      | some (.authenticate, payload) => a.handleAuthenticate payload
      | some (.subscribe, payload) => a.handleSubscribe e payload
      | some (.createOrder, payload) => a.handleCreateOrder e payload
      | some (.cancelOrder, payload) => a.handleCancelOrder e payload := by
  unfold WebSocketActor.handleText requestKind
  cases text with
  | none => rfl
  | some payload =>
    simp only []
    generalize (payload.index "type").asStr = kind
    split
    · rfl
    · rfl
    · rfl
    · rfl
    · -- an unknown type, or none
      simp only

/-! ## Statement -/

/-- The text can be answered: it is ignored, or it can be read as a request of its
type, the clock can be read where the answer has a time, and the user is known where
the answer names him. -/
def Answerable (a : WebSocketActor) (m : Incoming) : Prop :=
  match requestKind m.text with
  | none => True
  | some (.authenticate, payload) => (AuthRequest.read payload).isSome
  | some (.subscribe, payload) => m.moment.ClockOk ∧
      ∃ request, SubscriptionRequest.read payload = some request ∧
        (request.channels = [] ∨ a.userId.isSome)
  | some (.createOrder, payload) =>
      m.moment.ClockOk ∧ (LimitOrderRequest.read payload).isSome ∧ a.userId.isSome
  | some (.cancelOrder, payload) =>
      m.moment.ClockOk ∧ (CancelOrderRequest.read payload).isSome ∧ a.userId.isSome

/-- The text is malformed, of unknown type, or not permitted before the
authentication. -/
def Rejected (a : WebSocketActor) (text : Text) : Prop :=
  match requestKind text with
  | none => True
  | some (.authenticate, payload) => AuthRequest.read payload = none
  | some (.subscribe, payload) => SubscriptionRequest.read payload = none ∨ a.userId = none
  | some (.createOrder, payload) => LimitOrderRequest.read payload = none ∨ a.userId = none
  | some (.cancelOrder, payload) => CancelOrderRequest.read payload = none ∨ a.userId = none

/-- The acknowledgement of an order or of a cancel. -/
def IsAck : Message → Prop
  | .text (some payload) => (payload.index "type").asStr ∈ [some "BOOKED", some "DONE"]
  | _ => False

/-- The server behind one text of the connection. A text that arrives behind a panic
is lost. -/
def Server.receive (s : Server) (m : Incoming) : Server :=
  match s.handle m.moment (.text m.text) with
  | none => s
  | some (s', _) => s'

/-- The texts of the connection, one by one. -/
def receive (s : Server) (m : Incoming) : Option Server := some (s.receive m)

/-- The handler does not panic while the texts arrive. -/
def NeverPanics (ms : List Incoming) : Prop :=
  ∀ ms' s, ms' <+: ms → Run.exec receive .start ms' = some s → s.status ≠ .panicked

/-- A text that is rejected leaves the user and is not acknowledged. -/
def RejectsQuietly (ms : List Incoming) : Prop :=
  ∀ ms' m s s' out, ms' ++ [m] <+: ms → Run.exec receive .start ms' = some s →
    Rejected s.actor m.text → s.handle m.moment (.text m.text) = some (s', out) →
      s'.actor.userId = s.actor.userId ∧ ∀ reply ∈ out, ¬ IsAck reply

/-! ## One text -/

section Handler

variable {a a' : WebSocketActor} {e : ServerMoment} {payload : Json} {out : List Message}

theorem isSome_timestamp : (timestamp e).isSome ↔ e.ClockOk := by
  unfold timestamp ServerMoment.ClockOk
  split <;> simp_all

theorem isSome_handleAuthenticate :
    (a.handleAuthenticate payload).isSome ↔ (AuthRequest.read payload).isSome := by
  unfold WebSocketActor.handleAuthenticate
  cases AuthRequest.read payload <;> simp

/-- The channels of an answer name the user, if there is a channel. -/
theorem isSome_outputChannels (channels : List Channel) :
    (channels.mapM (m := Option) fun channel => do
      return obj [("account_id", str (← a.userId)), ("name", str channel.name)]).isSome ↔
      channels = [] ∨ a.userId.isSome := by
  rcases a.userId with _ | user
  · cases channels <;> simp
  · have hmap : channels.mapM (m := Option) (fun channel =>
        some (obj [("account_id", str user), ("name", str channel.name)])) =
        some (channels.map fun channel => obj [("account_id", str user), ("name", str channel.name)]) :=
      List.mapM_pure
    simp [hmap]

theorem isSome_handleSubscribe :
    (a.handleSubscribe e payload).isSome ↔ e.ClockOk ∧
      ∃ request, SubscriptionRequest.read payload = some request ∧
        (request.channels = [] ∨ a.userId.isSome) := by
  rw [← isSome_timestamp]
  unfold WebSocketActor.handleSubscribe
  -- the clock comes first, then the request, then a user for its channels
  rcases timestamp e with _ | time
  · simp
  · rcases SubscriptionRequest.read payload with _ | request
    · simp
    · have hchannels := isSome_outputChannels (a := a) request.channels
      simp only [Option.some.injEq, exists_eq_left', ← hchannels, Option.isSome_some, true_and]
      simp only [Option.bind_eq_bind, Option.bind_some]
      cases request.channels.mapM (m := Option) fun channel => do
        return obj [("account_id", str (← a.userId)), ("name", str channel.name)] <;> simp

theorem isSome_handleCreateOrder :
    (a.handleCreateOrder e payload).isSome ↔
      e.ClockOk ∧ (LimitOrderRequest.read payload).isSome ∧ a.userId.isSome := by
  rw [← isSome_timestamp]
  unfold WebSocketActor.handleCreateOrder
  cases timestamp e <;> cases LimitOrderRequest.read payload <;> cases a.userId <;> simp

theorem isSome_handleCancelOrder :
    (a.handleCancelOrder e payload).isSome ↔
      e.ClockOk ∧ (CancelOrderRequest.read payload).isSome ∧ a.userId.isSome := by
  rw [← isSome_timestamp]
  unfold WebSocketActor.handleCancelOrder
  cases timestamp e <;> cases CancelOrderRequest.read payload <;> cases a.userId <;> simp

/-- The handler panics on the other texts, and on no other. -/
theorem isSome_handleText (a : WebSocketActor) (m : Incoming) :
    (a.handleText m.moment m.text).isSome ↔ Answerable a m := by
  rw [handleText_eq, Answerable]
  split
  · exact iff_of_true rfl trivial
  · exact isSome_handleAuthenticate
  · exact isSome_handleSubscribe
  · exact isSome_handleCreateOrder
  · exact isSome_handleCancelOrder

/-- A subscription is answered with the user as he is, and not with an
acknowledgement. -/
theorem handleSubscribe_some (h : a.handleSubscribe e payload = some (a', out)) :
    a' = a ∧ ∀ reply ∈ out, ¬ IsAck reply := by
  unfold WebSocketActor.handleSubscribe at h
  simp only [Option.bind_eq_bind, Option.bind_eq_some_iff] at h
  rcases h with ⟨time, -, request, -, channels, -, h⟩
  cases h
  refine ⟨rfl, ?_⟩
  intro reply hreply
  rw [List.mem_singleton.mp hreply]
  show ¬ some "SUBSCRIPTIONS" ∈ [some "BOOKED", some "DONE"]
  decide

/-- What is rejected leaves the user and is not acknowledged: where it does not
panic, it is ignored, or it is a subscription without channels. -/
theorem handleText_rejected {text : Text} (hrejected : Rejected a text)
    (h : a.handleText e text = some (a', out)) :
    a'.userId = a.userId ∧ ∀ reply ∈ out, ¬ IsAck reply := by
  rw [handleText_eq] at h
  unfold Rejected at hrejected
  split at h
  · -- a message of unknown type has no answer
    cases h
    exact ⟨rfl, by simp⟩
  · -- `AUTHENTICATE` whose token cannot be read panics
    rename_i payload hkind
    rw [hkind] at hrejected
    have hsome := isSome_handleAuthenticate.mp (Option.isSome_of_eq_some h)
    rw [hrejected] at hsome
    cases hsome
  · -- `SUBSCRIBE` is never acknowledged here
    rcases handleSubscribe_some h with ⟨rfl, hout⟩
    exact ⟨rfl, hout⟩
  · -- an order needs the request and a user; without one the handler panics
    rename_i payload hkind
    rw [hkind] at hrejected
    rcases isSome_handleCreateOrder.mp (Option.isSome_of_eq_some h) with ⟨-, hread, huser⟩
    rcases hrejected with hnone | hnone
    · rw [hnone] at hread
      cases hread
    · rw [hnone] at huser
      cases huser
  · -- so does a cancel
    rename_i payload hkind
    rw [hkind] at hrejected
    rcases isSome_handleCancelOrder.mp (Option.isSome_of_eq_some h) with ⟨-, hread, huser⟩
    rcases hrejected with hnone | hnone
    · rw [hnone] at hread
      cases hread
    · rw [hnone] at huser
      cases huser

end Handler

/-! ## All texts of a connection -/

section Connection

variable {s s' : Server} {m : Incoming} {out : List Message}

/-- A running server runs on exactly when it can answer the text. -/
theorem receive_running (hrunning : s.status = .running) (m : Incoming) :
    (Answerable s.actor m → (s.receive m).status = .running) ∧
      (¬ Answerable s.actor m → (s.receive m).status = .panicked) := by
  rw [← isSome_handleText]
  simp only [Server.receive, Server.handle, hrunning]
  rcases htext : s.actor.handleText m.moment m.text with _ | ⟨actor, out⟩
  · exact ⟨fun h => by simp at h, fun _ => rfl⟩
  · exact ⟨fun _ => rfl, fun h => by simp at h⟩

theorem receive_status_iff (hrunning : s.status = .running) (m : Incoming) :
    (s.receive m).status ≠ .panicked ↔ Answerable s.actor m := by
  rcases receive_running hrunning m with ⟨hyes, hno⟩
  constructor
  · intro hstatus
    by_contra hnot
    exact hstatus (hno hnot)
  · intro hanswer
    rw [hyes hanswer]
    decide

theorem handle_rejected (hrejected : Rejected s.actor m.text)
    (h : s.handle m.moment (.text m.text) = some (s', out)) :
    s'.actor.userId = s.actor.userId ∧ ∀ reply ∈ out, ¬ IsAck reply := by
  unfold Server.handle at h
  split at h
  · simp only at h
    split at h
    · cases h
      exact ⟨rfl, by simp⟩
    · rename_i actor out' htext
      cases h
      exact handleText_rejected hrejected htext
  · cases h

/-- The handler does not panic exactly when it can answer each text as it arrives. -/
theorem neverPanics_iff (ms : List Incoming) :
    NeverPanics ms ↔ Run.Meets receive (fun s m => Answerable s.actor m) .start ms := by
  have htotal : ∀ s m, receive s m = some (s.receive m) := fun _ _ => rfl
  rcases Run.exists_exec_of_total htotal .start ms with ⟨s, hrun⟩
  -- what the run carries along is that the server is still running, which is more than not panicked
  have hinv : ∀ s : Server, s.status = .running → s.status ≠ .panicked := by
    intro s hrunning
    rw [hrunning]
    decide
  have hkeep : ∀ (s : Server) m s', s.status = .running → Answerable s.actor m →
      receive s m = some s' → s'.status = .running := by
    intro s m s' hrunning hanswer hstep
    cases hstep
    exact (receive_running hrunning m).1 hanswer
  have hstep : ∀ (s : Server) m s', s.status = .running → receive s m = some s' →
      (s'.status ≠ .panicked ↔ Answerable s.actor m) := by
    intro s m s' hrunning hstep
    cases hstep
    exact receive_status_iff hrunning m
  exact Run.always_iff_meets hinv hkeep hstep rfl hrun

/-- In every sequence of texts, what is rejected is rejected quietly. -/
theorem rejectsQuietly (ms : List Incoming) : RejectsQuietly ms := by
  intro ms' m s s' out _ _ hrejected hhandle
  exact handle_rejected hrejected hhandle

end Connection

/-- For every sequence of texts from one connection: the handler never panics, and
everything that is rejected leaves the user and is not acknowledged, if and only if
each text can be answered in the state in which it arrives. -/
theorem robust_iff (ms : List Incoming) :
    NeverPanics ms ∧ RejectsQuietly ms ↔
      Run.Meets receive (fun s m => Answerable s.actor m) .start ms := by
  rw [neverPanics_iff]
  exact and_iff_left (rejectsQuietly ms)

/-- An `AUTHENTICATE` without its token. -/
def bareAuthenticate : Incoming := ⟨⟨0, 0, ""⟩, some (obj [("type", str "AUTHENTICATE")])⟩

/-- It is valid JSON of a known type, and the handler panics on it. -/
theorem bareAuthenticate_panics :
    (Server.start.receive bareAuthenticate).status = .panicked ∧
      ¬ (NeverPanics [bareAuthenticate] ∧ RejectsQuietly [bareAuthenticate]) := by
  have hpanics : (Server.start.receive bareAuthenticate).status = .panicked := rfl
  refine ⟨hpanics, ?_⟩
  rintro ⟨hnever, -⟩
  exact hnever [bareAuthenticate] _ (List.prefix_refl _) rfl hpanics

end TradingLatency.Hft
