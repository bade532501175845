import Stevedore.Manager.Client
import Mathlib.Tactic.Common

/-!
# What a client remembers

A client remembers two things between its requests: the stream of its last subscription, and the
framework's id. Attempts to subscribe, calls and the messages of its streams, old ones included,
change them at different moments. Here both are read off what could be seen from outside: how the
attempts ended, what the manager answered, and which items were taken from the streams. A call is
made exactly when the last attempt has succeeded, it names the stream of that attempt, and it is
made in the name of the framework that was given or reported last.
-/

namespace Stevedore.Manager

/-- The id of a stream in an answer to a request, if it can be read. -/
def Reply.streamId? : Reply → Option String
  | .answered response => response.streamId?
  | .unreachable | .dropped => none

/-- The framework's id as an item of a stream reports it. -/
def Item.reportedId? : Item → Option Id
  | .ok m => if m.kind = .subscribed then m.subscribed.map (·.frameworkId) else none
  | .error _ => none

namespace Client

variable {c : Client} {info : FrameworkInfo} {call : Call} {r : Request} {reply : Reply}
  {stream : EventStream}

/-! ### Single operations -/

@[simp] theorem exchange_endpoint : (c.exchange r reply).2.endpoint = c.endpoint := by
  cases reply <;> rfl

@[simp] theorem exchange_session : (c.exchange r reply).2.session = c.session := by
  cases reply <;> rfl

theorem exchange_arrived :
    (c.exchange r reply).2.arrived = c.arrived ++ if reply = .unreachable then [] else [r] := by
  cases reply <;> simp [exchange]

theorem exchange_ne_notSubscribed : (c.exchange r reply).1 ≠ .error .notSubscribed := by
  cases reply with
  | unreachable => simp [exchange]
  | dropped => simp [exchange]
  | answered response =>
    simp only [exchange]
    split <;> simp

/-- An attempt that fails leaves no stream behind; one that succeeds leaves the stream whose id the
manager has given. -/
theorem subscribe_session :
    (c.subscribe info reply).2.session =
      ⟨if (c.subscribe info reply).1.isOk then reply.streamId? else none,
        info.id <|> c.session.frameworkId⟩ := by
  cases reply with
  | unreachable => rfl
  | dropped => rfl
  | answered response =>
    by_cases hsuccess : response.isSuccess
    · cases hid : response.streamId? <;>
        simp [subscribe, exchange, Session.subscribing, Session.opened, Reply.streamId?, hsuccess,
          hid, Except.isOk, Except.toBool]
    · simp [subscribe, exchange, Session.subscribing, hsuccess, Except.isOk, Except.toBool]

/-- **When an attempt succeeds**: the manager accepts it, and the id of the stream can be read. -/
theorem subscribe_isOk_iff :
    (c.subscribe info reply).1.isOk ↔
      ∃ response id, reply = .answered response ∧ response.isSuccess ∧
        response.streamId? = some id := by
  cases reply with
  | unreachable => simp [subscribe, exchange, Except.isOk, Except.toBool]
  | dropped => simp [subscribe, exchange, Except.isOk, Except.toBool]
  | answered response =>
    by_cases hsuccess : response.isSuccess
    · cases hid : response.streamId? <;>
        simp [subscribe, exchange, hsuccess, hid, Except.isOk, Except.toBool]
    · simp [subscribe, exchange, hsuccess, Except.isOk, Except.toBool]

theorem subscribe_endpoint : (c.subscribe info reply).2.endpoint = c.endpoint := by
  cases reply with
  | unreachable => rfl
  | dropped => rfl
  | answered response =>
    by_cases hsuccess : response.isSuccess
    · cases hid : response.streamId? <;> simp [subscribe, exchange, hsuccess, hid]
    · simp [subscribe, exchange, hsuccess]

/-- A call changes nothing that the client remembers. -/
theorem call_session : (c.call call reply).2.session = c.session := by
  unfold Client.call
  split <;> simp

theorem call_endpoint : (c.call call reply).2.endpoint = c.endpoint := by
  unfold Client.call
  split <;> simp

/-- Taking an item changes the framework's id only, and only if the item reports one. -/
theorem poll_client :
    (c.poll stream).2.2 =
      { c with session.frameworkId :=
          (c.poll stream).1.bind Item.reportedId? <|> c.session.frameworkId } := by
  unfold poll
  split
  case h_1 m _ _ =>
    cases hkind : m.kind <;> cases hsubscribed : m.subscribed <;>
      simp [Session.observe, Item.reportedId?, hkind, hsubscribed]
  case h_2 item _ hne _ =>
    cases item with
    | none => simp
    | some item =>
      cases item with
      | error => simp [Item.reportedId?]
      | ok m => exact (hne m rfl).elim

theorem poll_streamId : (c.poll stream).2.2.session.streamId = c.session.streamId := by
  simp [poll_client]

end Client

/-! ### A client over time -/

/-- Something done with a client. -/
inductive Act where
  /-- An attempt to subscribe that meets the given reply. -/
  | subscribe (info : FrameworkInfo) (reply : Reply)
  /-- Taking an item of a stream that has been opened, the streams numbered in the order in which
  they were opened. -/
  | poll (stream : Nat)
  /-- A call that meets the given reply. -/
  | call (call : Call) (reply : Reply)

/-- What is seen of something done with a client. -/
inductive Sight where
  /-- An attempt to subscribe, the reply to it and its outcome. -/
  | attempted (info : FrameworkInfo) (reply : Reply) (outcome : Except Fault EventStream)
  /-- An item taken from a stream, or that there is none. -/
  | polled (item : Option Item)
  /-- A call and its outcome. -/
  | called (call : Call) (outcome : Except Fault Unit)

/-- What has been seen, the latest first. -/
abbrev Sights : Type := List Sight

namespace Sights

/-- Whether the last attempt to subscribe has succeeded. -/
def isSubscribed : Sights → Bool
  | [] => false
  | .attempted _ _ outcome :: _ => outcome.isOk
  | .polled _ :: earlier | .called _ _ :: earlier => isSubscribed earlier

/-- The id of a stream that the manager gave in its answer to the last attempt. -/
def streamId? : Sights → Option String
  | [] => none
  | .attempted _ reply _ :: _ => reply.streamId?
  | .polled _ :: earlier | .called _ _ :: earlier => streamId? earlier

/-- The framework's id that was given with an attempt or reported by an item last. -/
def frameworkId? : Sights → Option Id
  | [] => none
  | .attempted info _ _ :: earlier => info.id <|> frameworkId? earlier
  | .polled item :: earlier => item.bind Item.reportedId? <|> frameworkId? earlier
  | .called _ _ :: earlier => frameworkId? earlier

end Sights

/-- A client with the streams that it has opened, and what has been seen of it. -/
structure Usage where
  /-- The client. -/
  client : Client
  /-- Its streams, in the order in which they were opened. -/
  streams : List EventStream
  /-- What has been seen. -/
  sights : Sights

namespace Usage

/-- A client that has not been used. -/
def ofEndpoint (e : Endpoint) : Usage := ⟨.ofEndpoint e, [], []⟩

/-- Do something with the client. -/
def step (u : Usage) : Act → Usage
  | .subscribe info reply =>
    let (outcome, client) := u.client.subscribe info reply
    ⟨client, u.streams ++ outcome.toOption.toList, .attempted info reply outcome :: u.sights⟩
  | .poll n =>
    match u.streams[n]? with
    | none => u
    | some stream =>
      let (item, stream, client) := u.client.poll stream
      ⟨client, u.streams.set n stream, .polled item :: u.sights⟩
  | .call call reply =>
    let (outcome, client) := u.client.call call reply
    ⟨client, u.streams, .called call outcome :: u.sights⟩

/-- Do several things with the client. -/
def run (u : Usage) (acts : List Act) : Usage := acts.foldl step u

/-- The client remembers what has been seen. -/
structure Recalls (e : Endpoint) (u : Usage) : Prop where
  /-- The manager is where it was. -/
  endpoint : u.client.endpoint = e
  /-- It remembers the stream of the last attempt, if that has succeeded. -/
  streamId : u.client.session.streamId =
    if u.sights.isSubscribed then u.sights.streamId? else none
  /-- An attempt that has succeeded was given the id of a stream. -/
  given : u.sights.isSubscribed → u.sights.streamId?.isSome
  /-- It remembers the last id of the framework. -/
  frameworkId : u.client.session.frameworkId = u.sights.frameworkId?

variable {e : Endpoint} {u : Usage}

theorem recalls_ofEndpoint (e : Endpoint) : (ofEndpoint e).Recalls e :=
  ⟨rfl, rfl, by simp [ofEndpoint, Sights.isSubscribed], rfl⟩

/-- **Whatever is done, the client remembers what has been seen.** -/
theorem Recalls.step (h : u.Recalls e) (act : Act) : (u.step act).Recalls e := by
  cases act with
  | subscribe info reply =>
    constructor
    · simpa [Usage.step, Client.subscribe_endpoint] using h.endpoint
    · simp [Usage.step, Client.subscribe_session, Sights.isSubscribed, Sights.streamId?]
    · intro hok
      obtain ⟨response, id, rfl, -, hid⟩ := Client.subscribe_isOk_iff.1 hok
      simp [Usage.step, Sights.streamId?, Reply.streamId?, hid]
    · simp [Usage.step, Client.subscribe_session, Sights.frameworkId?, h.frameworkId]
  | poll n =>
    simp only [Usage.step]
    cases hstream : u.streams[n]? with
    | none => exact h
    | some stream =>
      constructor
      · simpa [Client.poll_client] using h.endpoint
      · exact Client.poll_streamId.trans h.streamId
      · simpa [Sights.isSubscribed, Sights.streamId?] using h.given
      · simp [Client.poll_client, Sights.frameworkId?, h.frameworkId]
  | call call reply =>
    constructor
    · simpa [Usage.step, Client.call_endpoint] using h.endpoint
    · exact (congrArg Session.streamId Client.call_session).trans h.streamId
    · simpa [Usage.step, Sights.isSubscribed, Sights.streamId?] using h.given
    · simpa [Usage.step, Client.call_session, Sights.frameworkId?] using h.frameworkId

theorem Recalls.run (h : u.Recalls e) (acts : List Act) : (u.run acts).Recalls e := by
  induction acts generalizing u with
  | nil => exact h
  | cons act acts ih => exact ih (h.step act)

/-- **A call after anything that was done with a client.** If the last attempt to subscribe has
succeeded, the manager has given the id of a stream, and the call, unless it does not get through,
reaches the manager with that id and in the name of the framework that it names itself or else of
the one given or reported last. Otherwise the call fails as one without a subscription, and no
reply makes a difference because nothing is sent. -/
theorem call_run (e : Endpoint) (acts : List Act) (call : Call) (reply : Reply) :
    let u := (ofEndpoint e).run acts
    if u.sights.isSubscribed then
      ∃ id, u.sights.streamId? = some id ∧
        (u.client.call call reply).2.arrived = u.client.arrived ++
          (if reply = .unreachable then []
            else [⟨e.url, e.authorization, some id,
              { call with frameworkId := call.frameworkId <|> u.sights.frameworkId? }⟩]) ∧
        (u.client.call call reply).1 ≠ .error .notSubscribed
    else u.client.call call reply = (.error .notSubscribed, u.client) := by
  intro u
  have hrecalls : u.Recalls e := (recalls_ofEndpoint e).run acts
  by_cases hsubscribed : u.sights.isSubscribed
  · obtain ⟨id, hid⟩ := Option.isSome_iff_exists.1 (hrecalls.given hsubscribed)
    have hstream : u.client.session.streamId = some id := by
      rw [hrecalls.streamId, if_pos hsubscribed, hid]
    rw [if_pos hsubscribed]
    refine ⟨id, hid, ?_, ?_⟩
    · simp [Client.call, hstream, Client.exchange_arrived, Client.request, Session.complete,
        hrecalls.endpoint, hrecalls.frameworkId]
    · simp only [Client.call, hstream]
      intro hfault
      cases houtcome : (u.client.exchange (u.client.request (some id)
          (u.client.session.complete call)) reply).1 with
      | ok response => simp [houtcome, Except.map] at hfault
      | error fault =>
        simp only [houtcome, Except.map, Except.error.injEq] at hfault
        exact Client.exchange_ne_notSubscribed (hfault ▸ houtcome)
  · have hstream : u.client.session.streamId = none := by
      rw [hrecalls.streamId, if_neg hsubscribed]
    rw [if_neg hsubscribed]
    simp [Client.call, hstream]

end Usage

end Stevedore.Manager
