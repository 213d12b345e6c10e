import Fleet.Session.Run

/-!
# Kept streams

Streams that stay open between steps, each under a name.

* `Session.poll`: ask a stream for one item.
* `Session.next`: take what is ready, without waiting.
-/

namespace Fleet

/-- An item of a kept stream. -/
inductive StreamItem : Type 1 where
  | resource (K : Kind) (r : Resource K)
  | event (K : Kind) (e : Event K)
  | raw (e : WireEvent)

/-- What a kept stream answers. -/
inductive Polled : Type 1 where
  | item (a : StreamItem)
  | failed (e : Error)
  | pending
  | ended

/-- Why no more items were taken. -/
inductive Pause where
  /-- As many as were asked for. -/
  | full
  /-- Nothing more is ready. -/
  | pending
  | ended
  deriving DecidableEq, Repr

/-- The name of a pause. -/
def Pause.text : Pause → String
  | full => "open"
  | pending => "pending"
  | ended => "ended"

namespace Session

/-- End a guarded stream: count a cancellation and tell its error. -/
def endGuarded (s : Session) (i : Nat) (g : Guard) (e : Ending) :
    Polled × StreamState × Session :=
  let s := if e = .cancelled then s.note i .cancelledStream else s
  match g.errorOf? e with
  | some error => (.failed error, .failed, s)
  | none => (.ended, .ended, s)

/-- Ask a live stream for one item. -/
def pollLive (s : Session) : Stream → Polled × StreamState × Stream × Session
  | .list K i st =>
    match s.pollList st with
    | (.item w, st, s) =>
      let r := Resource.ofWire K w
      (.item (.resource K r.1), .live, .list K i st, s.note i (.lostStates r.2))
    | (.pending _, st, s) => (.pending, .live, .list K i st, s)
    | (.ended e, st, s) =>
      let (p, state, s) := s.endGuarded i st.guard e
      (p, state, .list K i st, s)
  | .watch K i st =>
    match s.pollWatch st with
    | (.item w, st, s) =>
      let e := Event.ofWire K w
      (.item (.event K e.1), .live, .watch K i st, s.note i (.lostStates e.2))
    | (.pending _, st, s) => (.pending, .live, .watch K i st, s)
    | (.ended e, st, s) =>
      let (p, state, s) := s.endGuarded i st.guard e
      (p, state, .watch K i st, s)
  | .raw sub =>
    match sub.next? s.store.published with
    | (some e, sub) => (.item (.raw e), .live, .raw sub, s)
    | (none, sub) => (.pending, .live, .raw sub, s)

/-- Ask a stream for one item. One that has failed ends. -/
def poll (s : Session) (k : KeptStream) : Polled × KeptStream × Session :=
  match k.state with
  | .live =>
    let (p, state, stream, s) := s.pollLive k.stream
    (p, { k with stream, state }, s)
  | _ => (.ended, { k with state := .ended }, s)

/-- Take items while they are ready, at most so many. -/
def takeFrom : Nat → Session → KeptStream →
    (List (Except Error StreamItem) × Pause) × KeptStream × Session
  | 0, s, k => (([], .full), k, s)
  | n + 1, s, k =>
    match s.poll k with
    | (.pending, k, s) => (([], .pending), k, s)
    | (.ended, k, s) => (([], .ended), k, s)
    | (.item a, k, s) =>
      let (r, k, s) := takeFrom n s k
      ((.ok a :: r.1, r.2), k, s)
    | (.failed e, k, s) =>
      let (r, k, s) := takeFrom n s k
      ((.error e :: r.1, r.2), k, s)

/-- Keep a stream under a name, instead of what had that name before. -/
def keep (s : Session) (name : String) (stream : Stream) (brief : Bool) : Session :=
  let others := s.streams.filter (·.1 != name)
  { s with streams := (name, ⟨stream, .live, brief⟩) :: others }

/-- The stream of a name. -/
def stream? (s : Session) (name : String) : Option KeptStream :=
  (s.streams.find? (·.1 == name)).map (·.2)

/-- Give up a stream; says whether there was one. -/
def drop (s : Session) (name : String) : Bool × Session :=
  ((s.stream? name).isSome, { s with streams := s.streams.filter (·.1 != name) })

/-- Take what is ready of a stream, without waiting and at most so much. -/
def next (s : Session) (name : String) (most : Nat) :
    Option (List (Except Error StreamItem) × Pause × Bool) × Session :=
  match s.stream? name with
  | none => (none, s)
  | some k =>
    let (r, k, s) := takeFrom most s k
    let streams := s.streams.map fun e => if e.1 == name then (name, k) else e
    (some (r.1, r.2, k.brief), { s with streams })

/-- The calls that reached the service since they were last asked for. -/
def takeReceived (s : Session) : List Received × Session :=
  (s.received, { s with received := [] })

/-- Register a kind at a client. -/
def register (s : Session) (i : Nat) (K : Kind) (name : String) : Except Error Unit × Session :=
  match s.members[i]? with
  | none => (.error (.internal "no such client"), s)
  | some m =>
    match m.client.registry.register K name with
    | .error e => (.error e, s)
    | .ok registry =>
      (.ok (), s.modifyMember i fun m => { m with client := { m.client with registry } })

end Session

end Fleet
