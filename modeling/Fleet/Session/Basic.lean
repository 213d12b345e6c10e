import Fleet.Client.Basic
import Fleet.Signer

/-!
# Sessions

Several clients and one service under a clock of its own, which moves only where something waits.

* `Session.advanceTo`: let time pass; timers that are due cancel their tokens.
* `Session.reading`: what the clock of the service reads; every session may bring a clock of its
  own.
-/

namespace Fleet

/-- What answers a client. -/
inductive Backend where
  /-- The service of the session. -/
  | shared
  /-- A script for lists and one for watches; nothing else is answered. -/
  | scripted (lists : List (Cue WireResource)) (watches : List (Cue WireEvent))

/-- A client that takes part in a session. -/
structure Member where
  client : Client
  signer : Signer
  backend : Backend
  metrics : Metrics
  /-- The calls that were given to the signer, in order. -/
  signed : List Verb

/-- A token that is cancelled later. -/
structure Timer where
  due : Time
  token : Token
  deriving DecidableEq, Repr

/-- A stream that is kept open. -/
inductive Stream : Type 1 where
  | list (K : Kind) (member : Nat) (s : ListStream)
  | watch (K : Kind) (member : Nat) (s : WatchStream)
  /-- A subscription without a client. -/
  | raw (s : Subscription)

/-- Where a kept stream stands. -/
inductive StreamState where
  | live
  /-- It has yielded an error and ends when it is asked again. -/
  | failed
  | ended
  deriving DecidableEq, Repr

/-- A stream that is kept under a name. -/
structure KeptStream : Type 1 where
  stream : Stream
  state : StreamState
  /-- Only ids are asked for. -/
  brief : Bool

/-- A call that reached the service: its method and its headers. -/
structure Received where
  method : String
  headers : Headers
  deriving DecidableEq, Repr

/-- Several clients and one service. -/
structure Session : Type 1 where
  now : Time
  store : Store
  /-- How long the service takes to answer, if it takes any time. -/
  latency : Option Time
  members : List Member
  cancelled : List Token
  timers : List Timer
  streams : List (String × KeptStream)
  /-- The calls that reached the service since they were last asked for. -/
  received : List Received
  /-- What the clock of the service reads, by how often it was read before. -/
  clock : Nat → Timestamp
  /-- How often the clock was read. -/
  readings : Nat

namespace Session

variable (s : Session)

/-- The second in which the clock of the service stands. -/
def clockSecond : Int := 1767225600

/-- The clock that counts its readings in nanoseconds of one second. -/
def countingClock (n : Nat) : Timestamp where
  seconds := clockSecond
  nanos := n % 1000000000
  valid := ⟨by decide, by decide, .inl (Nat.mod_lt n (by decide))⟩

/-- A session at its beginning. -/
def start (historyLimit : Nat) (members : List Member) : Session :=
  ⟨0, .empty historyLimit, none, members, [], [], [], [], countingClock, 0⟩

/-- What the clock of the service reads. -/
def reading : WireTime := (s.clock s.readings).toWire

/-- The time was read off the clock of the service. -/
def isClockTime (t : WireTime) : Bool := t.seconds == clockSecond

/-- Cancel a token. -/
def cancel (t : Token) : Session :=
  if s.cancelled.contains t then s else { s with cancelled := t :: s.cancelled }

/-- Cancel tokens. -/
def cancelAll (ts : List Token) : Session := ts.foldl cancel s

/-- Let time pass. Timers that are due then cancel their tokens. -/
def advanceTo (t : Time) : Session :=
  let now := max s.now t
  let due := s.timers.filter (·.due ≤ now)
  cancelAll { s with now, timers := s.timers.filter (now < ·.due) } (due.map (·.token))

/-- Cancel a token when so much time has passed. -/
def cancelAfter (t : Token) (span : Time) : Session :=
  { s with timers := s.timers ++ [⟨s.now + span, t⟩] }

/-- The first of the given times and the timers. -/
def nextWake (times : List (Option Time)) : Option Time :=
  ((times.filterMap id) ++ s.timers.map (·.due)).min?

/-- When a token is going to be cancelled by a timer, if it is. -/
def cancelTime? (token : Option Token) : Option Time :=
  (s.timers.filterMap fun t => if token == some t.token then some t.due else none).min?

/-- Change one client. -/
def modifyMember (i : Nat) (f : Member → Member) : Session :=
  { s with members := s.members.modify i f }

/-- Count an event of a client. -/
def note (i : Nat) (n : Notice) : Session :=
  s.modifyMember i fun m => { m with metrics := m.metrics.note n }

/-- Count a request of a client. -/
def countRequest (i : Nat) (v : Verb) : Session :=
  s.modifyMember i fun m => { m with metrics := m.metrics.request v }

/-- Count the failure of a call, if it failed. -/
def countFailure {α : Type} (i : Nat) (v : Verb) (r : Except Error α) : Session :=
  match r with
  | .ok _ => s
  | .error e => s.modifyMember i fun m => { m with metrics := m.metrics.failure v e }

/-- The streams that hear of every event: those of watches that have not ended. -/
def subscriberCount : Nat :=
  (s.streams.filter fun k => k.2.state != .ended && match k.2.stream with
    | .list .. => false
    | .watch _ _ w => w.source.isLive
    | .raw _ => true).length

end Session

end Fleet
