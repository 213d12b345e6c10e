import Fleet.Session.Basic

/-!
# Running plans

A call is signed, gets its deadline and is counted before it reaches the service. The service counts
it too, takes its time and answers; a call whose time is up has no effect but its count.

* `Session.invoke`: make one call.
* `Session.collect`: read a list to its end, waiting where it waits.
* `Session.run`: run the plan of a client.
-/

namespace Fleet.Session

/-- The end of a call that starts now, if the clock goes that far. -/
def deadline? (now : Time) (timeout : Span) : Option Time :=
  if timeout.seconds < 9223372036854775808 then some (now + timeout.nanos) else none

/-- How the wait for an answer ends. -/
inductive Wait where
  | ready
  /-- The deadline passed first. -/
  | late
  /-- The caller gave up first. -/
  | cancelled
  deriving DecidableEq, Repr

/-- Wait for an answer. A token that is cancelled before the wait is over ends it. -/
def awaitAnswer (s : Session) (timeout : Span) (token : Option Token) : Wait × Session :=
  match s.latency with
  | none => (.ready, s)
  | some latency =>
    let finish := s.now + min latency timeout.nanos
    match s.cancelTime? token with
    | some t =>
      if t < finish then (.cancelled, s.advanceTo t)
      else (if latency ≤ timeout.nanos then .ready else .late, s.advanceTo finish)
    | none => (if latency ≤ timeout.nanos then .ready else .late, s.advanceTo finish)

/-- A call reaches the service and is counted there. -/
def receive (s : Session) (v : Verb) (headers : Headers) : Session :=
  { s with store := s.store.count v, received := s.received ++ [⟨v.method, headers⟩] }

/-- The answer of the service to a call that it has counted. -/
def answer {α : Type} (s : Session) (r : Request α) : Except Error α × Session :=
  let (x, store) := s.store.answer s.reading r
  (x.mapError Error.remote, { s with store, readings := s.readings + 1 })

/-- A call that comes from no client: it has no deadline. -/
def callDirectly {α : Type} (s : Session) (r : Request α) : Except Error α × Session :=
  let s := { s with store := s.store.count r.verb }
  let s := match s.latency with
    | some latency => if r.verb == Verb.watch then s else s.advanceTo (s.now + latency)
    | none => s
  s.answer r

/-- What a script answers that has nothing to tell. -/
def unscripted : Error := .remote ⟨.unimplemented, "scripted service"⟩

/-- Start a call: sign it, set its deadline and count it. A call whose token is cancelled does not
start. -/
def startCall (s : Session) (i : Nat) (m : Member) (v : Verb) (token : Option Token) :
    Except Error (Headers × Time) × Session :=
  if token.any s.cancelled.contains then (.error (.cancelled v.text), s)
  else
    let s := s.modifyMember i fun m => { m with signed := m.signed ++ [v] }
    match m.signer.signAfter (m.signed.map Verb.method) v.method clientHeaders with
    | .error e => (.error e, s)
    | .ok headers =>
      match deadline? s.now m.client.config.timeout with
      | none => (.error (.configuration (.clockOverflow m.client.config.timeout)), s)
      | some deadline => (.ok (headers, deadline), s.countRequest i v)

/-- Finish a call at the service of the session: it is counted there, takes its time and is
answered. -/
def finishCall {α : Type} (s : Session) (i : Nat) (m : Member) (r : Request α)
    (token : Option Token) (headers : Headers) : Except Error α × Session :=
  let v := r.verb
  let timeout := m.client.config.timeout
  let s := s.receive v headers
  let (w, s) := if v == Verb.watch then (.ready, s) else s.awaitAnswer timeout token
  match w with
  | .cancelled => (.error (.cancelled v.text), s)
  | .late =>
    let x : Except Error α := .error (.deadlineExceeded v.text timeout)
    (x, s.countFailure i v x)
  | .ready =>
    let (x, s) := s.answer r
    (x, s.countFailure i v x)

/-- Make a call, to the service of the session or to a script, with its deadline. `scripted` is what
a script answers. -/
def invoke {α β : Type} (s : Session) (i : Nat) (r : Request α) (token : Option Token)
    (ofAnswer : α → β) (scripted : Backend → Option β) : Except Error (β × Time) × Session :=
  match s.members[i]? with
  | none => (.error (.internal "no such client"), s)
  | some m =>
    match s.startCall i m r.verb token with
    | (.error e, s) => (.error e, s)
    | (.ok (headers, deadline), s) =>
      match m.backend with
      | .shared =>
        let (x, s) := s.finishCall i m r token headers
        (x.map fun a => (ofAnswer a, deadline), s)
      | backend =>
        match scripted backend with
        | some b => (.ok (b, deadline), s)
        | none =>
          let x : Except Error (β × Time) := .error unscripted
          (x, s.countFailure i r.verb x)

/-- Ask a list for a resource. -/
def pollList (s : Session) (st : ListStream) : Guarded WireResource × ListStream × Session :=
  let before := st.guard.isCancelled s.cancelled
  let expired := st.guard.isExpired s.now
  if before || expired then (Guard.step before expired .finished before, st, s)
  else
    let (p, source, ts) := st.source.pull s.now
    let s := s.cancelAll ts
    (Guard.step false false p (st.guard.isCancelled s.cancelled), { st with source }, s)

/-- Ask a watch for an event. -/
def pollWatch (s : Session) (st : WatchStream) : Guarded WireEvent × WatchStream × Session :=
  let before := st.guard.isCancelled s.cancelled
  let expired := st.guard.isExpired s.now
  if before || expired then (Guard.step before expired .finished before, st, s)
  else
    let (p, source, ts) := st.source.pull s.store.published s.now
    let s := s.cancelAll ts
    (Guard.step false false p (st.guard.isCancelled s.cancelled), { st with source }, s)

/-- Wait until a list may have something to yield. -/
def waitFor (s : Session) (g : Guard) (wake : Option Time) : Session :=
  if g.isCancelled s.cancelled then s
  else
    match s.nextWake [wake, g.deadline] with
    | some t => s.advanceTo t
    | none => s

/-- Read a list to its end. `acc` holds what has been read, last first. -/
def collectFrom : Nat → List WireResource → ListStream → Session →
    (List WireResource × Ending) × Session
  | 0, acc, _, s => ((acc.reverse, .finished), s)
  | fuel + 1, acc, st, s =>
    match s.pollList st with
    | (.item r, st, s) => collectFrom fuel (r :: acc) st s
    | (.ended e, _, s) => ((acc.reverse, e), s)
    | (.pending wake, st, s) => collectFrom fuel acc st (s.waitFor st.guard wake)

/-- Read a list to its end, waiting where it waits. -/
def collect (s : Session) (st : ListStream) : (List WireResource × Ending) × Session :=
  collectFrom (2 * st.source.size + s.timers.length + 4) [] st s

/-- Run the plan of a client. -/
def run {α : Type} (i : Nat) : Plan α → Session → Except Error α × Session
  | .done r, s => (r, s)
  | .note n rest, s => run i rest (s.note i n)
  | .call r rest, s =>
    let (x, s) := s.invoke i r none id fun _ => none
    run i (rest (x.map (·.1))) s
  | .openList q token rest, s =>
    let (x, s) := s.invoke i (.list q) token ListSource.page fun
      | .scripted lists _ => some (.script ⟨lists, none⟩)
      | .shared => none
    run i (rest x) s
  | .openWatch q token rest, s =>
    let (x, s) := s.invoke i (.watch q) token WatchSource.live fun
      | .scripted _ watches => some (.script ⟨watches, none⟩)
      | .shared => none
    run i (rest (x.map (·.1))) s
  | .collect st rest, s =>
    let (x, s) := s.collect st
    run i (rest x) s

end Fleet.Session
