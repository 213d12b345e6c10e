import Fleet.Service.Feed

/-!
# Sources of items

Where the items of a stream come from: a list that was answered at once, a subscription, or a script
that also waits, fails and cancels.

* `Pull`: what a source answers when it is asked for an item.
* `Script.pull`: the next step of a script.
-/

namespace Fleet

/-- A moment, in nanoseconds since the session began. -/
abbrev Time := Nat

/-- The name of a token by which a caller ends streams and calls. -/
abbrev Token := String

/-- What a source answers when it is asked for an item. -/
inductive Pull (α : Type) where
  | item (a : α)
  | failed (e : Error)
  /-- There is nothing yet; `wake` is when there may be, if that is known. -/
  | pending (wake : Option Time)
  | finished
  deriving Repr

/-- One entry of a script. -/
inductive Cue (α : Type) where
  | item (a : α)
  | failure (s : Status)
  /-- Wait so long, from when the entry is reached. -/
  | wait (span : Time)
  /-- Cancel a token and go on. -/
  | cancel (token : Token)
  deriving DecidableEq, Repr

/-- A script that is being told. -/
structure Script (α : Type) where
  cues : List (Cue α)
  /-- The end of the wait at its front, once that has been reached. -/
  waiting : Option Time := none
  deriving DecidableEq, Repr

namespace Script

variable {α : Type}

/-- Go on from a front that has been reached, with the tokens that it cancels. -/
def pullFrom (now : Time) (waiting : Option Time) :
    List (Cue α) → Pull α × Script α × List Token
  | [] => (.finished, ⟨[], none⟩, [])
  | .item a :: cs => (.item a, ⟨cs, none⟩, [])
  | .failure s :: cs => (.failed (.remote s), ⟨cs, none⟩, [])
  | .cancel t :: cs =>
    let (p, s, ts) := pullFrom now none cs
    (p, s, t :: ts)
  | .wait span :: cs =>
    let deadline := waiting.getD (now + span)
    if deadline ≤ now then pullFrom now none cs
    else (.pending (some deadline), ⟨.wait span :: cs, some deadline⟩, [])

/-- The next step of a script, and the tokens that it cancels. -/
def pull (now : Time) (s : Script α) : Pull α × Script α × List Token :=
  pullFrom now s.waiting s.cues

end Script

/-- Where the resources of a list come from. -/
inductive ListSource where
  | page (rs : List WireResource)
  | script (s : Script WireResource)
  deriving DecidableEq, Repr

/-- Where the events of a watch come from. -/
inductive WatchSource where
  | live (s : Subscription)
  | script (s : Script WireEvent)
  deriving DecidableEq, Repr

namespace ListSource

/-- Ask for a resource. -/
def pull (now : Time) : ListSource → Pull WireResource × ListSource × List Token
  | page [] => (.finished, page [], [])
  | page (r :: rs) => (.item r, page rs, [])
  | script s =>
    let (p, s, ts) := s.pull now
    (p, script s, ts)

/-- How many steps are left at most. -/
def size : ListSource → Nat
  | page rs => rs.length
  | script s => s.cues.length

end ListSource

namespace WatchSource

/-- Ask for an event. -/
def pull (published : List WireEvent) (now : Time) :
    WatchSource → Pull WireEvent × WatchSource × List Token
  | live s =>
    match s.next? published with
    | (some e, s) => (.item e, live s, [])
    | (none, s) => (.pending none, live s, [])
  | script s =>
    let (p, s, ts) := s.pull now
    (p, script s, ts)

/-- The source hears of every event of the service. -/
def isLive : WatchSource → Bool
  | live _ => true
  | script _ => false

end WatchSource

end Fleet
