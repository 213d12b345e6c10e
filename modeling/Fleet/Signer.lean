import Fleet.Error
import Fleet.OrderedMap

/-!
# Signing requests

A request carries headers. Before it is sent its signer sees the method it calls and those headers;
it may change them, or refuse to sign.

* `Signer`: what signs the requests of a client, given from outside.
* `Signer.sign`: what it makes of the first request.
* `Signer.headers`, `Signer.failing`: a signer that adds headers, and one that refuses.
* `Signer.Signs`, `Signer.Refuses`: what signs every request, and what signs none.
* `Signer.FailsBy`: what the errors of a signer are known for.
* `Signer.Foreign`, `Signer.Ungated`: a signer whose errors are told from those of its client.
-/

namespace Fleet

/-- Headers by name. -/
abbrev Headers := OrderedMap String String

/-- What signs the requests of a client. A signer may keep in mind what it was given before. -/
structure Signer where
  /-- The headers of a signed request, or why it is not signed: by the methods of the requests
  before it, its own method and the headers it has. -/
  signAfter : List String → String → Headers → Except Error Headers

namespace Signer

/-- What a signer makes of the first request that it is given. -/
def sign (s : Signer) (method : String) (given : Headers) : Except Error Headers :=
  s.signAfter [] method given

/-- Adds headers to every request. They replace those of the same name. -/
def headers (added : Headers) : Signer := ⟨fun _ _ given => .ok (given.insertAll added.toList)⟩

/-- Refuses every request. -/
def failing (reason : String) : Signer := ⟨fun _ _ _ => .error (.internal reason)⟩

/-- Adds nothing. -/
def silent : Signer := headers ∅

instance : Inhabited Signer := ⟨silent⟩

/-- Adds a bearer token. -/
def bearer (token : String) : Signer :=
  headers (OrderedMap.empty.insert "authorization" ("Bearer " ++ token))

/-! ### What a signer may answer -/

/-- It signs every request. -/
def Signs (s : Signer) : Prop :=
  ∀ earlier method given, ∃ signed, s.signAfter earlier method given = .ok signed

/-- It signs no request, and never says that a resource is missing. -/
def Refuses (s : Signer) : Prop :=
  ∀ earlier method given, ∃ e, s.signAfter earlier method given = .error e ∧ e.isNotFound = false

/-- It signs every request or none. -/
def Steady (s : Signer) : Prop := s.Signs ∨ s.Refuses

/-- What each of its errors is known for. -/
def FailsBy (known : Error → Prop) (s : Signer) : Prop :=
  ∀ earlier method given e, s.signAfter earlier method given = .error e → known e

/-- Its errors are not the client's own. -/
def Foreign : Signer → Prop := FailsBy fun e => e.isLocal = false

/-- It never answers by the refusal of a write. -/
def Ungated : Signer → Prop := FailsBy fun e => e.isReadOnly = false

theorem headers_signs (added : Headers) : (headers added).Signs := fun _ _ _ => ⟨_, rfl⟩

theorem failing_refuses (reason : String) : (failing reason).Refuses := fun _ _ _ => ⟨_, rfl, rfl⟩

theorem Signs.ungated {s : Signer} (h : s.Signs) : s.Ungated := by
  intro earlier method given e he
  obtain ⟨signed, hs⟩ := h earlier method given
  rw [hs] at he
  cases he

end Signer

/-- The name under which clients introduce themselves. -/
def clientName : String := "fleet-resource-client"

/-- The version of clients. -/
def clientVersion : String := "0.2.0"

/-- The headers of a request before it is signed: who sends it. -/
def clientHeaders : Headers :=
  OrderedMap.empty.insert "x-fleet-client" (clientName ++ "/" ++ clientVersion)

end Fleet
