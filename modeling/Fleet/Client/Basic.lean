import Fleet.Client.Options
import Fleet.Config
import Fleet.Plan
import Fleet.Registry
import Fleet.Resource

/-!
# Clients

A client knows its configuration and the registered kinds. Its operations are plans.

* `Client.resolve`: the namespace of a call.
* `Client.refuseWrite`: the refusal of a write in read-only mode, which is counted.
* `Client.decode`: read an answer and count what was lost.
-/

namespace Fleet

/-- A client of the service. -/
structure Client where
  config : Config
  registry : Registry
  deriving DecidableEq, Repr

namespace Client

variable (c : Client)

/-- The namespace of a call: the given one, or the default one if it is empty or not given. -/
def resolve (ns : Option String) : String :=
  match ns with
  | some ns => if ns.isEmpty then c.config.defaultNamespace else ns
  | none => c.config.defaultNamespace

/-- The name of a kind at the service. -/
def wireName (K : Kind) : Plan String := .ofExcept (c.registry.wireName K)

/-- Refuse a write in read-only mode, and count the refusal. -/
def refuseWrite (operation type : String) : Plan Unit :=
  match c.config.mode.check operation type with
  | .ok () => .done (.ok ())
  | .error e => .note .rejectedWrite (.fail e)

section

variable {c} {K : Kind} {α : Type} {type : String}

theorem wireName_bind_ok (h : c.registry.wireName K = .ok type) (f : String → Plan α) :
    c.wireName K >>= f = f type := by
  rw [wireName, h]
  rfl

theorem wireName_bind_error {e : Error} (h : c.registry.wireName K = .error e)
    (f : String → Plan α) : c.wireName K >>= f = .fail e := by
  rw [wireName, h]
  rfl

/-- The gate of a client that may not write. -/
theorem refuseWrite_readOnly (h : c.config.mode = .readOnly) (operation type : String) :
    c.refuseWrite operation type = .note .rejectedWrite (.fail (.readOnly operation type)) := by
  rw [refuseWrite, h]
  rfl

/-- The gate of a client that may write. -/
theorem refuseWrite_readWrite (h : c.config.mode = .readWrite) (operation type : String) :
    c.refuseWrite operation type = .done (.ok ()) := by
  rw [refuseWrite, h]
  rfl

end

/-- Read a resource that was received, and count what was lost. -/
def decode (K : Kind) (w : WireResource) : Plan (Resource K) :=
  let r := Resource.ofWire K w
  .note (.lostStates r.2) (.done (.ok r.1))

/-- The id of a kind must not be empty. -/
def emptyId (K : Kind) : Error := .invalidArgument (.emptyId K.label)

/-- Refuse filters that cannot be read. -/
def checkFilters (selector : String) (idPattern : Option IdPattern) : Except Error Unit := do
  let _ ← (Selector.parse selector).mapError Error.invalidArgument
  match idPattern.filter (!·.text.isEmpty) with
  | none => return ()
  | some p =>
    if p.accepts?.isSome then return ()
    else .error (.invalidArgument (.badPattern p.text))

/-- The description of a client: its endpoint, its mode and the number of its kinds. -/
def description : String :=
  let mode := match c.config.mode with
    | .readOnly => "ReadOnly"
    | .readWrite => "ReadWrite"
  "ResourceClient \x7b endpoint: " ++ Text.quote c.config.endpoint ++ ", mode: " ++ mode ++
    ", kinds: " ++ Text.decimal c.registry.size ++ " \x7d"

end Client

end Fleet
