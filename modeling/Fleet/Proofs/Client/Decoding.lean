import Fleet.Client.Read
import Fleet.Proofs.Plan.Run
import Fleet.Proofs.Session.Serving
import Fleet.Proofs.Wire.RoundTrip

/-!
# Reading what was received

* `run_decode`, `run_decodeAll`: what is read, and what is counted as lost.
* `decode_toWire`: **a resource that is sent is read as it was**, and nothing is counted.
-/

namespace Fleet.Session

variable {K : Kind} {i : Nat} {s : Session}

/-- Where nothing is lost, nothing is counted. -/
@[simp] theorem note_nothing (i : Nat) (s : Session) : s.note i (.lostStates 0) = s := by
  have hmembers : s.members.modify i (fun m =>
      { m with metrics := m.metrics.note (.lostStates 0) }) = s.members :=
    List.modify_id i s.members
  rw [note, modifyMember, hmembers]

/-- What is read of a resource, and how much of it is counted as lost. -/
theorem run_decode (w : WireResource) (s : Session) :
    run i (Client.decode K w) s =
      (.ok (Resource.ofWire K w).1, s.note i (.lostStates (Resource.ofWire K w).2)) := rfl

/-- Resources are read one after the other. -/
theorem run_decodeAll (ws : List WireResource) (s : Session) :
    run i (Client.decodeAll K ws) s = (.ok (ws.map fun w => (Resource.ofWire K w).1),
      ws.foldl (fun s w => s.note i (.lostStates (Resource.ofWire K w).2)) s) := by
  induction ws generalizing s with
  | nil => rfl
  | cons w ws ih =>
    unfold Client.decodeAll
    rw [Plan.bind_eq, run_bind, run_decode, andThen_ok, Plan.bind_eq, run_bind, ih]
    rfl

/-- **A resource of a built-in kind that is sent is read as it was**, whatever it says and whether
its reported state is known, and nothing is counted as lost. -/
theorem decode_toWire (hK : K ∈ Registry.builtinKinds) (r : Resource K) (i : Nat) (s : Session) :
    run i (Client.decode K r.toWire) s = (.ok r, s) := by
  have hread := Resource.ofWire_toWire (isDocument_of_mem_builtinKinds hK) r
  rw [run_decode, hread, note_nothing]

/-- A machine that says what text formats could take for something else. -/
def trickyMachine : Resource .machine where
  metadata := { Metadata.named "~" "null" with
    version := "1e3"
    owner := "line\nline\n"
    phase := .tearingDown
    created := some ⟨59, 1999999999, by decide⟩
    finalizers := ["", "- x: #y"]
    labels := .ofList [("true", "0x1F"), ("\x01", "é\t ")] }
  spec := ⟨"\n: {}\r\n\x00", true⟩
  status := some ⟨" \"'|", .worker, false⟩

/-- It survives as well. -/
theorem decode_toWire_tricky :
    run 0 (Client.decode .machine trickyMachine.toWire) (start 4 [writer]) =
      (.ok trickyMachine, start 4 [writer]) :=
  decode_toWire (.tail _ (.head _)) trickyMachine 0 (start 4 [writer])

end Fleet.Session
