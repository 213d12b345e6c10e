import Fleet.Proofs.Client.ReadOnly
import Fleet.Proofs.Plan.Run

/-!
# What facades forward

A facade hands what it is asked on to its client, each write behind a guard of its own. The client
checks the same again, but it reads a document first.

* `FacadeOperation.forward?`, `FacadeOperation.plan_eq`: what is handed on, and that there is
  nothing but the guard before it.
* `Operation.plan_readOnly`: how each write of a client in read-only mode ends.
* `facade_agrees`: **a facade does what its client does**, unless a document cannot be read and the
  client may not write: then the facade refuses the write and the client refuses the document.
* `facade_refuses_unread`: the two refusals of one file.
-/

namespace Fleet

/-- The write that an operation is. -/
def Operation.action? {K : Kind} {α : Type} : Operation K α → Option WriteAction
  | get .. | list .. | listAll .. | watch .. => none
  | create .. => some .create
  | update .. => some .update
  | delete .. => some .delete
  | apply .. | applyYaml .. | applyYamlDocuments .. | applyFile .. => some .apply
  | deleteManyDetailed .. | deleteMany .. | deleteAll .. => some .deleteMany

/-- Why the documents of an operation cannot be read. -/
def Operation.misread? {K : Kind} {α : Type} (type : String) : Operation K α → Option Error
  | applyYaml text _ => errorOf (Document.ofYaml K "yaml document" type text)
  | applyYamlDocuments text _ => errorOf (Document.ofYamlStream K "yaml stream" type text)
  | applyFile name content _ => errorOf do
    let text ← content.mapError Error.file
    (if Document.isJsonName name then Document.ofJson K else Document.ofYaml K) name type text
  | _ => none

/-- What a facade hands on to its client. Locking is its own. -/
def FacadeOperation.forward? :
    {K : Kind} → {α : Type} → FacadeOperation K α → Option (Operation K α)
  | _, _, get id ns => some (.get id ns)
  | _, _, list o => some (.list o)
  | _, _, listAll o => some (.listAll o)
  | _, _, watch o => some (.watch o)
  | _, _, create r => some (.create r)
  | _, _, update r version => some (.update r version)
  | _, _, delete id ns => some (.delete id ns)
  | _, _, apply r dryRun => some (.apply r dryRun)
  | _, _, applyYaml text dryRun => some (.applyYaml text dryRun)
  | _, _, applyFile name content dryRun => some (.applyFile name content dryRun)
  | _, _, deleteMany selector ns => some (.deleteManyDetailed selector ns)
  | _, _, deleteAll ns => some (.deleteAll ns)
  | _, _, lock .. | _, _, unlock .. => none

namespace Client

variable {c : Client} {K : Kind} {α : Type} {type : String} {e : Error}

/-- What is read comes first, and what goes on from all that can be read is the same. -/
theorem ofExcept_bind_eq {β : Type} {r : Except Error β} {f : β → Plan α} {p : Plan α}
    (h : ∀ b, r = .ok b → f b = p) :
    Plan.ofExcept r >>= f = ((errorOf r).map Plan.fail).getD p := by
  cases r with
  | ok b => exact h b rfl
  | error e => rfl

/-- The refusal of a write, and its count. -/
def refusal (a : WriteAction) (type : String) : Plan α :=
  .note .rejectedWrite (.fail (.readOnly a.operation type))

/-- The gate of a client that may not write comes before all else that a write does. -/
theorem gate_eq_refusal (hc : c.config.mode = .readOnly) (h : c.registry.wireName K = .ok type)
    (a : WriteAction) (f : String → Unit → Plan α) :
    (c.wireName K >>= fun type => c.refuseWrite a.operation type >>= f type) = refusal a type := by
  rw [wireName_bind_ok h, refuseWrite_readOnly hc]
  rfl

variable {a : WriteAction} {p : Plan α}

theorem guarded_unregistered (h : c.registry.wireName K = .error e) :
    Facade.guarded (⟨c⟩ : Facade K) a p = .fail e :=
  congrArg (Plan.bind · _) (wireName_bind_error (c := c) h _)

theorem guarded_readWrite (hc : c.config.mode = .readWrite)
    (h : c.registry.wireName K = .ok type) (a : WriteAction) (p : Plan α) :
    Facade.guarded (⟨c⟩ : Facade K) a p = p :=
  congrArg (Plan.bind · _)
    ((wireName_bind_ok (c := c) h _).trans (refuseWrite_readWrite hc a.operation type))

theorem guarded_readOnly (hc : c.config.mode = .readOnly) (h : c.registry.wireName K = .ok type) :
    Facade.guarded (⟨c⟩ : Facade K) a p = refusal a type :=
  congrArg (Plan.bind · _)
    ((wireName_bind_ok (c := c) h _).trans (refuseWrite_readOnly hc a.operation type))

end Client

namespace Operation

variable {c : Client} {K : Kind} {α : Type} {op : Operation K α} {a : WriteAction} {type : String}

/-- A write of a kind that is not registered ends at once. -/
theorem plan_unregistered {e : Error} (h : c.registry.wireName K = .error e)
    (ha : op.action? = some a) : op.plan c = .fail e := by
  cases op with
  | get | list | listAll | watch => cases ha
  | create | update | delete | apply | applyYaml | applyYamlDocuments | applyFile
  | deleteManyDetailed => exact Client.wireName_bind_error h _
  | deleteMany selector ns =>
    exact congrArg (Plan.bind · _) (Client.wireName_bind_error (c := c) h _)
  | deleteAll ns => exact congrArg (Plan.bind · _) (Client.wireName_bind_error (c := c) h _)

/-- **How a write of a client in read-only mode ends**: by what is wrong with its documents, or else
by the refusal of the write. -/
theorem plan_readOnly (hc : c.config.mode = .readOnly) (h : c.registry.wireName K = .ok type)
    (ha : op.action? = some a) :
    op.plan c = ((op.misread? type).map Plan.fail).getD (Client.refusal a type) := by
  have happly : ∀ r dryRun, c.apply (K := K) r dryRun = Client.refusal .apply type :=
    fun r dryRun => Client.gate_eq_refusal hc h .apply _
  cases op with
  | get | list | listAll | watch => cases ha
  | create | update | delete | apply | deleteManyDetailed =>
    cases ha
    exact Client.gate_eq_refusal hc h _ _
  | deleteMany selector ns | deleteAll ns =>
    cases ha
    exact congrArg (Plan.bind · _) (Client.gate_eq_refusal (c := c) hc h .deleteMany _)
  | applyYaml text dryRun =>
    cases ha
    exact (Client.wireName_bind_ok h _).trans (Client.ofExcept_bind_eq fun r _ => happly r dryRun)
  | applyYamlDocuments text dryRun =>
    cases ha
    refine (Client.wireName_bind_ok h _).trans (Client.ofExcept_bind_eq fun rs hrs => ?_)
    -- the first document is refused, and there is one
    cases rs with
    | nil => exact absurd hrs (Client.noRefusal_ofYamlStream _ type text).2
    | cons r rs => exact congrArg (Plan.bind · _) (happly r dryRun)
  | applyFile name content dryRun =>
    cases ha
    refine (Client.wireName_bind_ok h _).trans ?_
    cases content with
    | error fault => rfl
    | ok text =>
      show (Plan.ofExcept (_ : Except Error (Resource K)) >>= fun r => c.apply r dryRun) = _
      exact Client.ofExcept_bind_eq fun r _ => happly r dryRun

/-- Only what is applied is read. -/
theorem action?_of_misread? {e : Error} (h : op.misread? type = some e) :
    op.action? = some .apply := by
  cases op with
  | applyYaml | applyYamlDocuments | applyFile => rfl
  | get | list | listAll | watch | create | update | delete | apply | deleteManyDetailed
  | deleteMany | deleteAll => cases h

/-- The documents of an operation cannot be read, and the client may not write anyway. -/
structure Unread (c : Client) (op : Operation K α) (type : String) (e : Error) : Prop where
  readOnly : c.config.mode = .readOnly
  registered : c.registry.wireName K = .ok type
  misread : op.misread? type = some e

end Operation

namespace FacadeOperation

variable {c : Client} {K : Kind} {α : Type} {op : FacadeOperation K α} {g : Operation K α}

/-- **Nothing but a guard comes before what a facade hands on.** -/
theorem plan_eq (h : op.forward? = some g) : op.plan c =
    match g.action? with
    | none => g.plan c
    | some a => Facade.guarded (⟨c⟩ : Facade K) a (g.plan c) := by
  cases op with
  | lock | unlock => cases h
  | get | list | listAll | watch | create | update | delete | apply | applyYaml | applyFile
  | deleteMany | deleteAll => cases h; rfl

/-- **A facade plans what its client plans**, unless a document cannot be read and the client may
not write. -/
theorem plan_agrees (h : op.forward? = some g) (hg : ¬∃ type e, g.Unread c type e) :
    op.plan c = g.plan c := by
  rw [plan_eq h]
  cases ha : g.action? with
  | none => rfl
  | some a =>
    dsimp only
    -- the guard looks the kind up and checks the mode, as the write behind it does
    cases hw : c.registry.wireName K with
    | error e => rw [Client.guarded_unregistered hw, Operation.plan_unregistered hw ha]
    | ok type =>
      cases hc : c.config.mode with
      | readWrite => exact Client.guarded_readWrite hc hw a _
      | readOnly =>
        rw [Client.guarded_readOnly hc hw, Operation.plan_readOnly hc hw ha]
        cases hm : g.misread? type with
        | none => rfl
        | some e => exact absurd ⟨type, e, hc, hw, hm⟩ hg

end FacadeOperation

namespace Session

variable {c : Client} {K : Kind} {α : Type} {op : FacadeOperation K α} {g : Operation K α}

/-- **A facade does what its client does**, in either mode, with any registry, at any session and
with any arguments: it ends in the same value or error and leaves the same session, with all that is
stored, received, signed and counted. The one exception is a document or a file that cannot be read
where the client may not write: there the facade refuses the write and counts the refusal, and the
client refuses the document and counts nothing. -/
theorem facade_agrees (h : op.forward? = some g) (i : Nat) (s : Session) :
    (∀ type e, g.Unread c type e →
      run i (op.plan c) s =
        (.error (.readOnly WriteAction.apply.operation type), s.note i .rejectedWrite) ∧
      run i (g.plan c) s = (.error e, s)) ∧
    ((¬∃ type e, g.Unread c type e) → run i (op.plan c) s = run i (g.plan c) s) := by
  constructor
  · intro type e hg
    have ha := Operation.action?_of_misread? hg.misread
    constructor
    · rw [FacadeOperation.plan_eq h, ha]
      dsimp only
      rw [Client.guarded_readOnly hg.readOnly hg.registered]
      rfl
    · rw [Operation.plan_readOnly hg.readOnly hg.registered ha, hg.misread]
      rfl
  · intro hg
    rw [FacadeOperation.plan_agrees h hg]

/-- A file that is missing, read for a client that may not write. -/
theorem facade_agrees_missing :
    let s := start 4 [reader]
    run 0 ((FacadeOperation.applyFile (K := .machine) "m1.yaml" (.error .notFound) false).plan
      reader.client) s =
        (.error (.readOnly "Update" "Machines.fleet.dev"), s.note 0 .rejectedWrite) ∧
    run 0 ((Operation.applyFile (K := .machine) "m1.yaml" (.error .notFound) false).plan
      reader.client) s = (.error (.file .notFound), s) := by
  intro s
  exact (facade_agrees rfl 0 s).1 _ _ ⟨rfl, rfl, rfl⟩

/-- **A facade and its client differ** over a file that is missing, if the client may not write. -/
theorem facade_refuses_unread :
    ¬∀ (c : Client) (K : Kind) (α : Type) (op : FacadeOperation K α) (g : Operation K α),
      op.forward? = some g → ∀ i s, run i (op.plan c) s = run i (g.plan c) s := by
  intro h
  have hrun := h reader.client .machine _ (.applyFile "m1.yaml" (.error .notFound) false) _ rfl 0
    (start 4 [reader])
  have herror := congrArg (fun r => (errorOf r.1).map Error.isReadOnly) hrun
  have hne : some true ≠ some false := by decide
  exact hne herror

end Session

end Fleet
