import Fleet.Client.Facade
import Fleet.Session.Streams

/-!
# Operations as data

Everything that a caller can ask of a client or of a facade, each with the plan that carries it out,
and the run of any number of them by one member of a session.

* `Operation`, `FacadeOperation`: the operations, by the type of their results.
* `Session.useAll`: the run of a list of operations, with the errors they end in.
-/

namespace Fleet

/-- What a client can be asked. -/
inductive Operation (K : Kind) : Type → Type where
  | get (id : String) (ns : Option String) : Operation K (Resource K)
  | list (o : ListOptions) : Operation K ListStream
  | listAll (o : ListOptions) : Operation K (List (Resource K))
  | watch (o : WatchOptions) : Operation K WatchStream
  | create (r : Resource K) : Operation K (Resource K)
  | update (r : Resource K) (version : Option String) : Operation K (Resource K)
  | delete (id : String) (ns : Option String) : Operation K Unit
  | apply (r : Resource K) (dryRun : Bool) : Operation K (Resource K)
  | applyYaml (text : String) (dryRun : Bool) : Operation K (Resource K)
  | applyYamlDocuments (text : String) (dryRun : Bool) : Operation K (List (Resource K))
  | applyFile (name : String) (content : Except FileFault String) (dryRun : Bool) :
    Operation K (Resource K)
  | deleteManyDetailed (selector : String) (ns : Option String) : Operation K DeleteReport
  | deleteMany (selector : String) (ns : Option String) : Operation K Nat
  | deleteAll (ns : Option String) : Operation K Nat

namespace Operation

variable {K : Kind} {α : Type}

/-- The plan of an operation. -/
def plan (c : Client) : Operation K α → Plan α
  | get id ns => c.get K id ns
  | list o => c.list K o
  | listAll o => c.listAll K o
  | watch o => c.watch K o
  | create r => c.create r
  | update r version => c.update r version
  | delete id ns => c.delete K id ns
  | apply r dryRun => c.apply r dryRun
  | applyYaml text dryRun => c.applyYaml K text dryRun
  | applyYamlDocuments text dryRun => c.applyYamlDocuments K text dryRun
  | applyFile name content dryRun => c.applyFile K name content dryRun
  | deleteManyDetailed selector ns => c.deleteManyDetailed K selector ns
  | deleteMany selector ns => c.deleteMany K selector ns
  | deleteAll ns => c.deleteAll K ns

/-- The operation is a write. -/
def isWrite : Operation K α → Bool
  | get .. | list .. | listAll .. | watch .. => false
  | _ => true

end Operation

/-- What a facade can be asked. Only machines can be locked. -/
inductive FacadeOperation : Kind → Type → Type 1 where
  | get {K : Kind} (id : String) (ns : Option String) : FacadeOperation K (Resource K)
  | list {K : Kind} (o : ListOptions) : FacadeOperation K ListStream
  | listAll {K : Kind} (o : ListOptions) : FacadeOperation K (List (Resource K))
  | watch {K : Kind} (o : WatchOptions) : FacadeOperation K WatchStream
  | create {K : Kind} (r : Resource K) : FacadeOperation K (Resource K)
  | update {K : Kind} (r : Resource K) (version : Option String) : FacadeOperation K (Resource K)
  | delete {K : Kind} (id : String) (ns : Option String) : FacadeOperation K Unit
  | apply {K : Kind} (r : Resource K) (dryRun : Bool) : FacadeOperation K (Resource K)
  | applyYaml {K : Kind} (text : String) (dryRun : Bool) : FacadeOperation K (Resource K)
  | applyFile {K : Kind} (name : String) (content : Except FileFault String) (dryRun : Bool) :
    FacadeOperation K (Resource K)
  | deleteMany {K : Kind} (selector : String) (ns : Option String) : FacadeOperation K DeleteReport
  | deleteAll {K : Kind} (ns : Option String) : FacadeOperation K Nat
  | lock (id : String) (ns : Option String) : FacadeOperation .machine (Resource .machine)
  | unlock (id : String) (ns : Option String) : FacadeOperation .machine (Resource .machine)

namespace FacadeOperation

variable {K : Kind} {α : Type}

/-- The plan of an operation of a facade. -/
def plan (c : Client) : {K : Kind} → FacadeOperation K α → Plan α
  | K, get id ns => (⟨c⟩ : Facade K).get id ns
  | K, list o => (⟨c⟩ : Facade K).list o
  | K, listAll o => (⟨c⟩ : Facade K).listAll o
  | K, watch o => (⟨c⟩ : Facade K).watch o
  | _, create r => Facade.create ⟨c⟩ r
  | _, update r version => Facade.update ⟨c⟩ r version
  | K, delete id ns => (⟨c⟩ : Facade K).delete id ns
  | _, apply r dryRun => Facade.apply ⟨c⟩ r dryRun
  | K, applyYaml text dryRun => (⟨c⟩ : Facade K).applyYaml text dryRun
  | K, applyFile name content dryRun => (⟨c⟩ : Facade K).applyFile name content dryRun
  | K, deleteMany selector ns => (⟨c⟩ : Facade K).deleteMany selector ns
  | K, deleteAll ns => (⟨c⟩ : Facade K).deleteAll ns
  | _, lock id ns => Facade.lock ⟨c⟩ id ns
  | _, unlock id ns => Facade.unlock ⟨c⟩ id ns

/-- The operation is a write. -/
def isWrite : FacadeOperation K α → Bool
  | get .. | list .. | listAll .. | watch .. => false
  | _ => true

end FacadeOperation

/-- One use of a client. -/
inductive Use : Type 1 where
  | client {K : Kind} {α : Type} (op : Operation K α)
  /-- Through the facade of a kind. -/
  | facade {K : Kind} {α : Type} (op : FacadeOperation K α)
  /-- Register a kind under a name. -/
  | register (K : Kind) (name : String)

/-- The use is a write. -/
def Use.isWrite : Use → Bool
  | client op => op.isWrite
  | facade op => op.isWrite
  | register _ _ => false

/-- The error of a result, if it is one. -/
def errorOf {α : Type} : Except Error α → Option Error
  | .ok _ => none
  | .error e => some e

namespace Session

/-- Run the plan of a member's client; the error it ends in, if it fails. -/
def runFor {α : Type} (s : Session) (i : Nat) (p : Client → Plan α) : Option Error × Session :=
  match s.members[i]? with
  | some m => ((errorOf (run i (p m.client) s).1), (run i (p m.client) s).2)
  | none => (none, s)

/-- Use the client of a member once. -/
def use (s : Session) (i : Nat) : Use → Option Error × Session
  | .client op => s.runFor i op.plan
  | .facade op => s.runFor i op.plan
  | .register K name => (errorOf (s.register i K name).1, (s.register i K name).2)

/-- Use the client of a member again and again. -/
def useAll (s : Session) (i : Nat) : List Use → List (Option Error) × Session
  | [] => ([], s)
  | u :: us =>
    let (e, s) := s.use i u
    let (es, s) := s.useAll i us
    (e :: es, s)

end Session

end Fleet
