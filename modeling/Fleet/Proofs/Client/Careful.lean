import Fleet.Proofs.Session.Interleaving
import Fleet.Proofs.Plan.Run

/-!
# Operations that read what they replace

Applying a resource and locking a machine read a resource, change it and put it back with the
version that was read.

* `Plan.Careful`: a plan whose updates replace nothing but what it has read itself.
* `apply_careful`, `setLocked_careful`: **applying and locking are careful.**
* `Use.careful`: so is every way to ask for them.
-/

namespace Fleet

/-- Keys with the versions that were read of them, the latest first. -/
abbrev Seen := List (Key × String)

namespace Request

variable {α : Type}

/-- What the answer to a call lets its caller know. -/
def learn : Request α → Except Error α → Seen
  | .get k, .ok w => [(k, w.metadata.version)]
  | _, _ => []

/-- A resource that was got carries the key that was asked for. -/
def Fits : Request α → Except Error α → Prop
  | .get k, .ok w => Key.of w.metadata = k
  | _, _ => True

/-- An update replaces a version that was read. -/
def Known (seen : Seen) : Request α → Prop
  | .update r v => (Key.of r.metadata, v) ∈ seen
  | _ => True

end Request

namespace Plan

variable {α β : Type}

/-- A plan whose updates replace nothing but what it has read itself, as long as the service answers
with what was asked for; `post` holds where it ends. -/
def Careful (post : Seen → Except Error α → Prop) : Plan α → Seen → Prop
  | done r, seen => post seen r
  | note _ p, seen => p.Careful post seen
  | call r rest, seen =>
    r.Known seen ∧ ∀ x, r.Fits x → (rest x).Careful post (r.learn x ++ seen)
  | openList _ _ rest, seen => ∀ x, (rest x).Careful post seen
  | openWatch _ _ rest, seen => ∀ x, (rest x).Careful post seen
  | collect _ rest, seen => ∀ x, (rest x).Careful post seen

variable {post : Seen → Except Error β → Prop} {seen : Seen}

/-- What comes after a plan, by how that ended. -/
def after (f : α → Plan β) : Except Error α → Plan β
  | .ok a => f a
  | .error e => fail e

/-- One careful plan after another. -/
theorem Careful.bind {p : Plan α} {f : α → Plan β}
    (h : p.Careful (fun seen r => (after f r).Careful post seen) seen) :
    (p >>= f).Careful post seen := by
  show (p.bind f).Careful post seen
  induction p generalizing seen with
  | done r => cases r <;> exact h
  | note n p ih => exact ih h
  | call r rest ih => exact ⟨h.1, fun x hx => ih x (h.2 x hx)⟩
  | openList q t rest ih => exact fun x => ih x (h x)
  | openWatch q t rest ih => exact fun x => ih x (h x)
  | collect st rest ih => exact fun x => ih x (h x)

theorem Careful.attempt {p : Plan α} {post : Seen → Except Error (Except Error α) → Prop}
    (h : p.Careful (fun seen r => post seen (.ok r)) seen) : p.attempt.Careful post seen := by
  induction p generalizing seen with
  | done r => exact h
  | note n p ih => exact ih h
  | call r rest ih => exact ⟨h.1, fun x hx => ih x (h.2 x hx)⟩
  | openList q t rest ih => exact fun x => ih x (h x)
  | openWatch q t rest ih => exact fun x => ih x (h x)
  | collect st rest ih => exact fun x => ih x (h x)

/-- A plan that starts with what is known already. -/
theorem Careful.ofExcept {r : Except Error α} {f : α → Plan β} (he : ∀ e, post seen (.error e))
    (hf : ∀ a, r = .ok a → (f a).Careful post seen) : (ofExcept r >>= f).Careful post seen := by
  cases r with
  | ok a => exact hf a rfl
  | error e => exact he e

end Plan

namespace Client

variable {c : Client} {K : Kind} {α : Type} {post : Seen → Except Error α → Prop} {seen : Seen}

/-- Resolving a namespace again changes nothing. -/
theorem resolve_resolve (ns : Option String) : c.resolve (some (c.resolve ns)) = c.resolve ns := by
  unfold resolve
  cases ns with
  | none => simp
  | some ns => by_cases h : ns.isEmpty <;> simp [h]

/-- A write that is careful behind its gate. -/
theorem gate_careful {operation type : String} {p : Unit → Plan α}
    (he : ∀ e, post seen (.error e)) (hp : (p ()).Careful post seen) :
    (c.refuseWrite operation type >>= p).Careful post seen := by
  unfold refuseWrite
  cases c.config.mode.check operation type with
  | ok u => exact hp
  | error e => exact he e

/-- Getting a resource lets its version be known. -/
theorem get_careful {id : String} {ns : Option String}
    {post : Seen → Except Error (Resource K) → Prop} (he : ∀ seen e, post seen (.error e))
    (hw : ∀ type w, c.registry.wireName K = .ok type →
      Key.of w.metadata = ⟨c.resolve ns, type, id⟩ →
      post ((⟨c.resolve ns, type, id⟩, w.metadata.version) :: seen) (.ok (Resource.ofWire K w).1)) :
    (c.get K id ns).Careful post seen := by
  unfold get
  split
  · exact he seen _
  · refine .ofExcept (he seen) fun type htype => .bind ⟨trivial, fun x hx => ?_⟩
    cases x with
    | error e => exact he seen e
    | ok w => exact hw type w htype hx

/-- Replacing a resource is careful if its version was read. -/
theorem update_careful {r : Resource K} {version : Option String}
    {post : Seen → Except Error (Resource K) → Prop} (hpost : ∀ seen x, post seen x)
    (hk : ∀ type, c.registry.wireName K = .ok type →
      ((⟨c.resolve (some r.metadata.ns), type, r.id⟩, version.getD r.version) : Key × String) ∈
        seen) : (c.update r version).Careful post seen := by
  refine .ofExcept (fun e => hpost _ _) fun type htype => gate_careful (fun e => hpost _ _) ?_
  refine .ofExcept (fun e => hpost _ _) fun w hw => .bind ⟨?_, fun x _ => ?_⟩
  · unfold prepare at hw
    split at hw
    · cases hw
    · cases hw; exact hk type htype
  · cases x <;> exact hpost _ _

theorem create_careful {r : Resource K} {post : Seen → Except Error (Resource K) → Prop}
    (hpost : ∀ seen x, post seen x) : (c.create r).Careful post seen := by
  refine .ofExcept (fun e => hpost _ _) fun type _ => gate_careful (fun e => hpost _ _) ?_
  refine .ofExcept (fun e => hpost _ _) fun w _ => .bind ⟨trivial, fun x _ => ?_⟩
  cases x <;> exact hpost _ _

/-- **Applying a resource is careful**: what it replaces has the version that it has just read. -/
theorem apply_careful {r : Resource K} {dryRun : Bool}
    {post : Seen → Except Error (Resource K) → Prop} (hpost : ∀ seen x, post seen x) :
    (c.apply r dryRun).Careful post seen := by
  refine .ofExcept (fun e => hpost _ _) fun type _ => gate_careful (fun e => hpost _ _) ?_
  refine .bind (.attempt (get_careful (fun seen e => ?_) fun type w htype _ => ?_))
  · show Plan.Careful post (if !e.isNotFound then _ else _) seen
    split
    · exact hpost _ _
    · split
      · exact hpost _ _
      · exact create_careful hpost
  · show Plan.Careful post (if dryRun then _ else _) _
    split
    · exact hpost _ _
    · refine update_careful hpost fun type' htype' => ?_
      rw [htype] at htype'
      cases htype'
      exact List.mem_cons_self

theorem applyYaml_careful {text : String} {dryRun : Bool}
    {post : Seen → Except Error (Resource K) → Prop} (hpost : ∀ seen x, post seen x) :
    (c.applyYaml K text dryRun).Careful post seen :=
  .ofExcept (fun _ => hpost _ _) fun _ _ =>
    .ofExcept (fun _ => hpost _ _) fun _ _ => apply_careful hpost

theorem applyFile_careful {name : String} {content : Except FileFault String} {dryRun : Bool}
    {post : Seen → Except Error (Resource K) → Prop} (hpost : ∀ seen x, post seen x) :
    (c.applyFile K name content dryRun).Careful post seen :=
  .ofExcept (fun _ => hpost _ _) fun _ _ => .ofExcept (fun _ => hpost _ _) fun _ _ =>
    .ofExcept (fun _ => hpost _ _) fun _ _ => apply_careful hpost

theorem applyEach_careful {dryRun : Bool} (rs : List (Resource K)) {seen : Seen}
    {post : Seen → Except Error (List (Resource K)) → Prop} (hpost : ∀ seen x, post seen x) :
    (c.applyEach K dryRun rs).Careful post seen := by
  induction rs generalizing seen post with
  | nil => exact hpost _ _
  | cons r rs ih =>
    refine .bind (apply_careful fun seen x => ?_)
    cases x with
    | error e => exact hpost _ _
    | ok applied =>
      refine .bind (ih fun seen x => ?_)
      cases x <;> exact hpost _ _

theorem applyYamlDocuments_careful {text : String} {dryRun : Bool}
    {post : Seen → Except Error (List (Resource K)) → Prop} (hpost : ∀ seen x, post seen x) :
    (c.applyYamlDocuments K text dryRun).Careful post seen :=
  .ofExcept (fun _ => hpost _ _) fun _ _ =>
    .ofExcept (fun _ => hpost _ _) fun rs _ => applyEach_careful rs hpost

/-- What a facade guards is careful if it is careful without the guard. -/
theorem guarded_careful {a : WriteAction} {p : Plan α} (hpost : ∀ seen x, post seen x)
    (hp : p.Careful post seen) : (Facade.guarded (⟨c⟩ : Facade K) a p).Careful post seen := by
  refine .bind (.ofExcept (fun e => hpost _ _) fun type _ => ?_)
  show ((c.refuseWrite a.operation type).Careful _ _)
  unfold refuseWrite
  cases c.config.mode.check a.operation type with
  | ok u => exact hp
  | error e => exact hpost _ _

/-- **Locking a machine is careful**: what it replaces is the machine that it has just read. -/
theorem setLocked_careful {a : WriteAction} {id : String} {ns : Option String} {locked : Bool}
    {post : Seen → Except Error (Resource .machine) → Prop} (hpost : ∀ seen x, post seen x) :
    (Facade.setLocked ⟨c⟩ a id ns locked).Careful post seen := by
  refine guarded_careful hpost (.bind (get_careful (fun seen e => hpost _ _) ?_))
  intro type w htype hw
  show Plan.Careful post (if _ then _ else _) _
  split
  · exact hpost _ _
  · refine update_careful hpost fun type' htype' => ?_
    rw [htype] at htype'
    cases htype'
    -- the namespace of the machine is resolved already, so it is asked for under the same key
    have hns : w.metadata.ns = c.resolve ns := congrArg Key.ns hw
    have hid : w.metadata.id = id := congrArg Key.id hw
    have hkey : (⟨c.resolve (some w.metadata.ns), type, w.metadata.id⟩ : Key) =
        ⟨c.resolve ns, type, id⟩ := by rw [hns, hid, resolve_resolve]
    exact hkey ▸ List.mem_cons_self

end Client

variable {K : Kind} {α : Type} {c : Client} {seen : Seen}

/-- The operation puts back what it has read. -/
def Operation.readsFirst : Operation K α → Bool
  | apply .. | applyYaml .. | applyYamlDocuments .. | applyFile .. => true
  | _ => false

/-- The operation puts back what it has read. -/
def FacadeOperation.readsFirst : FacadeOperation K α → Bool
  | apply .. | applyYaml .. | applyFile .. | lock .. | unlock .. => true
  | _ => false

/-- The use puts back what it has read. -/
def Use.readsFirst : Use → Bool
  | client op => op.readsFirst
  | facade op => op.readsFirst
  | register _ _ => false

theorem Operation.careful {op : Operation K α} (h : op.readsFirst = true) :
    (op.plan c).Careful (fun _ _ => True) seen := by
  cases op with
  | apply r dryRun => exact Client.apply_careful fun _ _ => trivial
  | applyYaml text dryRun => exact Client.applyYaml_careful fun _ _ => trivial
  | applyYamlDocuments text dryRun => exact Client.applyYamlDocuments_careful fun _ _ => trivial
  | applyFile name content dryRun => exact Client.applyFile_careful fun _ _ => trivial
  | get | list | listAll | watch | create | update | delete | deleteManyDetailed | deleteMany
  | deleteAll => cases h

theorem FacadeOperation.careful {op : FacadeOperation K α} (h : op.readsFirst = true) :
    (op.plan c).Careful (fun _ _ => True) seen := by
  have hpost {β : Type} : ∀ (_ : Seen) (_ : Except Error β), True := fun _ _ => trivial
  cases op with
  | apply r dryRun => exact Client.guarded_careful hpost (Client.apply_careful hpost)
  | applyYaml text dryRun => exact Client.guarded_careful hpost (Client.applyYaml_careful hpost)
  | applyFile name content dryRun =>
    exact Client.guarded_careful hpost (Client.applyFile_careful hpost)
  | lock id ns | unlock id ns => exact Client.setLocked_careful hpost
  | get | list | listAll | watch | create | update | delete | deleteMany | deleteAll => cases h

/-- **Whoever puts back what they have read** starts a careful plan. -/
theorem Use.careful {u : Use} {i : Nat} {t : Task} (ht : u.task? i c = some t)
    (h : t.use.readsFirst = true) : t.plan.Careful (fun _ _ => True) seen := by
  cases u with
  | client op => cases ht; exact Operation.careful h
  | facade op => cases ht; exact FacadeOperation.careful h
  | register K name => cases ht

end Fleet
