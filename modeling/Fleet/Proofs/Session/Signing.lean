import Fleet.Proofs.Session.Frame

/-!
# Signers and what they refuse

The signer of a client comes from outside. What a session does leaves it in its place, and a call
passes its errors on as they are.

* `SameSigners`: every member has the signer that it had.
* `SignerIs`: what is known of the signer of a member, and stays known.
* `invoke_sameSigners`: **a call leaves every signer in its place.**
* `invoke_outside`: **no call ends in an error of the client's own**, but for those of its signer.
-/

namespace Fleet.Session

variable {α β : Type} {s s' s'' : Session}

/-- Every member has the signer that it had. -/
def SameSigners (s s' : Session) : Prop :=
  s'.members.map Member.signer = s.members.map Member.signer

namespace SameSigners

theorem refl (s : Session) : SameSigners s s := rfl

theorem trans (h : SameSigners s s') (h' : SameSigners s' s'') : SameSigners s s'' := Eq.trans h' h

theorem of_later (h : Later s s') : SameSigners s s' := congrArg (List.map Member.signer) h.members

/-- A change of a member that keeps its signer. -/
theorem modifyMember {i : Nat} {f : Member → Member} (hf : ∀ m, (f m).signer = m.signer) :
    SameSigners s (s.modifyMember i f) := by
  refine List.ext_getElem? fun j => ?_
  rw [List.getElem?_map, List.getElem?_map]
  by_cases h : i = j
  · subst h
    rw [getElem?_modifyMember_self, Option.map_map]
    exact congrFun (congrArg Option.map (funext hf)) _
  · rw [getElem?_modifyMember_of_ne f h]

theorem note (i : Nat) (n : Notice) : SameSigners s (s.note i n) := modifyMember fun _ => rfl

theorem countFailure (i : Nat) (v : Verb) (x : Except Error α) :
    SameSigners s (s.countFailure i v x) := by
  cases x with
  | ok a => exact refl s
  | error e => exact modifyMember fun _ => rfl

end SameSigners

/-- What the signer of a member is known for, if there is such a member. -/
def SignerIs (i : Nat) (known : Signer → Prop) (s : Session) : Prop :=
  ∀ m, s.members[i]? = some m → known m.signer

namespace SignerIs

variable {i : Nat} {m : Member} {known : Signer → Prop}

theorem of_member (hm : s.members[i]? = some m) (h : known m.signer) : SignerIs i known s := by
  intro m' hm'
  rw [hm] at hm'
  cases hm'
  exact h

/-- It stays known. -/
theorem of_same (hs : SignerIs i known s) (h : SameSigners s s') : SignerIs i known s' := by
  intro m' hm'
  have hi : s'.members[i]?.map Member.signer = s.members[i]?.map Member.signer := by
    rw [← List.getElem?_map, ← List.getElem?_map]
    exact congrArg (·[i]?) h
  rw [hm'] at hi
  obtain ⟨m, hm, hsigner⟩ := Option.map_eq_some_iff.1 hi.symm
  exact hsigner ▸ hs m hm

end SignerIs

/-- A result that is no error of the client's own, unless the signer of a member has told it. -/
def Outside (i : Nat) (s : Session) (x : Except Error α) : Prop :=
  ∀ e, x = .error e → e.isLocal = false ∨
    ∃ m, s.members[i]? = some m ∧ ∃ earlier method given,
      m.signer.signAfter earlier method given = .error e

namespace Outside

variable {i : Nat} {x : Except Error α}

theorem ok (a : α) : Outside i s (.ok a) := nofun

theorem error {e : Error} (h : e.isLocal = false) : Outside i s (.error e : Except Error α) := by
  intro e' he
  cases he
  exact .inl h

theorem map (h : Outside i s x) (f : α → β) : Outside i s (x.map f) := by
  intro e he
  cases x with
  | ok a => cases he
  | error e' => cases he; exact h _ rfl

end Outside

theorem startCall_sameSigners (s : Session) (i : Nat) (m : Member) (v : Verb)
    (token : Option Token) : SameSigners s (s.startCall i m v token).2 := by
  have hsigned : SameSigners s (s.modifyMember i fun m => { m with signed := m.signed ++ [v] }) :=
    .modifyMember fun _ => rfl
  have hstart := startCall_started s i m v token
  generalize s.startCall i m v token = y at hstart ⊢
  cases hstart with
  | cancelled => exact .refl s
  | unsigned | overflow => exact hsigned
  | started => exact hsigned.trans (.modifyMember fun _ => rfl)

theorem finishCall_sameSigners (s : Session) (i : Nat) (m : Member) (r : Request α)
    (token : Option Token) (headers : Headers) :
    SameSigners s (s.finishCall i m r token headers).2 := by
  obtain ⟨s₁, hlater, h⟩ := finishCall_cases s i m r token headers
  have hreceived : SameSigners s s₁ :=
    SameSigners.of_later (s := s.receive r.verb headers) hlater
  rcases h with h | ⟨x, -, h⟩ | h
  · rw [h]
    exact hreceived
  · rw [h]
    exact hreceived.trans (.countFailure i _ _)
  · rw [h]
    exact hreceived.trans (.countFailure i _ _)

/-- **A call leaves every signer in its place.** -/
theorem invoke_sameSigners (s : Session) (i : Nat) (r : Request α) (token : Option Token)
    (f : α → β) (scripted : Backend → Option β) :
    SameSigners s (s.invoke i r token f scripted).2 := by
  have hstart : ∀ m, SameSigners s (s.startCall i m r.verb token).2 := fun m =>
    startCall_sameSigners s i m r.verb token
  have hcall := invoke_cases s i r token f scripted
  generalize s.invoke i r token f scripted = y at hcall ⊢
  cases hcall with
  | missing => exact .refl s
  | refused | scripted => exact hstart _
  | served => exact (hstart _).trans (finishCall_sameSigners _ i _ r token _)
  | unscripted => exact (hstart _).trans (.countFailure i r.verb _)

/-- A call that does not start ends in no error of the client's own, but for those of its signer. -/
theorem startCall_outside {i : Nat} {m : Member} (hm : s.members[i]? = some m) (v : Verb)
    (token : Option Token) : Outside i s (s.startCall i m v token).1 := by
  have hstart := startCall_started s i m v token
  generalize s.startCall i m v token = y at hstart ⊢
  cases hstart with
  | cancelled | overflow => exact .error rfl
  | unsigned _ hsigner =>
    -- what the signer says is passed on as it is
    intro e he
    cases he
    exact .inr ⟨m, hm, _, _, _, hsigner⟩
  | started => exact .ok _

theorem finishCall_outside (s₀ s : Session) (i : Nat) (m : Member) (r : Request α)
    (token : Option Token) (headers : Headers) :
    Outside i s₀ (s.finishCall i m r token headers).1 := by
  obtain ⟨s₁, -, h | ⟨x, rfl, h⟩ | h⟩ := finishCall_cases s i m r token headers
  · rw [h]
    exact .error rfl
  · rw [h]
    exact .error rfl
  · rw [h]
    show Outside i s₀ ((s₁.store.answer s₁.reading r).1.mapError Error.remote)
    cases (s₁.store.answer s₁.reading r).1 with
    | ok a => exact .ok a
    | error e => exact .error rfl

/-- **No call ends in an error of the client's own**, but for those of its signer. -/
theorem invoke_outside (i : Nat) (s : Session) (r : Request α) (token : Option Token) (f : α → β)
    (scripted : Backend → Option β) : Outside i s (s.invoke i r token f scripted).1 := by
  have hcall := invoke_cases s i r token f scripted
  generalize s.invoke i r token f scripted = y at hcall ⊢
  cases hcall with
  | missing => exact .error rfl
  | refused hm hstart =>
    intro e he
    cases he
    exact startCall_outside hm r.verb token _ hstart
  | served => exact (finishCall_outside s _ i _ r token _).map _
  | scripted => exact .ok _
  | unscripted => exact .error rfl

end Fleet.Session
