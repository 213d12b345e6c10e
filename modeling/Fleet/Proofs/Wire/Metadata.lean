import Fleet.Proofs.Wire.RoundTrip

/-!
# Metadata received and sent back

Phases and times on the wire are plain numbers, and some of them stand for nothing. Metadata that
were received and are sent back say all that they said, but for those.

* `WireTime.Kept`: the times that there are timestamps of, `kept_iff_representable`.
* `WireMetadata.ofMetadata_toMetadata`: **what is left of metadata that were received.**
* `WireMetadata.kept_eq_iff`: which metadata come back as they were.
* `Timestamp.before_toWire`: the order of times is that of the timestamps.
-/

namespace Fleet

/-- The time is within the calendar's years and has less than one second of nanoseconds, or less
than two where a leap second may follow: in the last second of a minute, also before 1970. -/
structure WireTime.Kept (t : WireTime) : Prop where
  earliest : -8334601228800 ≤ t.seconds
  latest : t.seconds ≤ 8210266876799
  nonneg : 0 ≤ t.nanos
  short : t.nanos < 2000000000
  leap : 1000000000 ≤ t.nanos → t.seconds.fmod 60 = 59

namespace WireTime

variable {t : WireTime}

instance (t : WireTime) : Decidable t.Kept :=
  decidable_of_iff (-8334601228800 ≤ t.seconds ∧ t.seconds ≤ 8210266876799 ∧ 0 ≤ t.nanos ∧
      t.nanos < 2000000000 ∧ (1000000000 ≤ t.nanos → t.seconds.fmod 60 = 59))
    ⟨fun h => ⟨h.1, h.2.1, h.2.2.1, h.2.2.2.1, h.2.2.2.2⟩,
      fun h => ⟨h.earliest, h.latest, h.nonneg, h.short, h.leap⟩⟩

theorem kept_iff_representable :
    t.Kept ↔ 0 ≤ t.nanos ∧ Representable t.seconds t.nanos.toNat := by
  have hmod : t.seconds.fmod 60 = t.seconds % 60 := Int.fmod_eq_emod_of_nonneg _ (by decide)
  constructor
  · intro h
    obtain ⟨hearliest, hlatest, hnonneg, hshort, hleap⟩ := h
    rw [hmod] at hleap
    refine ⟨hnonneg, hearliest, hlatest, ?_⟩
    by_cases hlong : 1000000000 ≤ t.nanos
    · exact .inr ⟨by omega, hleap hlong⟩
    · exact .inl (by omega)
  · rintro ⟨hnonneg, hearliest, hlatest, hnanos⟩
    refine ⟨hearliest, hlatest, hnonneg, by omega, fun hlong => ?_⟩
    rw [hmod]
    omega

end WireTime

namespace Timestamp

variable {t : WireTime} {x y : Timestamp}

/-- A time is read as the timestamp that it is the form of. -/
theorem ofWire?_eq_some_iff : ofWire? t = some x ↔ x.toWire = t := by
  constructor
  · intro h
    unfold ofWire? at h
    split at h
    · cases h
    · rename_i hnanos
      unfold of? at h
      split at h
      · cases h
        have hcast : (t.nanos.toNat : Int) = t.nanos := by omega
        rw [toWire, hcast]
      · cases h
  · rintro rfl
    exact x.ofWire?_toWire

theorem toWire_kept (x : Timestamp) : x.toWire.Kept := by
  rw [WireTime.kept_iff_representable]
  exact ⟨Int.natCast_nonneg x.nanos, x.valid⟩

/-- There is a timestamp of every time that is kept. -/
theorem exists_toWire (h : t.Kept) : ∃ x, ofWire? t = some x ∧ x.toWire = t := by
  obtain ⟨hnonneg, hvalid⟩ := WireTime.kept_iff_representable.1 h
  have hcast : (t.nanos.toNat : Int) = t.nanos := by omega
  have hwire : toWire ⟨t.seconds, t.nanos.toNat, hvalid⟩ = t := by rw [toWire, hcast]
  exact ⟨_, ofWire?_eq_some_iff.2 hwire, hwire⟩

/-- **A time that is received and sent back** is kept or dropped, and never changed. -/
theorem bind_ofWire?_map_toWire (o : Option WireTime) :
    (o.bind ofWire?).map toWire = o.filter (·.Kept) := by
  cases o with
  | none => rfl
  | some t =>
    rw [Option.bind_some, Option.filter_some]
    by_cases h : t.Kept
    · obtain ⟨x, hx, hwire⟩ := exists_toWire h
      rw [hx, if_pos (by simpa using h), Option.map_some, hwire]
    · have hnone : ofWire? t = none := by
        rw [Option.eq_none_iff_forall_ne_some]
        intro x hx
        rw [← ofWire?_eq_some_iff.1 hx] at h
        exact h x.toWire_kept
      rw [hnone, if_neg (by simpa using h), Option.map_none]

/-- **The order of times** is that of the timestamps. -/
theorem before_toWire (x y : Timestamp) : x.toWire.before y.toWire = x.before y := by
  have hnanos : decide ((x.nanos : Int) < y.nanos) = decide (x.nanos < y.nanos) :=
    decide_eq_decide.2 Int.ofNat_lt
  exact congrArg (x.seconds < y.seconds || x.seconds == y.seconds && ·) hnanos

theorem toWire_inj : x.toWire = y.toWire ↔ x = y := by
  constructor
  · intro h
    have hx := x.ofWire?_toWire
    rw [h, y.ofWire?_toWire] at hx
    exact (Option.some.inj hx).symm
  · rintro rfl
    rfl

end Timestamp

theorem Phase.toWire_ofWire (n : Int) : (Phase.ofWire n).toWire = if n = 1 then 1 else 0 := by
  unfold Phase.ofWire
  split <;> rfl

namespace WireMetadata

variable {w : WireMetadata}

/-- What is left of metadata that were received. -/
def kept (w : WireMetadata) : WireMetadata :=
  { w with
    phase := if w.phase = 1 then 1 else 0
    created := w.created.filter (·.Kept)
    updated := w.updated.filter (·.Kept) }

/-- **What is left** of metadata that were received and are sent back. -/
theorem ofMetadata_toMetadata (w : WireMetadata) : ofMetadata w.toMetadata = w.kept := by
  simp only [ofMetadata, toMetadata, Phase.toWire_ofWire, Timestamp.bind_ofWire?_map_toWire, kept]

theorem kept_eq_iff : w.kept = w ↔
    (w.phase = 0 ∨ w.phase = 1) ∧ (∀ t ∈ w.created, t.Kept) ∧ ∀ t ∈ w.updated, t.Kept := by
  have hphase : (if w.phase = 1 then 1 else 0) = w.phase ↔ w.phase = 0 ∨ w.phase = 1 := by
    split <;> omega
  have htime : ∀ o : Option WireTime, o.filter (·.Kept) = o ↔ ∀ t ∈ o, t.Kept := by
    intro o
    cases o <;> simp
  rw [← hphase, ← htime, ← htime]
  cases w
  simp [kept]

/-- **Metadata are lost only where they stand for nothing.** Metadata that were received and are
sent back say all that they said, but for phases other than 0 and 1, which become 0, and times that
there is no timestamp of, which are dropped. So they come back as they were exactly if there are
none of these, and what came back once comes back as it is. Times that are kept are in the order of
their timestamps. -/
theorem lost_where_unrepresentable (w : WireMetadata) :
    ofMetadata w.toMetadata =
      { w with
        phase := if w.phase = 1 then 1 else 0
        created := w.created.filter (·.Kept)
        updated := w.updated.filter (·.Kept) } ∧
    (ofMetadata w.toMetadata = w ↔
      (w.phase = 0 ∨ w.phase = 1) ∧ (∀ t ∈ w.created, t.Kept) ∧ ∀ t ∈ w.updated, t.Kept) ∧
    ofMetadata (ofMetadata w.toMetadata).toMetadata = ofMetadata w.toMetadata ∧
    ∀ t u : WireTime, t.Kept → u.Kept → ∃ x y,
      Timestamp.ofWire? t = some x ∧ Timestamp.ofWire? u = some y ∧
      x.before y = t.before u ∧ (x = y ↔ t = u) := by
  refine ⟨ofMetadata_toMetadata w, ?_, ?_, fun t u ht hu => ?_⟩
  · rw [ofMetadata_toMetadata]
    exact kept_eq_iff
  · rw [toMetadata_ofMetadata]
  · obtain ⟨x, hx, rfl⟩ := Timestamp.exists_toWire ht
    obtain ⟨y, hy, rfl⟩ := Timestamp.exists_toWire hu
    exact ⟨x, y, hx, hy, (x.before_toWire y).symm, Timestamp.toWire_inj.symm⟩

/-- Metadata with a phase of no name, and with the two last nanoseconds around a minute's end before
1970. -/
def borderline : WireMetadata :=
  ⟨"n", "t", "a", "1", "", -1, some ⟨-61, 1999999999⟩, some ⟨-60, 1000000000⟩, ["f"], ∅, ∅⟩

/-- The leap second before a minute begins is kept, and the one after it has begun is dropped. -/
theorem lost_where_unrepresentable_borderline :
    ofMetadata borderline.toMetadata =
      ⟨"n", "t", "a", "1", "", 0, some ⟨-61, 1999999999⟩, none, ["f"], ∅, ∅⟩ ∧
    ofMetadata borderline.toMetadata ≠ borderline ∧
    ∃ x y, Timestamp.ofWire? ⟨-61, 1999999999⟩ = some x ∧ Timestamp.ofWire? ⟨-60, 0⟩ = some y ∧
      x.before y = true := by
  obtain ⟨htrip, hlossless, -, horder⟩ := lost_where_unrepresentable borderline
  obtain ⟨x, y, hx, hy, hbefore, -⟩ := horder ⟨-61, 1999999999⟩ ⟨-60, 0⟩ (by decide) (by decide)
  refine ⟨htrip.trans (by decide), fun h => ?_, x, y, hx, hy, hbefore.trans (by decide)⟩
  obtain ⟨hphase, -⟩ := hlossless.1 h
  exact absurd hphase (by decide)

end WireMetadata

end Fleet
