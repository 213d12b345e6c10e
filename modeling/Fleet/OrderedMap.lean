/-!
# Ordered maps

A map kept as a list of entries in strictly increasing key order, so a map is determined by what it
stores.

* `get?_insert_self`, `get?_insert_of_ne`: what storing a value does to a look-up.
* `get?_erase_self`, `get?_erase_of_ne`: what removing a key does to a look-up.
-/

namespace Fleet

/-- The keys of a list of entries strictly increase. -/
def Increasing {κ ν : Type} [Ord κ] (entries : List (κ × ν)) : Prop :=
  entries.Pairwise fun a b => compare a.1 b.1 = .lt

namespace Entries

variable {κ ν : Type} [Ord κ]

/-- The value stored under a key. -/
def get? (k : κ) : List (κ × ν) → Option ν
  | [] => none
  | e :: es => if compare k e.1 = .eq then some e.2 else get? k es

/-- Store a value under a key, in its place, replacing what was there. -/
def insert (k : κ) (v : ν) : List (κ × ν) → List (κ × ν)
  | [] => [(k, v)]
  | e :: es =>
    match compare k e.1 with
    | .lt => (k, v) :: e :: es
    | .eq => (k, v) :: es
    | .gt => e :: insert k v es

/-- Remove a key. -/
def erase (k : κ) (es : List (κ × ν)) : List (κ × ν) :=
  es.filter fun e => compare k e.1 != .eq

theorem mem_insert {k : κ} {v : ν} {a : κ × ν} {es : List (κ × ν)}
    (h : a ∈ insert k v es) : a = (k, v) ∨ a ∈ es := by
  induction es with
  | nil => simpa [insert] using h
  | cons e es ih =>
    unfold insert at h
    split at h
    · simpa using h
    · rcases List.mem_cons.1 h with h | h
      · exact Or.inl h
      · exact Or.inr (List.mem_cons_of_mem _ h)
    · rcases List.mem_cons.1 h with h | h
      · exact Or.inr (h ▸ List.mem_cons_self)
      · rcases ih h with h | h
        · exact Or.inl h
        · exact Or.inr (List.mem_cons_of_mem _ h)

theorem insert_increasing [Std.TransOrd κ] (k : κ) (v : ν) {es : List (κ × ν)}
    (h : Increasing es) : Increasing (insert k v es) := by
  induction es with
  | nil => exact List.pairwise_singleton _ _
  | cons e es ih =>
    obtain ⟨hhead, htail⟩ := List.pairwise_cons.1 h
    unfold insert
    split
    · rename_i hlt
      refine List.pairwise_cons.2 ⟨?_, h⟩
      intro a ha
      rcases List.mem_cons.1 ha with rfl | ha
      · exact hlt
      · exact Std.TransCmp.lt_trans hlt (hhead a ha)
    · rename_i heq
      exact List.pairwise_cons.2
        ⟨fun a ha => Std.TransCmp.lt_of_eq_of_lt heq (hhead a ha), htail⟩
    · rename_i hgt
      refine List.pairwise_cons.2 ⟨?_, ih htail⟩
      intro a ha
      rcases mem_insert ha with rfl | ha
      · exact Std.OrientedCmp.lt_of_gt hgt
      · exact hhead a ha

theorem erase_increasing (k : κ) {es : List (κ × ν)} (h : Increasing es) :
    Increasing (erase k es) :=
  List.Pairwise.sublist List.filter_sublist h

theorem filter_increasing (p : κ × ν → Bool) {es : List (κ × ν)} (h : Increasing es) :
    Increasing (es.filter p) :=
  List.Pairwise.sublist List.filter_sublist h

end Entries

/-- A map whose entries are in strictly increasing key order. -/
structure OrderedMap (κ ν : Type) [Ord κ] where
  entries : List (κ × ν)
  increasing : Increasing entries

namespace OrderedMap

variable {κ ν : Type} [Ord κ]

instance [DecidableEq κ] [DecidableEq ν] : DecidableEq (OrderedMap κ ν) := fun a b =>
  decidable_of_iff (a.entries = b.entries)
    ⟨fun h => by cases a; cases b; cases h; rfl, fun h => h ▸ rfl⟩

instance [Repr κ] [Repr ν] : Repr (OrderedMap κ ν) := ⟨fun m p => reprPrec m.entries p⟩

/-- The map without entries. -/
def empty : OrderedMap κ ν := ⟨[], List.Pairwise.nil⟩

instance : EmptyCollection (OrderedMap κ ν) := ⟨empty⟩
instance : Inhabited (OrderedMap κ ν) := ⟨empty⟩

/-- The value stored under a key. -/
def get? (m : OrderedMap κ ν) (k : κ) : Option ν := Entries.get? k m.entries

/-- The key is stored. -/
def contains (m : OrderedMap κ ν) (k : κ) : Bool := (m.get? k).isSome

/-- Store a value under a key, replacing what was there. -/
def insert [Std.TransOrd κ] (m : OrderedMap κ ν) (k : κ) (v : ν) : OrderedMap κ ν :=
  ⟨Entries.insert k v m.entries, Entries.insert_increasing k v m.increasing⟩

/-- Remove a key. -/
def erase (m : OrderedMap κ ν) (k : κ) : OrderedMap κ ν :=
  ⟨Entries.erase k m.entries, Entries.erase_increasing k m.increasing⟩

/-- The entries in key order. -/
def toList (m : OrderedMap κ ν) : List (κ × ν) := m.entries

/-- The keys in order. -/
def keys (m : OrderedMap κ ν) : List κ := m.entries.map (·.1)

/-- The values in key order. -/
def values (m : OrderedMap κ ν) : List ν := m.entries.map (·.2)

/-- The number of entries. -/
def size (m : OrderedMap κ ν) : Nat := m.entries.length

/-- Store each entry in turn: of two with one key the later stays. -/
def insertAll [Std.TransOrd κ] (m : OrderedMap κ ν) (es : List (κ × ν)) : OrderedMap κ ν :=
  es.foldl (fun m e => m.insert e.1 e.2) m

/-- The map of a list of entries: of two with one key the later stays. -/
def ofList [Std.TransOrd κ] (es : List (κ × ν)) : OrderedMap κ ν :=
  insertAll empty es

/-- Nothing is stored in the empty map. -/
@[simp] theorem get?_empty (k : κ) : (empty : OrderedMap κ ν).get? k = none := rfl

/-- A stored value is found under its key. -/
theorem get?_insert_self [Std.TransOrd κ] (m : OrderedMap κ ν) (k : κ) (v : ν) :
    (m.insert k v).get? k = some v := by
  obtain ⟨es, h⟩ := m
  simp only [get?, insert]
  clear h
  induction es with
  | nil => simp [Entries.insert, Entries.get?, Std.ReflCmp.compare_self]
  | cons e es ih =>
    unfold Entries.insert
    split
    · simp [Entries.get?, Std.ReflCmp.compare_self]
    · simp [Entries.get?, Std.ReflCmp.compare_self]
    · rename_i hgt
      simp [Entries.get?, hgt, ih]

/-- Storing under one key leaves every other key alone. -/
theorem get?_insert_of_ne [Std.TransOrd κ] (m : OrderedMap κ ν) {k j : κ} (v : ν)
    (hne : compare j k ≠ .eq) : (m.insert k v).get? j = m.get? j := by
  obtain ⟨es, h⟩ := m
  simp only [get?, insert]
  clear h
  induction es with
  | nil => simp [Entries.insert, Entries.get?, hne]
  | cons e es ih =>
    unfold Entries.insert
    split
    · simp [Entries.get?, hne]
    · rename_i heq
      have : compare j e.1 ≠ .eq := fun h =>
        hne (Std.TransCmp.eq_trans h (Std.OrientedCmp.eq_symm heq))
      simp [Entries.get?, hne, this]
    · simp [Entries.get?, ih]

/-- A removed key is no longer stored. -/
theorem get?_erase_self (m : OrderedMap κ ν) (k : κ) : (m.erase k).get? k = none := by
  obtain ⟨es, h⟩ := m
  simp only [get?, erase, Entries.erase]
  clear h
  induction es with
  | nil => rfl
  | cons e es ih =>
    by_cases he : compare k e.1 = .eq
    · simp [he, ih]
    · simp [Entries.get?, he, ih]

/-- Removing one key leaves every other key alone. -/
theorem get?_erase_of_ne [Std.TransOrd κ] (m : OrderedMap κ ν) {k j : κ} (hne : compare j k ≠ .eq) :
    (m.erase k).get? j = m.get? j := by
  obtain ⟨es, h⟩ := m
  simp only [get?, erase, Entries.erase]
  clear h
  induction es with
  | nil => rfl
  | cons e es ih =>
    by_cases he : compare k e.1 = .eq
    · have : compare j e.1 ≠ .eq := fun h =>
        hne (Std.TransCmp.eq_trans h (Std.OrientedCmp.eq_symm he))
      simp [Entries.get?, he, this, ih]
    · simp [Entries.get?, he, ih]

end OrderedMap

end Fleet
