import Fleet.Schema.Binary
import Mathlib.Algebra.Group.Nat.Defs
import Mathlib.Tactic.Common

/-!
# Readers of bytes

A reader takes a value off the front of bytes. Everything is written so that its reader knows where
it ends: what follows is left alone, and what is cut off is nothing at all.

* `Steady`: a reader that what follows does not disturb.
* `Gives`: bytes from which a reader takes a value, whatever follows.
* `Steady.eq_none_of_proper`: **no proper part at the front of such bytes gives anything.**
* `Steady.readThen`, `Gives.readThen`: one reader after another.
* `gives_littleEndian`, `gives_text`, `Gives.counted`: numbers, texts and lists.
-/

namespace Fleet

open Text

variable {α β : Type}

/-- A reader that is not disturbed by what follows the bytes it reads. -/
def Steady (read : Bytes → Option (α × Bytes)) : Prop :=
  ∀ ⦃bs a rest⦄, read bs = some (a, rest) → ∀ more, read (bs ++ more) = some (a, rest ++ more)

/-- A reader takes a value from bytes and leaves what follows them. -/
def Gives (read : Bytes → Option (α × Bytes)) (bs : Bytes) (a : α) : Prop :=
  ∀ rest, read (bs ++ rest) = some (a, rest)

/-- One reader after another. -/
def readThen (read : Bytes → Option (α × Bytes)) (next : α → Bytes → Option (β × Bytes))
    (bs : Bytes) : Option (β × Bytes) :=
  (read bs).bind fun r => next r.1 r.2

namespace Steady

variable {read : Bytes → Option (α × Bytes)} {next : α → Bytes → Option (β × Bytes)}

/-- A reader that reads nothing. -/
theorem done (a : α) : Steady fun bs => some (a, bs) := by
  intro bs b rest h more
  cases h
  rfl

theorem failed : Steady fun _ => (none : Option (α × Bytes)) := nofun

theorem readThen (h : Steady read) (hnext : ∀ a, Steady (next a)) :
    Steady (readThen read next) := by
  intro bs b rest hr more
  obtain ⟨⟨a, mid⟩, ha, hb⟩ := Option.bind_eq_some_iff.1 hr
  rw [Fleet.readThen, h ha more]
  exact hnext a hb more

/-- A reader whose value is handed on in another form. -/
theorem thenDone (h : Steady read) (f : α → β) :
    Steady (Fleet.readThen read fun a bs => some (f a, bs)) :=
  h.readThen fun a => .done (f a)

theorem map (h : Steady read) (f : α → β) :
    Steady fun bs => (read bs).map fun r => (f r.1, r.2) := by
  intro bs b rest hr more
  obtain ⟨⟨a, mid⟩, ha, hb⟩ := Option.map_eq_some_iff.1 hr
  cases hb
  exact congrArg (Option.map fun r => (f r.1, r.2)) (h ha more)

/-- **Bytes that are cut off give nothing**: with what was cut off they would leave a rest. -/
theorem eq_none_of_proper (h : Steady read) {bs p : Bytes} {a : α} (hbs : Gives read bs a)
    (hp : p <+: bs) (hne : p ≠ bs) : read p = none := by
  obtain ⟨more, rfl⟩ := hp
  cases hr : read p with
  | none => rfl
  | some r =>
    obtain ⟨a', rest⟩ := r
    have hall := hbs []
    rw [List.append_nil, h hr more] at hall
    have hrest : rest ++ more = [] := congrArg Prod.snd (Option.some.inj hall)
    have hmore : more = [] := (List.append_eq_nil_iff.1 hrest).2
    rw [hmore, List.append_nil] at hne
    exact absurd rfl hne

end Steady

namespace Gives

variable {read : Bytes → Option (α × Bytes)} {next : α → Bytes → Option (β × Bytes)}
  {bs bs' : Bytes} {a : α} {b : β}

theorem done (a : α) : Gives (fun bs => some (a, bs)) [] a := fun _ => rfl

theorem readThen (h : Gives read bs a) (hnext : Gives (next a) bs' b) :
    Gives (readThen read next) (bs ++ bs') b := by
  intro rest
  rw [List.append_assoc, Fleet.readThen, h (bs' ++ rest)]
  exact hnext rest

theorem thenDone (h : Gives read bs a) (f : α → β) :
    Gives (Fleet.readThen read fun a bs => some (f a, bs)) bs (f a) := by
  intro rest
  rw [Fleet.readThen, h rest]
  rfl

theorem map (h : Gives read bs a) (f : α → β) :
    Gives (fun bs => (read bs).map fun r => (f r.1, r.2)) bs (f a) := fun rest =>
  congrArg (Option.map fun r => (f r.1, r.2)) (h rest)

end Gives

/-! ### Numbers and texts -/

theorem steady_littleEndian (width : Nat) : Steady (ofLittleEndian? width) := by
  induction width with
  | zero => exact .done 0
  | succ width ih =>
    intro bs n rest h more
    cases bs with
    | nil => cases h
    | cons b bs => exact ih.map (fun n => b.toNat + 256 * n) h more

theorem gives_littleEndian {width n : Nat} (h : n < 256 ^ width) :
    Gives (ofLittleEndian? width) (littleEndian width n) n := by
  induction width generalizing n with
  | zero =>
    rw [Nat.pow_zero, Nat.lt_one_iff] at h
    subst h
    exact .done 0
  | succ width ih =>
    have hdiv : n / 256 < 256 ^ width :=
      Nat.div_lt_of_lt_mul (by rwa [Nat.pow_succ, Nat.mul_comm] at h)
    have hlow : (UInt8.ofNat n).toNat + 256 * (n / 256) = n := by
      rw [UInt8.toNat_ofNat']
      exact Nat.mod_add_div n 256
    intro rest
    have := (ih hdiv).map (fun m => (UInt8.ofNat n).toNat + 256 * m) rest
    rw [hlow] at this
    exact this

/-- So many bytes, made into a value. -/
def taken (n : Nat) (make : Bytes → Option α) (bs : Bytes) : Option (α × Bytes) :=
  if bs.length < n then none else (make (bs.take n)).bind fun a => some (a, bs.drop n)

theorem steady_taken (n : Nat) (make : Bytes → Option α) : Steady (taken n make) := by
  intro bs a rest h more
  unfold taken at h ⊢
  split at h
  · cases h
  · rename_i hn
    have hle : n ≤ bs.length := Nat.le_of_not_lt hn
    obtain ⟨a', ha, h⟩ := Option.bind_eq_some_iff.1 h
    cases h
    rw [if_neg (by rw [List.length_append]; omega), List.take_append_of_le_length hle,
      List.drop_append_of_le_length hle, ha]
    rfl

theorem gives_taken {bs : Bytes} {make : Bytes → Option α} {a : α} (h : make bs = some a) :
    Gives (taken bs.length make) bs a := by
  intro rest
  unfold taken
  rw [if_neg (by rw [List.length_append]; omega), List.take_left, List.drop_left, h]
  rfl

theorem ofBytes?_toBytes (t : String) : Text.ofBytes? (Text.toBytes t) = some t := by
  have hbytes : (⟨(Text.toBytes t).toArray⟩ : ByteArray) = t.toByteArray := rfl
  rw [Text.ofBytes?, hbytes, String.fromUTF8?, dif_pos t.isValidUTF8]
  rfl

/-- A text whose length is written in eight bytes, as that of every text in memory is. -/
def Measured (t : String) : Prop := (Text.toBytes t).length < 256 ^ 8

theorem textOfBytes?_eq :
    textOfBytes? = readThen (ofLittleEndian? 8) fun n => taken n Text.ofBytes? := rfl

theorem steady_text : Steady textOfBytes? := by
  rw [textOfBytes?_eq]
  exact (steady_littleEndian 8).readThen fun n => steady_taken n _

theorem gives_text {t : String} (h : Measured t) : Gives textOfBytes? (textBytes t) t := by
  rw [textOfBytes?_eq]
  exact (gives_littleEndian h).readThen (gives_taken (ofBytes?_toBytes t))

theorem le_length_textBytes (t : String) : 8 ≤ (textBytes t).length := by
  have hlength : ∀ width n, (littleEndian width n).length = width := by
    intro width
    induction width with
    | zero => exact fun n => rfl
    | succ width ih => exact fun n => congrArg (· + 1) (ih (n / 256))
  rw [textBytes, List.length_append, hlength]
  exact Nat.le_add_right _ _

/-! ### Lists -/

section Lists

variable {read : Bytes → Option (α × Bytes)} {write : α → Bytes}

theorem repeated?_succ (n : Nat) : repeated? read (n + 1) =
    readThen read fun a => readThen (repeated? read n) fun as bs => some (a :: as, bs) := rfl

theorem Steady.repeated (h : Steady read) (n : Nat) : Steady (repeated? read n) := by
  induction n with
  | zero => exact .done []
  | succ n ih =>
    rw [repeated?_succ]
    exact h.readThen fun a => ih.thenDone (a :: ·)

theorem Gives.repeated {as : List α} (h : ∀ a ∈ as, Gives read (write a) a) :
    Gives (repeated? read as.length) (as.flatMap write) as := by
  induction as with
  | nil => exact .done []
  | cons a as ih =>
    rw [List.length_cons, repeated?_succ]
    exact (h a List.mem_cons_self).readThen
      ((ih fun b hb => h b (List.mem_cons_of_mem a hb)).thenDone (a :: ·))

/-- So many items, if there are as many bytes: none takes up less than one. -/
def items (read : Bytes → Option (α × Bytes)) (n : Nat) (bs : Bytes) : Option (List α × Bytes) :=
  if bs.length < n then none else repeated? read n bs

theorem counted?_eq : counted? read = readThen (ofLittleEndian? 8) (items read) := rfl

theorem Steady.counted (h : Steady read) : Steady (counted? read) := by
  rw [counted?_eq]
  refine (steady_littleEndian 8).readThen fun n bs as rest hr more => ?_
  unfold items at hr ⊢
  split at hr
  · cases hr
  · rename_i hn
    rw [if_neg (by rw [List.length_append]; omega)]
    exact h.repeated n hr more

/-- Items that take up at least a byte each. -/
theorem Gives.counted {as : List α} (hcount : as.length < 256 ^ 8)
    (h : ∀ a ∈ as, Gives read (write a) a) (hwrite : ∀ a, 0 < (write a).length) :
    Gives (counted? read) (littleEndian 8 as.length ++ as.flatMap write) as := by
  have hlength : as.length ≤ (as.flatMap write).length := by
    clear hcount h
    induction as with
    | nil => exact Nat.zero_le _
    | cons a as ih =>
      have ha := hwrite a
      rw [List.flatMap_cons, List.length_append, List.length_cons]
      omega
  rw [counted?_eq]
  refine (gives_littleEndian hcount).readThen fun rest => ?_
  unfold items
  rw [if_neg (by rw [List.length_append]; omega)]
  exact Gives.repeated h rest

end Lists

/-! ### Values -/

theorem steady_flag : Steady flagOfBytes? := by
  intro bs b rest h more
  unfold flagOfBytes? at h
  split at h
  · cases h; rfl
  · cases h; rfl
  · cases h

theorem gives_flag (b : Bool) : Gives flagOfBytes? [if b then 1 else 0] b := by
  cases b <;> exact fun rest => rfl

theorem steady_parsed (parse? : String → Option α) : Steady (parsedOfBytes? parse?) := by
  have hread : parsedOfBytes? parse? =
      readThen textOfBytes? fun t bs => (parse? t).bind fun a => some (a, bs) := rfl
  rw [hread]
  refine steady_text.readThen fun t => ?_
  cases parse? t with
  | none => exact .failed
  | some a => exact .done a

/-- The choice of an index, if there is one. -/
def chosen (n i : Nat) (bs : Bytes) : Option (Fin n × Bytes) :=
  if h : i < n then some (⟨i, h⟩, bs) else none

theorem choiceOfBytes?_eq (n : Nat) :
    choiceOfBytes? n = readThen (ofLittleEndian? 4) (chosen n) := rfl

theorem steady_choice (n : Nat) : Steady (choiceOfBytes? n) := by
  rw [choiceOfBytes?_eq]
  refine (steady_littleEndian 4).readThen fun i bs j rest h more => ?_
  unfold chosen at h ⊢
  split at h
  · rename_i hi
    cases h
    exact dif_pos hi
  · cases h

theorem gives_choice {n : Nat} (hn : n ≤ 256 ^ 4) (i : Fin n) :
    Gives (choiceOfBytes? n) (littleEndian 4 i.val) i := by
  intro rest
  rw [choiceOfBytes?_eq, readThen, gives_littleEndian (Nat.lt_of_lt_of_le i.isLt hn) rest]
  exact dif_pos i.isLt

theorem entryOfBytes?_eq : entryOfBytes? =
    readThen textOfBytes? fun k => readThen textOfBytes? fun v bs => some ((k, v), bs) := rfl

theorem steady_entry : Steady entryOfBytes? := by
  rw [entryOfBytes?_eq]
  exact steady_text.readThen fun k => steady_text.thenDone (k, ·)

theorem gives_entry {e : String × String} (hk : Measured e.1) (hv : Measured e.2) :
    Gives entryOfBytes? (textBytes e.1 ++ textBytes e.2) e := by
  rw [entryOfBytes?_eq]
  exact (gives_text hk).readThen ((gives_text hv).thenDone (e.1, ·))

end Fleet
