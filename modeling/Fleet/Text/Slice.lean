/-!
# Slices

The parts of a text by the bytes they have in UTF-8.

* `byteSize`: the bytes of a text.
* `cutAt?`: a text cut in two at a byte.
* `slice?`: the part between two bytes; there is none if a byte is not at the edge of a character.
-/

namespace Fleet.Text

/-- The bytes of a text. -/
def byteSize : List Char → Nat
  | [] => 0
  | c :: s => c.utf8Size + byteSize s

/-- The text before byte `i` and the text from there on; `none` if the byte is inside a character or
past the end. -/
def cutAt? (i : Nat) : List Char → Option (List Char × List Char)
  | [] => if i = 0 then some ([], []) else none
  | c :: s =>
    if i = 0 then some ([], c :: s)
    else if c.utf8Size ≤ i then (cutAt? (i - c.utf8Size) s).map fun p => (c :: p.1, p.2)
    else none

/-- The text from byte `i` to byte `j`; `none` if they are not in order, or not both at the edge of
a character. -/
def slice? (i j : Nat) (s : List Char) : Option (List Char) :=
  if i ≤ j then do
    let (_, rest) ← cutAt? i s
    let (part, _) ← cutAt? (j - i) rest
    return part
  else none

@[simp] theorem byteSize_nil : byteSize [] = 0 := rfl

@[simp] theorem byteSize_append (u v : List Char) :
    byteSize (u ++ v) = byteSize u + byteSize v := by
  induction u with
  | nil => simp
  | cons c u ih => simp [byteSize, ih, Nat.add_assoc]

/-- The end of any start of a text is at the edge of a character. -/
theorem cutAt?_append (u v : List Char) : cutAt? (byteSize u) (u ++ v) = some (u, v) := by
  induction u with
  | nil => cases v <;> simp [cutAt?]
  | cons c u ih =>
    have hpos := c.utf8Size_pos
    have hne : byteSize (c :: u) ≠ 0 := by
      rw [byteSize]
      omega
    have hle : c.utf8Size ≤ byteSize (c :: u) := Nat.le_add_right _ _
    have hrest : byteSize (c :: u) - c.utf8Size = byteSize u := Nat.add_sub_cancel_left _ _
    rw [List.cons_append, cutAt?, if_neg hne, if_pos hle, hrest, ih]
    rfl

/-- A part of a text is the slice between its ends. -/
theorem slice?_append (u t v : List Char) :
    slice? (byteSize u) (byteSize (u ++ t)) (u ++ t ++ v) = some t := by
  have hle : byteSize u ≤ byteSize (u ++ t) := by
    rw [byteSize_append]
    exact Nat.le_add_right _ _
  have hrest : byteSize (u ++ t) - byteSize u = byteSize t := by
    rw [byteSize_append]
    exact Nat.add_sub_cancel_left _ _
  rw [slice?, if_pos hle, hrest, List.append_assoc, cutAt?_append]
  show (cutAt? (byteSize t) (t ++ v)).bind (fun p => some p.1) = some t
  rw [cutAt?_append]
  rfl

end Fleet.Text
