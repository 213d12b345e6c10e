import Fleet.Pattern.Escape

/-!
# Classes in brackets

A class is a union of characters, ranges, named sets and classes within it. Unions are combined from
left to right by `&&`, `--` and `~~`.

* `class?`: read a class from its opening bracket on.
-/

namespace Fleet.Pattern

open Text

/-- How two sets are combined. -/
inductive SetOp where
  | inter | diff | symDiff
  deriving DecidableEq, Repr

/-- Combine two sets; where case does not count, both are folded first. -/
def SetOp.apply (op : SetOp) (f : Flags) (a b : CharSet) : CharSet :=
  let fold (s : CharSet) := if f.ignoreCase && f.unicode then CharSet.folded s
    else if f.ignoreCase then .asciiFolded s else s
  match op with
  | inter => .inter (fold a) (fold b)
  | diff => .diff (fold a) (fold b)
  | symDiff => .symDiff (fold a) (fold b)

/-- A class that is being read: the sets combined so far, and the union being read. -/
structure PartialClass where
  left : Option (CharSet × SetOp) := none
  union : CharSet := .empty

namespace PartialClass

/-- Add a set to the union. -/
def add (k : PartialClass) (s : CharSet) : PartialClass :=
  { k with union := .union k.union s }

/-- The set read so far. -/
def value (k : PartialClass) (f : Flags) : CharSet :=
  match k.left with
  | some (a, op) => op.apply f a k.union
  | none => k.union

/-- Start another union after an operator. -/
def operate (k : PartialClass) (f : Flags) (op : SetOp) : PartialClass :=
  ⟨some (k.value f, op), .empty⟩

end PartialClass

/-- The set of one character in a class; a class of bytes holds ASCII alone. -/
def charSet? (f : Flags) (c : Char) : Option CharSet :=
  if f.unicode || c.toNat < 0x80 then some (.single c) else none

/-- Read a named set such as `[:alpha:]`. -/
def asciiClass? (f : Flags) (s : List Char) : Option (CharSet × List Char) := do
  let s ← dropStart? ['[', ':'] s
  let (negated, s) := match s with
    | '^' :: r => (true, r)
    | _ => (false, s)
  let name := s.takeWhile (· != ':')
  let s ← dropStart? [':', ']'] (s.drop name.length)
  let set ← CharSet.ofAsciiName? (String.ofList name)
  let set := if !f.ignoreCase then set else if f.unicode then .folded set else .asciiFolded set
  return (set.negateIf negated, s)

/-- Read a character or an escape. -/
def classAtom? (f : Flags) : List Char → Option (Atom × List Char)
  | [] => none
  | '\\' :: s => escape? f s
  | c :: s => some (.char c false, s)

/-- The character after a dash, where what does not count is passed over. -/
def peekSpaced (f : Flags) (s : List Char) : Option Char :=
  if !f.spaced then s.head?
  else
    match s.dropWhile isBlank with
    | '#' :: r => (r.dropWhile isBlank).head?
    | r => r.head?

/-- Read a character, an escape or a range. -/
def classRange? (f : Flags) (s : List Char) : Option (CharSet × List Char) := do
  let (a, s) ← classAtom? f s
  let s := f.skip s
  let single : Option CharSet := match a with
    | .char c _ => charSet? f c
    | .set cs => some cs
    | .look _ => none
  match s with
  | [] => none
  | '-' :: r =>
    let next := peekSpaced f r
    if next == some ']' || next == some '-' then return (← single, s)
    else
      let (b, r) ← classAtom? f (f.skip r)
      match a, b with
      | .char c _, .char d _ =>
        if d < c || !(f.unicode || d.toNat < 0x80) then none
        else return (.ranges [(c.toNat, d.toNat)], r)
      | _, _ => none
  | _ => return (← single, s)

/-- Take dashes at the start of a class. -/
def leadingDashes (f : Flags) : Nat → PartialClass → List Char → PartialClass × List Char
  | fuel + 1, k, '-' :: s => leadingDashes f fuel (k.add (.single '-')) (f.skip s)
  | _, k, s => (k, s)

/-- Read the start of a class after its bracket: a `^` that negates it, dashes, and a closing
bracket that stands for itself. -/
def classStart? (f : Flags) (s : List Char) : Option (Bool × PartialClass × List Char) :=
  let s := f.skip s
  let (negated, s) := match s with
    | '^' :: r => (true, f.skip r)
    | _ => (false, s)
  let (k, r) := leadingDashes f s.length {} s
  if r.isEmpty then none
  else if s.head? == some ']' then
    let r := f.skip s.tail
    if r.isEmpty then none else some (negated, k.add (.single ']'), r)
  else some (negated, k, r)

mutual
/-- Read a class from its opening bracket on. -/
def class? (f : Flags) (fuel : Nat) (s : List Char) : Option (CharSet × List Char) :=
  match fuel with
  | 0 => none
  | fuel + 1 => do
    let (negated, k, s) ← classStart? f s.tail
    let (set, s) ← classItems? f fuel k s
    return (← finishSet? f negated set, s)

/-- Read the items of a class up to its closing bracket. -/
def classItems? (f : Flags) (fuel : Nat) (k : PartialClass) (s : List Char) :
    Option (CharSet × List Char) :=
  match fuel with
  | 0 => none
  | fuel + 1 =>
    match f.skip s with
    | [] => none
    | ']' :: s => some (k.value f, s)
    | '[' :: s =>
      match asciiClass? f ('[' :: s) with
      | some (set, s) => classItems? f fuel (k.add set) s
      | none => do
        let (set, s) ← class? f fuel ('[' :: s)
        classItems? f fuel (k.add set) s
    | '&' :: '&' :: s => classItems? f fuel (k.operate f .inter) s
    | '-' :: '-' :: s => classItems? f fuel (k.operate f .diff) s
    | '~' :: '~' :: s => classItems? f fuel (k.operate f .symDiff) s
    | s => do
      let (set, s) ← classRange? f s
      classItems? f fuel (k.add set) s
end

end Fleet.Pattern
