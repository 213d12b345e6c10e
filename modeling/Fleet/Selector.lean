import Fleet.OrderedMap
import Fleet.Text.Blank
import Fleet.Selector.Scan

/-!
# Label selectors

A selector is a conjunction of terms on labels: `key=value`, `key!=value`, `key`, `!key`,
`key in (a,b)` and `key notin (a,b)`, joined by commas.

* `Selector.accepts`: the labels that satisfy a selector.
* `Selector.text`, `Selector.parse`: the written form and its reading; a comma separates terms only
  outside parentheses (`Selector.split?`).
-/

namespace Fleet

open Text

/-- Labels: names with values. -/
abbrev Labels := OrderedMap String String

/-- One condition on labels. -/
inductive Term where
  | equals (key value : String)
  | differs (key value : String)
  | present (key : String)
  | absent (key : String)
  | oneOf (key : String) (values : List String)
  | noneOf (key : String) (values : List String)
  deriving DecidableEq, Repr

namespace Term

/-- The labels satisfy the term. -/
def accepts (t : Term) (labels : Labels) : Bool :=
  match t with
  | equals key value => labels.get? key == some value
  | differs key value => labels.get? key != some value
  | present key => labels.contains key
  | absent key => !labels.contains key
  | oneOf key values => (labels.get? key).any values.contains
  | noneOf key values => !(labels.get? key).any values.contains

/-- The values of a set, joined by commas. -/
def setText (values : List String) : List Char :=
  joinWith [','] (values.map String.toList)

/-- The characters of a term's written form. -/
def chars : Term → List Char
  | equals key value => key.toList ++ ['='] ++ value.toList
  | differs key value => key.toList ++ ['!', '='] ++ value.toList
  | present key => key.toList
  | absent key => '!' :: key.toList
  | oneOf key values => key.toList ++ " in (".toList ++ setText values ++ [')']
  | noneOf key values => key.toList ++ " notin (".toList ++ setText values ++ [')']

end Term

/-- A conjunction of terms; without terms it matches everything. -/
structure Selector where
  terms : List Term
  deriving DecidableEq, Repr

namespace Selector

/-- The selector that matches everything. -/
def everything : Selector := ⟨[]⟩

instance : Inhabited Selector := ⟨everything⟩

/-- The labels satisfy every term. -/
def accepts (s : Selector) (labels : Labels) : Bool :=
  s.terms.all (·.accepts labels)

/-- There are no terms. -/
def isEmpty (s : Selector) : Bool := s.terms.isEmpty

/-- Add a term at the end. -/
def add (s : Selector) (t : Term) : Selector := ⟨s.terms ++ [t]⟩

/-- Add the term `key=value`. -/
def equals (s : Selector) (key value : String) : Selector := s.add (.equals key value)

/-- Add the term `key`. -/
def present (s : Selector) (key : String) : Selector := s.add (.present key)

/-- Add the term `!key`. -/
def absent (s : Selector) (key : String) : Selector := s.add (.absent key)

/-- The written form: the terms joined by commas. -/
def text (s : Selector) : String :=
  String.ofList (joinWith [','] (s.terms.map Term.chars))

/-- A character of a label key. -/
def isKeyChar (c : Char) : Bool :=
  isDigit c || ('a' ≤ c && c ≤ 'z') || ('A' ≤ c && c ≤ 'Z') ||
    c == '.' || c == '_' || c == '-' || c == '/'

/-- A label key: one or more key characters. -/
def isKey (key : List Char) : Bool :=
  !key.isEmpty && key.all isKeyChar

/-- Read a key out of the term `raw`, blanks around it dropped. -/
def readKey (key raw : List Char) : Except ArgumentFault String :=
  if isKey (trim key) then .ok (String.ofList (trim key))
  else .error (.badKey (String.ofList raw))

/-- The values of a set: between commas, blanks dropped, empty ones left out. -/
def setValues (inner : List Char) : List String :=
  (((splitOn ',' inner).map trim).filter (!·.isEmpty)).map String.ofList

/-- Read a set term: a key, `in` or `notin`, and values in parentheses. -/
def readSet (raw : List Char) : Except ArgumentFault Term := do
  let fault (f : TermFault) : ArgumentFault := .badTerm f (String.ofList raw)
  let some (head, rest) := splitOnce? ['('] raw | .error (fault .missingSet)
  let some inner := dropEnd? [')'] (trimEnd rest) | .error (fault .unterminatedSet)
  match words head with
  | [key, operator] => do
    let key ← readKey key raw
    let values := setValues inner
    if values.isEmpty then .error (fault .emptySet)
    else if operator = "in".toList then .ok (.oneOf key values)
    else if operator = "notin".toList then .ok (.noneOf key values)
    else .error (fault .unknownOperator)
  | _ => .error (fault .notSetTerm)

/-- Read one term, blanks around it already dropped. -/
def readTerm (raw : List Char) : Except ArgumentFault Term :=
  if raw.contains '(' || raw.contains ')' then readSet raw
  else
    match splitOnce? ['!', '='] raw with
    | some (key, value) => do
      return .differs (← readKey key raw) (String.ofList (trim value))
    | none =>
      match splitOnce? ['='] raw with
      | some (key, value) => do
        return .equals (← readKey key raw) (String.ofList (trim (value.dropWhile (· == '='))))
      | none =>
        match raw with
        | '!' :: key => do return .absent (← readKey key raw)
        | _ => do return .present (← readKey raw raw)

/-- Read the terms of the pieces, blank pieces left out. -/
def readTerms : List (List Char) → Except ArgumentFault (List Term)
  | [] => .ok []
  | p :: ps =>
    if (trim p).isEmpty then readTerms ps
    else do return (← readTerm (trim p)) :: (← readTerms ps)

/-- Read a selector. -/
def parse (s : String) : Except ArgumentFault Selector :=
  match (split? s.toList).get (isSome_split? s.toList) with
  | .error fault => .error fault
  | .ok ps => (readTerms ps).map Selector.mk

end Selector

end Fleet
