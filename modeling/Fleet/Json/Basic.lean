import Fleet.Text.Digits

/-!
# JSON values

* `Json`: a value. A number keeps its literal, and a text with half of a surrogate pair keeps its
  place but not its characters.
* `Json.render`: the written form without spaces.
-/

namespace Fleet

open Text

/-- A JSON value. Members keep their order and may repeat. -/
inductive Json where
  | null
  | flag (b : Bool)
  | number (literal : String)
  | text (s : Option String)
  | array (items : List Json)
  | object (members : List (Option String × Json))
  deriving Repr, Inhabited

namespace Json

/-- A readable text. -/
def str (s : String) : Json := .text (some s)

/-- A natural number. -/
def nat (n : Nat) : Json := .number (decimal n)

/-- An integer. -/
def int (n : Int) : Json :=
  .number (if n < 0 then "-" ++ decimal n.natAbs else decimal n.toNat)

/-- An object with readable names. -/
def obj (members : List (String × Json)) : Json :=
  .object (members.map fun m => (some m.1, m.2))

/-- A value or `null`. -/
def opt {α : Type} (f : α → Json) : Option α → Json
  | none => .null
  | some a => f a

/-- A list of values. -/
def list {α : Type} (f : α → Json) (as : List α) : Json :=
  .array (as.map f)

/-- One character between quotes. -/
def escape (c : Char) : List Char :=
  if c == '"' then ['\\', '"']
  else if c == '\\' then ['\\', '\\']
  else if c.toNat < 0x20 then
    ['\\', 'u', '0', '0', Nat.digitChar (c.toNat / 16), Nat.digitChar (c.toNat % 16)]
  else [c]

/-- A text between quotes. -/
def quoted (s : String) : String :=
  String.ofList ('"' :: s.toList.flatMap escape ++ ['"'])

mutual
/-- The written form, without spaces. -/
def render : Json → String
  | null => "null"
  | flag b => if b then "true" else "false"
  | number literal => literal
  | text s => quoted (s.getD "")
  | array items => "[" ++ String.intercalate "," (renderItems items) ++ "]"
  | object members => "\x7b" ++ String.intercalate "," (renderMembers members) ++ "\x7d"

/-- The written forms of the items of an array. -/
def renderItems : List Json → List String
  | [] => []
  | v :: vs => render v :: renderItems vs

/-- The written forms of the members of an object. -/
def renderMembers : List (Option String × Json) → List String
  | [] => []
  | (k, v) :: ms => (quoted (k.getD "") ++ ":" ++ render v) :: renderMembers ms
end

/-- The last member of a name. -/
def member? (j : Json) (name : String) : Option Json :=
  match j with
  | object members => (members.reverse.find? fun m => m.1 == some name).map (·.2)
  | _ => none

/-- The member of a name; `null` if there is none. -/
def get (j : Json) (name : String) : Json :=
  (j.member? name).getD .null

/-- A natural number written as an integer: no sign, point or exponent, no leading zeros. -/
def nat? : Json → Option Nat
  | number literal => decimal? literal.toList
  | _ => none

/-- An integer written as one. -/
def int? : Json → Option Int
  | number literal =>
    match literal.toList with
    | '-' :: ds => (decimal? ds).map fun n => -Int.ofNat n
    | ds => (decimal? ds).map Int.ofNat
  | _ => none

/-- A readable text. -/
def str? : Json → Option String
  | text s => s
  | _ => none

/-- A truth value. -/
def flag? : Json → Option Bool
  | flag b => some b
  | _ => none

/-- The items of an array. -/
def items : Json → List Json
  | array vs => vs
  | _ => []

end Json

end Fleet
