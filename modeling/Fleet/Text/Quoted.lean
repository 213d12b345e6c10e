import Fleet.Unicode.Category

/-!
# Quoted text

Text in double quotes, with every character that would not show escaped.

* `quote`: one text in quotes.
* `quoteList`: a list of quoted texts in brackets.
-/

namespace Fleet.Text

/-- Digits of `n` in base sixteen, lower case, no padding. -/
def hexText (n : Nat) : List Char :=
  Nat.toDigits 16 n

/-- One character between double quotes. -/
def quoteChar (c : Char) : List Char :=
  match c with
  | '\x00' => ['\\', '0']
  | '\t' => ['\\', 't']
  | '\r' => ['\\', 'r']
  | '\n' => ['\\', 'n']
  | '\\' => ['\\', '\\']
  | '"' => ['\\', '"']
  | c =>
    if !Unicode.isGraphemeExtend c && Unicode.isPrinting c then [c]
    else ['\\', 'u', Char.ofNat 0x7B] ++ hexText c.toNat ++ [Char.ofNat 0x7D]

/-- A text in double quotes. -/
def quote (s : String) : String :=
  String.ofList ('"' :: s.toList.flatMap quoteChar ++ ['"'])

/-- A list of quoted texts. -/
def quoteList (ss : List String) : String :=
  "[" ++ String.intercalate ", " (ss.map quote) ++ "]"

end Fleet.Text
