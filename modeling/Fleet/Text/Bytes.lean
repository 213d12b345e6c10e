import Fleet.Text.Digits

/-!
# Bytes

* `toBytes`, `ofBytes?`: a text as UTF-8 and back.
* `hexOfBytes`, `bytesOfHex?`: bytes as hexadecimal digits and back.
-/

namespace Fleet.Text

/-- Bytes in order. -/
abbrev Bytes := List UInt8

/-- The UTF-8 form of a text. -/
def toBytes (s : String) : Bytes :=
  s.toByteArray.data.toList

/-- The text of well-formed UTF-8. -/
def ofBytes? (bs : Bytes) : Option String :=
  String.fromUTF8? ⟨bs.toArray⟩

/-- Two hexadecimal digits for each byte. -/
def hexOfBytes (bs : Bytes) : String :=
  String.ofList (bs.flatMap fun b =>
    [Nat.digitChar (b.toNat / 16), Nat.digitChar (b.toNat % 16)])

/-- Read two hexadecimal digits for each byte. -/
def bytesOfDigits? : List Char → Option Bytes
  | [] => some []
  | [_] => none
  | a :: b :: s => do return UInt8.ofNat (← digits? 16 [a, b]) :: (← bytesOfDigits? s)

/-- Read hexadecimal digits. -/
def bytesOfHex? (s : String) : Option Bytes :=
  bytesOfDigits? s.toList

end Fleet.Text
