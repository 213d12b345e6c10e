import Fleet.Schema.Binary
import Fleet.Schema.Print
import Fleet.Schema.Yaml
import Fleet.Text.Blank

/-!
# Payloads

The state of a resource travels as a YAML text, as bytes, or as both. The text is read first, and
the bytes stand in where it is blank or cannot be read.

* `Payload.ofParts`: a payload of what was received; blank text and no bytes count as absent.
* `Payload.decodeWith`: the outcome of reading a payload with two readers.
-/

namespace Fleet

open Text

/-- The forms in which a state was received. -/
inductive Payload where
  | absent
  | text (s : String)
  | binary (bs : Bytes)
  | both (s : String) (bs : Bytes)
  deriving DecidableEq, Repr, Inhabited

/-- The forms that were tried in vain. -/
inductive Forms where
  | yaml | binary | yamlAndBinary
  deriving DecidableEq, Repr

/-- The name of the forms. -/
def Forms.text : Forms → String
  | yaml => "yaml"
  | binary => "binary"
  | yamlAndBinary => "yaml+binary"

/-- The outcome of reading a payload. -/
inductive Decoded (α : Type) where
  | value (a : α)
  | absent
  | failed (forms : Forms)
  deriving DecidableEq, Repr

namespace Decoded

variable {α : Type}

/-- The value, if one was read. -/
def value? : Decoded α → Option α
  | value a => some a
  | _ => none

/-- The value, or else a given one. -/
def getD (d : Decoded α) (standard : α) : α := d.value?.getD standard

/-- There was something to read, but it could not be. -/
def isFailed : Decoded α → Bool
  | failed _ => true
  | _ => false

/-- How many values were lost: one if reading failed. -/
def losses (d : Decoded α) : Nat := if d.isFailed then 1 else 0

end Decoded

namespace Payload

variable {α : Type}

/-- The payload of what was received. -/
def ofParts (text : Option String) (binary : Option Bytes) : Payload :=
  match text.filter (!isBlankText ·), binary.filter (!·.isEmpty) with
  | some s, some bs => both s bs
  | some s, none => .text s
  | none, some bs => .binary bs
  | none, none => absent

/-- Nothing was received. -/
def isAbsent : Payload → Bool
  | absent => true
  | _ => false

/-- The text that was received. -/
def text? : Payload → Option String
  | .text s | both s _ => some s
  | _ => none

/-- Read a text; a blank one holds nothing. -/
def decodeText (readText : String → Option α) (s : String) : Decoded α :=
  if isBlankText s then .absent
  else match readText s with
    | some a => .value a
    | none => .failed .yaml

/-- Read bytes. -/
def decodeBytes (readBytes : Bytes → Option α) (bs : Bytes) : Decoded α :=
  match readBytes bs with
  | some a => .value a
  | none => .failed .binary

/-- Read a payload with two readers, the text first. -/
def decodeWith (readText : String → Option α) (readBytes : Bytes → Option α) :
    Payload → Decoded α
  | absent => .absent
  | .text s => decodeText readText s
  | .binary bs => decodeBytes readBytes bs
  | both s bs =>
    match decodeText readText s with
    | .value a => .value a
    | .absent => decodeBytes readBytes bs
    | .failed _ =>
      match decodeBytes readBytes bs with
      | .failed _ => .failed .yamlAndBinary
      | d => d

/-- Read a payload as a value of a model. -/
def decode (m : Model α) (p : Payload) : Decoded α :=
  p.decodeWith m.ofYaml? m.ofBytes?

/-- The textual payload of a value, the only form that is sent. -/
def encode (m : Model α) (a : α) : Payload := .text (m.toYaml a)

/-- The binary payload of a value. -/
def encodeBinary (m : Model α) (a : α) : Payload := .binary (m.toBytes a)

end Payload

end Fleet
