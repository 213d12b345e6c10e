import Fleet.Yaml.Token.Reader

/-!
# Nodes of YAML

A document is a tree of scalars, sequences and mappings, built from the tokens of the text. An alias
stands for a node elsewhere in its document.

* `NodeReader.node?`: read one node off the tokens.
* `documents`: the documents of a text, up to the first that cannot be read.
* `single?`: the document of a text that holds exactly one.
-/

namespace Fleet.Yaml

/-- A node. -/
inductive Node where
  /-- The document of a text without tokens. -/
  | void
  /-- The node with this mark. -/
  | alias (mark : Nat)
  | scalar (tag : Option String) (style : Style) (text : String)
  | sequence (items : List Node)
  | mapping (pairs : List (Node × Node))
  deriving Repr, Inhabited

/-- A document: its root, and the nodes that its aliases stand for. -/
structure Document where
  root : Node
  targets : List (Nat × Node)
  deriving Repr, Inhabited

namespace Document

/-- The node that an alias stands for, any other node itself. -/
def resolve? (d : Document) : Node → Option Node
  | .alias mark => (d.targets.find? (·.1 == mark)).map (·.2)
  | n => some n

end Document

/-- A scalar without content. -/
def Node.blank : Node := .scalar none .plain ""

/-- Where the reading of nodes stands. -/
structure NodeReader where
  tokens : List Token
  /-- The tag handles of the document with their prefixes. -/
  handles : List (String × String) := []
  /-- The anchors of the document by name, with their marks. -/
  anchors : List (String × Nat) := []
  /-- The mark of every anchored node so far, in order. -/
  marks : List Nat := []
  /-- The anchored nodes that have been read, by their place in that order. -/
  nodes : List (Nat × Node) := []

namespace NodeReader

/-- The next token. -/
def peek? (c : NodeReader) : Option Token := c.tokens.head?

/-- Pass over the next token. -/
def advance (c : NodeReader) : NodeReader := { c with tokens := c.tokens.tail }

/-- The next token is one of these. -/
def at? (c : NodeReader) (ts : List Token) : Option Bool :=
  c.peek?.map ts.contains

/-- Give a new node an anchor. The mark of an anchor is the number of names in use, so an anchor
that is set again may share its mark with the next new one. -/
def setAnchor (c : NodeReader) (name : String) : NodeReader :=
  let mark := c.anchors.length
  let others := c.anchors.filter (·.1 != name)
  { c with anchors := (name, mark) :: others, marks := c.marks ++ [mark] }

/-- Keep an anchored node that has been read. -/
def keep (c : NodeReader) (place : Option Nat) (n : Node) : NodeReader :=
  match place with
  | some k => { c with nodes := (k, n) :: c.nodes }
  | none => c

/-- The nodes that aliases stand for: of the anchors that share a mark the last counts. -/
def targets (c : NodeReader) : List (Nat × Node) :=
  c.marks.zipIdx.reverse.filterMap fun (mark, k) =>
    (c.nodes.find? (·.1 == k)).map fun n => (mark, n.2)

/-- The anchor and the tag in front of a node. -/
structure Properties where
  anchor : Option String
  tag : Option String

/-- The full form of a tag. -/
def fullTag? (c : NodeReader) (handle suffix : String) : Option String :=
  if handle.isEmpty then some suffix
  else (c.handles.find? (·.1 == handle)).map fun h => h.2 ++ suffix

/-- Read an anchor and a tag, in either order. -/
def properties? (c : NodeReader) : Option (Properties × NodeReader) := do
  match ← c.peek? with
  | .anchor a =>
    let c := c.advance
    match ← c.peek? with
    | .tag h s => return (⟨some a, some (← c.fullTag? h s)⟩, c.advance)
    | _ => return (⟨some a, none⟩, c)
  | .tag h s =>
    let c := c.advance
    match ← c.peek? with
    | .anchor a => return (⟨some a, some (← c.fullTag? h s)⟩, c.advance)
    | _ => return (⟨none, some (← c.fullTag? h s)⟩, c)
  | _ => return (⟨none, none⟩, c)

/-- The tokens that end the value of a block mapping. -/
def endsPair : List Token := [.key, .value, .blockEnd]

/-- The key of a single pair in a flow sequence: it may be left out, and then the token in its place
is passed over. -/
def emptyKey (c : NodeReader) : Node × NodeReader := (.blank, c.advance)

mutual
/-- Read one node. Block collections count only where `block` holds, a sequence without indentation
only where `flat` holds. -/
def node? (fuel : Nat) (block flat : Bool) (c : NodeReader) : Option (Node × NodeReader) :=
  match fuel with
  | 0 => none
  | fuel + 1 => do
    match ← c.peek? with
    | .alias name => return (.alias (← c.anchors.lookup name), c.advance)
    | _ =>
      let (props, c) ← c.properties?
      let t ← c.peek?
      let place := props.anchor.map fun _ => c.marks.length
      let tag := props.tag.filter (!·.isEmpty)
      let c := (props.anchor.map c.setAnchor).getD c
      let finish (n : Node) (c : NodeReader) : Option (Node × NodeReader) :=
        some (n, c.keep place n)
      if flat && t == .blockEntry then
        let (items, c) ← flatItems? fuel c
        finish (.sequence items) c
      else
        match t with
        | .scalar text style =>
          finish (.scalar (props.tag.filter (· != "!")) style text) c.advance
        | .flowSequence =>
          let (items, c) ← flowItems? fuel true c.advance
          finish (.sequence items) c
        | .flowMapping =>
          let (pairs, c) ← flowPairs? fuel true c.advance
          finish (.mapping pairs) c
        | .blockSequence =>
          if block then
            let (items, c) ← blockItems? fuel c.advance
            finish (.sequence items) c
          else none
        | .blockMapping =>
          if block then
            let (pairs, c) ← blockPairs? fuel c.advance
            finish (.mapping pairs) c
          else none
        | _ =>
          if props.anchor.isSome || props.tag.isSome then finish (.scalar tag .plain "") c
          else none

/-- Read a node, or a scalar without content where one of `ends` follows. -/
def nodeUnless? (fuel : Nat) (block flat : Bool) (ends : List Token) (c : NodeReader) :
    Option (Node × NodeReader) :=
  match fuel with
  | 0 => none
  | fuel + 1 => do
    if ← c.at? ends then return (.blank, c) else node? fuel block flat c

/-- Read the items of a block sequence. -/
def blockItems? (fuel : Nat) (c : NodeReader) : Option (List Node × NodeReader) :=
  match fuel with
  | 0 => none
  | fuel + 1 => do
    match ← c.peek? with
    | .blockEntry =>
      let (n, c) ← nodeUnless? fuel true false [.blockEntry, .blockEnd] c.advance
      let (ns, c) ← blockItems? fuel c
      return (n :: ns, c)
    | .blockEnd => return ([], c.advance)
    | _ => none

/-- Read the items of a sequence that is not indented within its mapping. -/
def flatItems? (fuel : Nat) (c : NodeReader) : Option (List Node × NodeReader) :=
  match fuel with
  | 0 => none
  | fuel + 1 => do
    match ← c.peek? with
    | .blockEntry =>
      let (n, c) ← nodeUnless? fuel true false (.blockEntry :: endsPair) c.advance
      let (ns, c) ← flatItems? fuel c
      return (n :: ns, c)
    | _ => return ([], c)

/-- Read the pairs of a block mapping. -/
def blockPairs? (fuel : Nat) (c : NodeReader) : Option (List (Node × Node) × NodeReader) :=
  match fuel with
  | 0 => none
  | fuel + 1 => do
    match ← c.peek? with
    | .key =>
      let (k, c) ← nodeUnless? fuel true true endsPair c.advance
      let (v, c) ← match ← c.peek? with
        | .value => nodeUnless? fuel true true endsPair c.advance
        | _ => some (Node.blank, c)
      let (ps, c) ← blockPairs? fuel c
      return ((k, v) :: ps, c)
    | .blockEnd => return ([], c.advance)
    | _ => none

/-- Read the items of a flow sequence. A key makes a mapping of one pair. -/
def flowItems? (fuel : Nat) (first : Bool) (c : NodeReader) : Option (List Node × NodeReader) :=
  match fuel with
  | 0 => none
  | fuel + 1 => do
    let t ← c.peek?
    if t == .flowSequenceEnd then return ([], c.advance)
    let c ← if first then some c else if t == .flowEntry then some c.advance else none
    match ← c.peek? with
    | .flowSequenceEnd => return ([], c.advance)
    | .key =>
      let c := c.advance
      let (k, c) ← if ← c.at? [.value, .flowEntry, .flowSequenceEnd] then some c.emptyKey
        else node? fuel false false c
      let (v, c) ← match ← c.peek? with
        | .value => nodeUnless? fuel false false [.flowEntry, .flowSequenceEnd] c.advance
        | _ => some (Node.blank, c)
      let (ns, c) ← flowItems? fuel false c
      return (.mapping [(k, v)] :: ns, c)
    | _ =>
      let (n, c) ← node? fuel false false c
      let (ns, c) ← flowItems? fuel false c
      return (n :: ns, c)

/-- Read the pairs of a flow mapping. A node that is no key stands for a key without value. -/
def flowPairs? (fuel : Nat) (first : Bool) (c : NodeReader) :
    Option (List (Node × Node) × NodeReader) :=
  match fuel with
  | 0 => none
  | fuel + 1 => do
    let t ← c.peek?
    if t == .flowMappingEnd then return ([], c.advance)
    let c ← if first then some c else if t == .flowEntry then some c.advance else none
    match ← c.peek? with
    | .flowMappingEnd => return ([], c.advance)
    | .key =>
      let (k, c) ← nodeUnless? fuel false false [.value, .flowEntry, .flowMappingEnd] c.advance
      let (v, c) ← match ← c.peek? with
        | .value => nodeUnless? fuel false false [.flowEntry, .flowMappingEnd] c.advance
        | _ => some (Node.blank, c)
      let (ps, c) ← flowPairs? fuel false c
      return ((k, v) :: ps, c)
    | _ =>
      let (k, c) ← node? fuel false false c
      let (ps, c) ← flowPairs? fuel false c
      return ((k, .blank) :: ps, c)
end

/-- The directives in front of a document. -/
structure Directives where
  version : Bool := false
  handles : List (String × String) := []

/-- Read directives: at most one version, and each tag handle at most once. -/
def directives? (d : Directives) : List Token → Option (Directives × List Token)
  | .version major minor :: ts =>
    if d.version || major != 1 || !(minor == 1 || minor == 2) then none
    else directives? { d with version := true } ts
  | .tagPrefix handle lead :: ts =>
    if d.handles.any (·.1 == handle) then none
    else directives? { d with handles := d.handles ++ [(handle, lead)] } ts
  | ts => some (d, ts)

/-- The tag handles that every document has unless it sets them itself. -/
def standardHandles : List (String × String) :=
  [("!", "!"), ("!!", "tag:yaml.org,2002:")]

/-- Read the content and the end of a document. -/
def document? (implicit : Bool) (handles : List (String × String)) (ts : List Token) :
    Option (Document × List Token) := do
  let c : NodeReader := { tokens := ts, handles := handles ++ standardHandles }
  let endsDocument : Token → Bool
    | .version .. | .tagPrefix .. | .documentStart | .documentEnd | .streamEnd => true
    | _ => false
  let (root, c) ←
    if !implicit && endsDocument (← c.peek?) then some (Node.blank, c)
    else node? (4 * ts.length + 8) true false c
  let t ← c.peek?
  let c := if t == .documentEnd then c.advance else c
  return (⟨root, c.targets⟩, c.tokens)

/-- Read one document. The first may start without a mark. -/
def nextDocument? (first : Bool) (ts : List Token) : Option (Document × List Token) := do
  let ts := if first then ts else ts.dropWhile (· == .documentEnd)
  match ts.head? with
  | some (.version ..) | some (.tagPrefix ..) | some .documentStart =>
    let (d, ts) ← directives? {} ts
    match ts with
    | .documentStart :: ts => document? false d.handles ts
    | _ => none
  | some _ => if first then document? true [] ts else none
  | none => none

/-- The stream ends here. -/
def atEnd (first : Bool) (ts : List Token) : Bool :=
  (if first then ts else ts.dropWhile (· == .documentEnd)).head? == some .streamEnd

/-- Read documents to the end of the stream; one that cannot be read is the last. -/
def documentsFrom : Nat → Bool → List Token → List (Option Document)
  | 0, _, _ => [none]
  | fuel + 1, first, ts =>
    if atEnd first ts then []
    else
      match nextDocument? first ts with
      | none => [none]
      | some (d, ts) => some d :: documentsFrom fuel false ts

end NodeReader

/-- The documents of a text, up to the first that cannot be read. A text without tokens is one
void document. -/
def documents (s : String) : List (Option Document) :=
  let ts := scan s
  if ts == [.streamEnd] then [some ⟨.void, []⟩]
  else NodeReader.documentsFrom (ts.length + 1) true ts

/-- The document of a text that holds exactly one. -/
def single? (s : String) : Option Document :=
  match documents s with
  | [d] => d
  | _ => none

end Fleet.Yaml
