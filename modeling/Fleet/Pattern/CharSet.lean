import Fleet.Text.Blank
import Fleet.Unicode.CaseRuns
import Fleet.Unicode.Category
import Fleet.Unicode.Scripts

/-!
# Sets of characters

The sets that a pattern speaks of, kept as expressions and evaluated for one character at a time.

* `CharSet.contains`: a character belongs to a set.
* `CharSet.ofName?`, `CharSet.ofValue?`: the set of a property, such as `Greek` or `gc=Lu`.
* `CharSet.ofAsciiName?`: the set of a bracketed name, such as `alpha`.
-/

namespace Fleet

open Text Unicode

/-- A set of characters. -/
inductive CharSet where
  | ranges (rs : Ranges)
  | categories (cs : List Category)
  /-- The characters of both. -/
  | union (a b : CharSet)
  | inter (a b : CharSet)
  | diff (a b : CharSet)
  /-- The characters of exactly one. -/
  | symDiff (a b : CharSet)
  | compl (a : CharSet)
  /-- With every character also those that differ from it in case only. -/
  | folded (a : CharSet)
  /-- The same for the letters of ASCII. -/
  | asciiFolded (a : CharSet)
  deriving Repr, Inhabited

namespace CharSet

/-- The characters that differ from one in case only, itself included. -/
def caseVariants (n : Nat) : List Nat :=
  let f := moveBy foldRuns n
  n :: f :: foldRuns.filterMap fun r =>
    let d := (Int.ofNat f - r.shift).toNat
    if r.covers d && moveBy foldRuns d == f then some d else none

/-- The letters of ASCII that differ from one in case only, itself included. -/
def asciiVariants (n : Nat) : List Nat :=
  if 0x41 ≤ n && n ≤ 0x5A then [n, n + 32]
  else if 0x61 ≤ n && n ≤ 0x7A then [n, n - 32]
  else [n]

/-- The code point belongs to the set. -/
def contains : CharSet → Nat → Bool
  | ranges rs, n => rs.contains n
  | categories cs, n => Category.hasAny cs n
  | union a b, n => a.contains n || b.contains n
  | inter a b, n => a.contains n && b.contains n
  | diff a b, n => a.contains n && !b.contains n
  | symDiff a b, n => a.contains n != b.contains n
  | compl a, n => !a.contains n
  | folded a, n => (caseVariants n).any a.contains
  | asciiFolded a, n => (asciiVariants n).any a.contains

/-- The set without characters. -/
def empty : CharSet := ranges []

/-- Every character. -/
def everything : CharSet := ranges [(0, 0x10FFFF)]

/-- One character. -/
def single (c : Char) : CharSet := ranges [(c.toNat, c.toNat)]

/-- The set holds characters of ASCII alone, as far as single bytes go. -/
def isAscii (s : CharSet) : Bool :=
  (List.range 128).all fun n => !s.contains (n + 128)

/-- Everything outside the set, where `negated` holds. -/
def negateIf (negated : Bool) (s : CharSet) : CharSet :=
  if negated then s.compl else s

/-- The lines a text is made of end at these. -/
def lineFeed : CharSet := single '\n'

/-- Alphabetic characters. -/
def alphabetic : CharSet :=
  union (categories [.upper, .lower, .title, .modifierLetter, .otherLetter, .letterNumber])
    (ranges alphabeticExtras)

/-- Alphabetic and numeric characters. -/
def alphanumeric : CharSet :=
  union alphabetic (categories [.decimalNumber, .letterNumber, .otherNumber])

/-- Decimal digits. -/
def digit : CharSet := categories [.decimalNumber]

/-- White space. -/
def space : CharSet :=
  ranges [(9, 13), (0x20, 0x20), (0x85, 0x85), (0xA0, 0xA0), (0x1680, 0x1680), (0x2000, 0x200A),
    (0x2028, 0x2029), (0x202F, 0x202F), (0x205F, 0x205F), (0x3000, 0x3000)]

/-- The characters of words. -/
def word : CharSet :=
  union alphabetic (union (categories [.nonspacingMark, .spacingMark, .enclosingMark,
    .decimalNumber, .connector]) (ranges [(0x200C, 0x200D)]))

/-- Decimal digits of ASCII. -/
def asciiDigit : CharSet := ranges [(0x30, 0x39)]

/-- White space of ASCII. -/
def asciiSpace : CharSet := ranges [(9, 13), (0x20, 0x20)]

/-- The characters of words in ASCII. -/
def asciiWord : CharSet := ranges [(0x30, 0x39), (0x41, 0x5A), (0x5F, 0x5F), (0x61, 0x7A)]

/-- The set of a bracketed name. -/
def ofAsciiName? (name : String) : Option CharSet :=
  (List.lookup name [
    ("alnum", [(0x30, 0x39), (0x41, 0x5A), (0x61, 0x7A)]),
    ("alpha", [(0x41, 0x5A), (0x61, 0x7A)]),
    ("ascii", [(0, 0x7F)]),
    ("blank", [(0x09, 0x09), (0x20, 0x20)]),
    ("cntrl", [(0, 0x1F), (0x7F, 0x7F)]),
    ("digit", [(0x30, 0x39)]),
    ("graph", [(0x21, 0x7E)]),
    ("lower", [(0x61, 0x7A)]),
    ("print", [(0x20, 0x7E)]),
    ("punct", [(0x21, 0x2F), (0x3A, 0x40), (0x5B, 0x60), (0x7B, 0x7E)]),
    ("space", [(0x09, 0x0D), (0x20, 0x20)]),
    ("upper", [(0x41, 0x5A)]),
    ("word", [(0x30, 0x39), (0x41, 0x5A), (0x5F, 0x5F), (0x61, 0x7A)]),
    ("xdigit", [(0x30, 0x39), (0x41, 0x46), (0x61, 0x66)])]).map ranges

/-- The names of the general categories, long and short, loosely written. -/
def categoryNames : List (List String × List Category) :=
  [(["casedletter", "lc"], [.upper, .lower, .title]),
   (["closepunctuation", "pe"], [.closer]),
   (["connectorpunctuation", "pc"], [.connector]),
   (["control", "cc", "cntrl"], [.control]),
   (["currencysymbol", "sc"], [.currency]),
   (["dashpunctuation", "pd"], [.dash]),
   (["decimalnumber", "nd", "digit"], [.decimalNumber]),
   (["enclosingmark", "me"], [.enclosingMark]),
   (["finalpunctuation", "pf"], [.finalQuote]),
   (["format", "cf"], [.format]),
   (["initialpunctuation", "pi"], [.initialQuote]),
   (["letter", "l"], [.upper, .lower, .title, .modifierLetter, .otherLetter]),
   (["letternumber", "nl"], [.letterNumber]),
   (["lineseparator", "zl"], [.lineSeparator]),
   (["lowercaseletter", "ll"], [.lower]),
   (["mark", "m", "combiningmark"], [.nonspacingMark, .spacingMark, .enclosingMark]),
   (["mathsymbol", "sm"], [.mathSymbol]),
   (["modifierletter", "lm"], [.modifierLetter]),
   (["modifiersymbol", "sk"], [.modifierSymbol]),
   (["nonspacingmark", "mn"], [.nonspacingMark]),
   (["number", "n"], [.decimalNumber, .letterNumber, .otherNumber]),
   (["openpunctuation", "ps"], [.opener]),
   (["other", "c"], [.control, .format, .surrogate, .privateUse, .unassigned]),
   (["otherletter", "lo"], [.otherLetter]),
   (["othernumber", "no"], [.otherNumber]),
   (["otherpunctuation", "po"], [.otherPunctuation]),
   (["othersymbol", "so"], [.otherSymbol]),
   (["paragraphseparator", "zp"], [.paragraphSeparator]),
   (["privateuse", "co"], [.privateUse]),
   (["punctuation", "p", "punct"], [.connector, .dash, .opener, .closer, .initialQuote,
     .finalQuote, .otherPunctuation]),
   (["separator", "z"], [.space, .lineSeparator, .paragraphSeparator]),
   (["spaceseparator", "zs"], [.space]),
   (["spacingmark", "mc"], [.spacingMark]),
   (["surrogate", "cs"], [.surrogate]),
   (["symbol", "s"], [.mathSymbol, .currency, .modifierSymbol, .otherSymbol]),
   (["titlecaseletter", "lt"], [.title]),
   (["unassigned", "cn"], [.unassigned]),
   (["uppercaseletter", "lu"], [.upper])]

/-- The set of a general category. -/
def ofCategory? (name : String) : Option CharSet :=
  if name == "any" then some everything
  else if name == "assigned" then some (categories [.unassigned]).compl
  else if name == "ascii" then some (ranges [(0, 0x7F)])
  else (categoryNames.find? (·.1.contains name)).map fun e => categories e.2

/-- The set of a script. -/
def ofScript? (name : String) : Option CharSet :=
  (scripts.find? fun s => s.1 == name || s.2.1 == name || (name == "qaai" && s.2.1 == "zinh") ||
    (name == "qaac" && s.2.1 == "copt")).map fun s => ranges s.2.2

/-- The set of a property that a character has or has not. -/
def ofFlag? (name : String) : Option CharSet :=
  let marks : List Category := [.nonspacingMark, .spacingMark, .enclosingMark]
  let letters : List Category := [.upper, .lower, .title, .modifierLetter, .otherLetter]
  if ["alphabetic", "alpha"].contains name then some alphabetic
  else if ["whitespace", "wspace", "space"].contains name then some space
  else if ["lowercase", "lower"].contains name then
    some (union (categories [.lower]) (ranges lowercaseExtras))
  else if ["uppercase", "upper"].contains name then
    some (union (categories [.upper]) (ranges uppercaseExtras))
  else if name == "cased" then
    some (union (categories [.upper, .lower, .title]) (ranges casedExtras))
  else if ["caseignorable", "ci"].contains name then
    some (union (categories [.nonspacingMark, .enclosingMark, .format, .modifierLetter,
      .modifierSymbol]) (ranges caseIgnorableExtras))
  else if ["graphemeextend", "grext"].contains name then
    some (union (categories [.nonspacingMark, .enclosingMark]) (ranges graphemeExtendExtras))
  else if name == "math" then some (union (categories [.mathSymbol]) (ranges mathExtras))
  else if name == "dash" then some (union (categories [.dash]) (ranges dashExtras))
  else if name == "emoji" then some (ranges emoji)
  else if ["emojipresentation", "epres"].contains name then some (ranges emojiPresentation)
  else if ["extendedpictographic", "extpict"].contains name then some (ranges pictographs)
  else if ["hexdigit", "hex"].contains name then some (ranges hexDigits)
  else if ["asciihexdigit", "ahex"].contains name then
    some (ranges [(0x30, 0x39), (0x41, 0x46), (0x61, 0x66)])
  else if ["ideographic", "ideo"].contains name then some (ranges ideographs)
  else if ["defaultignorablecodepoint", "di"].contains name then some (ranges defaultIgnorables)
  else if ["idstart", "ids"].contains name then
    some (union (categories (.letterNumber :: letters)) (ranges idStartExtras))
  else if ["idcontinue", "idc"].contains name then
    some (union (categories (.letterNumber :: .decimalNumber :: .connector :: letters ++ marks))
      (union (ranges idStartExtras) (ranges idContinueExtras)))
  else none

/-- A name loosely written: no spaces, dashes or underscores, no case, no `is` in front. -/
def looseName (s : List Char) : String :=
  let lowered := (s.filter fun c => !(c == ' ' || c == '_' || c == '-') && c.toNat < 0x80).map
    Char.toLower
  let hasIs := ["is", "IS", "iS", "Is"].any fun w => w.toList.isPrefixOf s
  let name := if hasIs then lowered.drop 2 else lowered
  if hasIs && name == ['c'] then "isc" else String.ofList name

/-- The set of a name on its own: a property, a general category or a script. -/
def ofName? (name : List Char) : Option CharSet :=
  let name := looseName name
  let flag := if ["cf", "sc", "lc"].contains name then none else ofFlag? name
  (flag.orElse fun _ => ofCategory? name).orElse fun _ => ofScript? name

/-- The set of the characters with a value of a property. -/
def ofValue? (property value : List Char) : Option CharSet :=
  let property := looseName property
  let value := looseName value
  if ["gc", "generalcategory"].contains property then ofCategory? value
  else if ["sc", "script"].contains property then ofScript? value
  else none

end CharSet

end Fleet
