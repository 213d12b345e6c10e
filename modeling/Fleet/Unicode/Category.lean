import Fleet.Unicode.Letters
import Fleet.Unicode.Marks
import Fleet.Unicode.Symbols
import Fleet.Unicode.Extras

/-!
# General categories

Every code point has exactly one general category; `Category.ranges` lists the code points of each
category but `unassigned`, which holds the rest.

* `Category.has`: a code point belongs to a category.
* `isPrinting`: what may be shown as it is.
-/

namespace Fleet.Unicode

/-- A general category. -/
inductive Category where
  | upper | lower | title | modifierLetter | otherLetter
  | nonspacingMark | spacingMark | enclosingMark
  | decimalNumber | letterNumber | otherNumber
  | connector | dash | opener | closer | initialQuote | finalQuote | otherPunctuation
  | mathSymbol | currency | modifierSymbol | otherSymbol
  | space | lineSeparator | paragraphSeparator
  | control | format | surrogate | privateUse | unassigned
  deriving DecidableEq, Repr

namespace Category

/-- Every category but `unassigned`. -/
def assigned : List Category :=
  [upper, lower, title, modifierLetter, otherLetter, nonspacingMark, spacingMark, enclosingMark,
   decimalNumber, letterNumber, otherNumber, connector, dash, opener, closer, initialQuote,
   finalQuote, otherPunctuation, mathSymbol, currency, modifierSymbol, otherSymbol, space,
   lineSeparator, paragraphSeparator, control, format, surrogate, privateUse]

/-- The code points of an assigned category; none for `unassigned`. -/
def ranges : Category → Ranges
  | upper => upperLetters
  | lower => lowerLetters
  | title => titleLetters
  | modifierLetter => modifierLetters
  | otherLetter => otherLetters
  | nonspacingMark => nonspacingMarks
  | spacingMark => spacingMarks
  | enclosingMark => enclosingMarks
  | decimalNumber => decimalNumbers
  | letterNumber => letterNumbers
  | otherNumber => otherNumbers
  | connector => connectors
  | dash => dashes
  | opener => openers
  | closer => closers
  | initialQuote => initialQuotes
  | finalQuote => finalQuotes
  | otherPunctuation => otherPunctuations
  | mathSymbol => mathSymbols
  | currency => currencies
  | modifierSymbol => modifierSymbols
  | otherSymbol => otherSymbols
  | space => spaces
  | lineSeparator => lineSeparators
  | paragraphSeparator => paragraphSeparators
  | control => controls
  | format => formats
  | surrogate => surrogates
  | privateUse => privateUses
  | unassigned => []

/-- The code point `n` belongs to the category. -/
def has (c : Category) (n : Nat) : Bool :=
  match c with
  | unassigned => !assigned.any (·.ranges.contains n)
  | _ => c.ranges.contains n

/-- The code point belongs to one of the categories. -/
def hasAny (cs : List Category) (n : Nat) : Bool :=
  cs.any (·.has n)

end Category

open Category

/-- The categories of characters that are never shown as they are. -/
def unprintable : List Category :=
  [control, format, surrogate, privateUse, unassigned, lineSeparator, paragraphSeparator,
   Category.space]

/-- A character that may be shown as it is: of the separators, only the plain space. -/
def isPrinting (c : Char) : Bool :=
  c == ' ' || (if c.toNat < 0x7F then 0x20 ≤ c.toNat else !hasAny unprintable c.toNat)

/-- A character that joins onto the one before it. -/
def isGraphemeExtend (c : Char) : Bool :=
  0x7F ≤ c.toNat &&
    (hasAny [nonspacingMark, enclosingMark] c.toNat || graphemeExtendExtras.contains c.toNat)

/-- A character with case. -/
def isCased (c : Char) : Bool :=
  hasAny [upper, lower, title] c.toNat || casedExtras.contains c.toNat

/-- A character that casing looks through. -/
def isCaseIgnorable (c : Char) : Bool :=
  hasAny [nonspacingMark, enclosingMark, format, modifierLetter, modifierSymbol] c.toNat ||
    caseIgnorableExtras.contains c.toNat

end Fleet.Unicode
