import CratePlan.Text.Category.Letter
import CratePlan.Text.Category.Mark
import CratePlan.Text.Category.Sign
import CratePlan.Text.WordCharacter

/-!
# General categories

The Unicode standard puts every code point into one category. Most categories are tables.
Two are what is left over: the letters of no other kind among the characters that are
assigned, and the code points that are not assigned.

A category has a code of two letters and a full name. A name may also stand for several
categories together, such as all letters.
-/

namespace CratePlan.Text

/-- A general category. -/
inductive Category where
  | capital
  | small
  | title
  | modifierLetter
  /-- A letter of no other kind. -/
  | letter
  | nonspacingMark
  | spacingMark
  | enclosingMark
  | digit
  | letterNumber
  | otherNumber
  | connector
  | dash
  | opening
  | closing
  | initialQuote
  | finalQuote
  | otherPunctuation
  | mathSymbol
  | currencySymbol
  | modifierSymbol
  | otherSymbol
  | space
  | lineSeparator
  | paragraphSeparator
  | control
  | format
  | privateUse
  | unassigned
deriving Repr, DecidableEq, Inhabited

namespace Category

/-- Letters with a case. -/
def casedLetters : List Category := [capital, small, title]

/-- Letters. -/
def letters : List Category := casedLetters ++ [modifierLetter, letter]

/-- Marks. -/
def marks : List Category := [nonspacingMark, spacingMark, enclosingMark]

/-- Numbers. -/
def numbers : List Category := [digit, letterNumber, otherNumber]

/-- Punctuation. -/
def punctuation : List Category :=
  [connector, dash, opening, closing, initialQuote, finalQuote, otherPunctuation]

/-- Symbols. -/
def symbols : List Category := [mathSymbol, currencySymbol, modifierSymbol, otherSymbol]

/-- Separators. -/
def separators : List Category := [space, lineSeparator, paragraphSeparator]

/-- The categories that are left. -/
def others : List Category := [control, format, privateUse, unassigned]

/-- All categories. -/
def all : List Category :=
  letters ++ marks ++ numbers ++ punctuation ++ symbols ++ separators ++ others

/-- Every category is among them. -/
theorem mem_all (category : Category) : category ∈ all := by
  cases category <;> decide

/-- The table of a category: those of its intervals that hold characters are its
characters. The two categories without a table have none. -/
def ranges : Category → CodeRanges
  | capital => capitalRanges ++ capitalRuns.everyOther
  | small => smallRanges ++ smallRuns.everyOther
  | title => titleRanges
  | modifierLetter => modifierRanges
  | letter => []
  | nonspacingMark => nonspacingRanges
  | spacingMark => spacingRanges
  | enclosingMark => enclosingRanges
  | digit => decimalRanges
  | letterNumber => letterNumberRanges
  | otherNumber => otherNumberRanges
  | connector => connectorRanges
  | dash => dashRanges
  | opening => openRanges ++ openRuns.everyOther
  | closing => closeRanges ++ closeRuns.everyOther
  | initialQuote => initialQuoteRanges
  | finalQuote => finalQuoteRanges
  | otherPunctuation => otherPunctuationRanges
  | mathSymbol => mathSymbolRanges
  | currencySymbol => currencyRanges
  | modifierSymbol => modifierSymbolRanges
  | otherSymbol => otherSymbolRanges
  | space => spaceRanges
  | lineSeparator => [(0x2028, 0x2028)]
  | paragraphSeparator => [(0x2029, 0x2029)]
  | control => controlRanges
  | format => formatRanges
  | privateUse => privateRanges
  | unassigned => []

/-- Names of categories and of several categories together, in small letters without
separators. -/
def names : List (List String × List Category) :=
  [(["l", "letter"], letters),
    (["lc", "casedletter"], casedLetters),
    (["lu", "uppercaseletter"], [capital]),
    (["ll", "lowercaseletter"], [small]),
    (["lt", "titlecaseletter"], [title]),
    (["lm", "modifierletter"], [modifierLetter]),
    (["lo", "otherletter"], [letter]),
    (["m", "mark", "combiningmark"], marks),
    (["mn", "nonspacingmark"], [nonspacingMark]),
    (["mc", "spacingmark"], [spacingMark]),
    (["me", "enclosingmark"], [enclosingMark]),
    (["n", "number"], numbers),
    (["nd", "decimalnumber", "digit"], [digit]),
    (["nl", "letternumber"], [letterNumber]),
    (["no", "othernumber"], [otherNumber]),
    (["p", "punctuation", "punct"], punctuation),
    (["pc", "connectorpunctuation"], [connector]),
    (["pd", "dashpunctuation"], [dash]),
    (["ps", "openpunctuation"], [opening]),
    (["pe", "closepunctuation"], [closing]),
    (["pi", "initialpunctuation"], [initialQuote]),
    (["pf", "finalpunctuation"], [finalQuote]),
    (["po", "otherpunctuation"], [otherPunctuation]),
    (["s", "symbol"], symbols),
    (["sm", "mathsymbol"], [mathSymbol]),
    (["sc", "currencysymbol"], [currencySymbol]),
    (["sk", "modifiersymbol"], [modifierSymbol]),
    (["so", "othersymbol"], [otherSymbol]),
    (["z", "separator"], separators),
    (["zs", "spaceseparator"], [space]),
    (["zl", "lineseparator"], [lineSeparator]),
    (["zp", "paragraphseparator"], [paragraphSeparator]),
    (["c", "other"], others),
    (["cc", "control", "cntrl"], [control]),
    (["cf", "format"], [format]),
    (["co", "privateuse"], [privateUse]),
    (["cn", "unassigned"], [unassigned])]

/-- The categories that a name stands for. -/
def named? (name : String) : Option (List Category) :=
  (names.find? (·.1.contains name)).map Prod.snd

end Category

end CratePlan.Text
