import CratePlan.Pattern.CharSet
import CratePlan.Text.Age
import CratePlan.Text.Category
import CratePlan.Text.Property
import CratePlan.Text.Script

/-!
# Sets that are named by a property

A pattern may name a set of characters by a property that they have: their category,
their script, the version that they are assigned since, or one of the properties that a
character has or has not. Such a property is described by a `SetRule`, since most of
them follow from the category but for some characters.

The properties that say where a text breaks into clusters, words and sentences are left
out, and a pattern that names one of them is refused.

Names are compared by their small letters, without separators.
-/

namespace CratePlan.CharSet

open CratePlan.Text

/-- The characters of some intervals, in any order. -/
def ofCodes (ranges : CodeRanges) : CharSet :=
  ⟨ranges.foldr insertRange []⟩

/-- The characters that a version has assigned, if it is there, or an earlier one. -/
def assignedBy? (version : String) : Option CharSet :=
  let names (row : String × CodeRanges) := [row.1, "v" ++ row.1.replace "." ""]
  let earlier := versions.takeWhile fun row => !(names row).contains version
  (versions.find? fun row => (names row).contains version).map fun row =>
    ofCodes ((row :: earlier).flatMap Prod.snd)

/-- The characters that are assigned. -/
def assigned : CharSet :=
  (ofCodes (versions.flatMap Prod.snd)).minus (ofCodes noncharacterRanges)

/-! ## Categories and scripts -/

/-- The characters of some categories that have a table. -/
def ofTables (categories : List Category) : CharSet :=
  assigned.inter (ofCodes (categories.flatMap Category.ranges))

/-- The characters of some categories. The letters without a table are found by what
the other categories leave. -/
def ofCategories (categories : List Category) : CharSet :=
  let left := Category.all.filter (!categories.contains ·)
  if categories.contains .letter then
    let others := ofTables left
    if categories.contains .unassigned then others.complement
    else assigned.minus others
  else
    let set := ofTables categories
    if categories.contains .unassigned then set.union assigned.complement else set

/-- The characters of the common script. -/
def common : CharSet :=
  assigned.minus (ofCodes (privateRanges ++ scripts.flatMap Script.ranges))

/-- The code and the characters of the script with a name. -/
def script? (name : String) : Option (String × CharSet) :=
  if commonNames.contains name then some ("zyyy", common)
  else
    (scripts.find? (·.names.contains name)).map fun script =>
      (script.names.headD "", assigned.inter (ofCodes script.ranges))

/-- The characters that are used with the script of a name: its own, but those that are
said to be used otherwise only if this script is among those that use them. -/
def scriptUse? (name : String) : Option CharSet :=
  (script? name).map fun (code, set) =>
    let shared := sharedRanges.map Prod.fst
    let used := (sharedRanges.filter (·.2.contains code)).map Prod.fst
    (set.minus (ofCodes shared)).union (ofCodes used)

/-! ## Other properties -/

/-- How the characters with a property are found. -/
inductive SetRule where
  | codes (ranges : CodeRanges)
  | categories (categories : List Category)
  /-- The characters that differ in case only from another. -/
  | cased
  | either (first second : SetRule)
  | both (first second : SetRule)
  | except (first second : SetRule)
deriving Repr, DecidableEq, Inhabited

namespace SetRule

/-- The characters that a rule describes. -/
def set : SetRule → CharSet
  | codes ranges => ofCodes ranges
  | categories list => ofCategories list
  | cased => ofCodes (casedCodes.map fun code => (code, code))
  | either first second => first.set.union second.set
  | both first second => first.set.inter second.set
  | except first second => first.set.minus second.set

/-- Small letters, and what counts as such. -/
def lowercase : SetRule := either (categories [.small]) (codes smallLikeRanges)

/-- Capitals, and what counts as such. -/
def uppercase : SetRule := either (categories [.capital]) (codes capitalLikeRanges)

/-- Alphabetic characters. -/
def alphabetic : SetRule :=
  either (categories (Category.letterNumber :: Category.letters))
    (codes (smallLikeRanges ++ capitalLikeRanges ++ alphabeticLikeRanges))

/-- The characters that patterns keep for themselves. -/
def ofPatterns : SetRule := codes (patternSyntaxRanges ++ patternBlankRanges)

/-- The characters that a name may start with. -/
def nameStart : SetRule :=
  except (either (categories (Category.letterNumber :: Category.letters))
    (codes nameStartLikeRanges)) ofPatterns

/-- The characters that a name may go on with. -/
def nameRest : SetRule :=
  except (either (categories ([.letterNumber, .nonspacingMark, .spacingMark, .digit,
    .connector] ++ Category.letters)) (codes (nameStartLikeRanges ++ nameLikeRanges))) ofPatterns

/-- The characters that extend the one before them. -/
def extending : SetRule :=
  either (categories [.nonspacingMark, .enclosingMark]) (codes extendLikeRanges)

/-- The characters whose lowercase form is another text. A dotted capital I has one with
two characters. -/
def lowercased : SetRule :=
  either (both (either uppercase (categories [.title])) cased) (codes [(0x0130, 0x0130)])

/-- The characters whose uppercase form is another text. -/
def uppercased : SetRule :=
  either (both (either lowercase (categories [.title])) cased) (codes capitalizedTogetherRanges)

/-- The characters whose form at the start of a title is another text. -/
def titlecased : SetRule :=
  either (except (except uppercased (categories [.title])) (codes untitledRanges))
    (codes digraphCapitalRanges)

/-- The characters that folding of case changes. -/
def casefolded : SetRule :=
  either (except lowercased (codes unfoldedCapitalRanges)) (codes foldedSmallRanges)

/-- The characters that may be passed over where they are not known. -/
def ignorable : SetRule :=
  except
    (either (categories [.format]) (codes (ignorableLikeRanges ++ selectorRanges)))
    (codes (numberSignRanges ++ [(0xFFF9, 0xFFFB), (0x13430, 0x1343F)]))

/-- The characters that take a place of their own. -/
def standing : SetRule :=
  except (codes [(0, lastCode)])
    (either extending
      (categories ([.lineSeparator, .paragraphSeparator] ++ Category.others)))

end SetRule

/-- The properties that a character has or has not: their names and their rules. -/
def properties : List (List String × SetRule) :=
  [(["alphabetic", "alpha"], .alphabetic),
    (["asciihexdigit", "ahex"], .codes [(0x30, 0x39), (0x41, 0x46), (0x61, 0x66)]),
    (["bidicontrol", "bidic"], .codes bidiControlRanges),
    (["bidimirrored", "bidim"], .codes mirroredRanges),
    (["caseignorable", "ci"],
      .either (.categories [.nonspacingMark, .enclosingMark, .format, .modifierLetter,
        .modifierSymbol]) (.codes wordMiddleRanges)),
    (["cased"],
      .either (.either .lowercase .uppercase) (.categories [.title])),
    (["changeswhencasefolded", "cwcf"], .casefolded),
    (["changeswhencasemapped", "cwcm"],
      .either (.either .lowercased .uppercased) .titlecased),
    (["changeswhenlowercased", "cwl"], .lowercased),
    (["changeswhentitlecased", "cwt"], .titlecased),
    (["changeswhenuppercased", "cwu"], .uppercased),
    (["dash"], .codes dashLikeRanges),
    (["defaultignorablecodepoint", "di"], .ignorable),
    (["deprecated", "dep"], .codes deprecatedRanges),
    (["diacritic", "dia"], .codes diacriticRanges),
    (["emoji"], .codes emojiRanges),
    (["emojicomponent", "ecomp"], .codes emojiPartRanges),
    (["emojimodifier", "emod"], .codes emojiModifierRanges),
    (["emojimodifierbase", "ebase"], .codes emojiBaseRanges),
    (["emojipresentation", "epres"], .codes emojiShownRanges),
    (["extendedpictographic", "extpict"], .codes pictographRanges),
    (["extender", "ext"], .codes extenderRanges),
    (["graphemebase", "grbase"], .standing),
    (["graphemeextend", "grext"], .extending),
    (["graphemelink", "grlink"], .codes linkRanges),
    (["hexdigit", "hex"], .codes hexRanges),
    (["hyphen"], .codes hyphenRanges),
    (["idcompatmathcontinue"], .codes (nablaRanges ++ powerRanges)),
    (["idcompatmathstart"], .codes nablaRanges),
    (["idcontinue", "idc"], .nameRest),
    (["idstart", "ids"], .nameStart),
    (["idsbinaryoperator", "idsb"], .codes binaryDescriptionRanges),
    (["idstrinaryoperator", "idst"], .codes ternaryDescriptionRanges),
    (["idsunaryoperator", "idsu"], .codes unaryDescriptionRanges),
    (["ideographic", "ideo"], .codes ideographRanges),
    (["joincontrol", "joinc"], .codes joinControlRanges),
    (["logicalorderexception", "loe"], .codes logicalOrderRanges),
    (["lowercase", "lower"], .lowercase),
    (["math"], .either (.categories [.mathSymbol]) (.codes mathLikeRanges)),
    (["modifiercombiningmark", "mcm"], .codes movedMarkRanges),
    (["noncharactercodepoint", "nchar"], .codes noncharacterRanges),
    (["otheralphabetic", "oalpha"], .codes alphabeticLikeRanges),
    (["otherdefaultignorablecodepoint", "odi"], .codes ignorableLikeRanges),
    (["othergraphemeextend", "ogrext"], .codes extendLikeRanges),
    (["otheridcontinue", "oidc"], .codes nameLikeRanges),
    (["otheridstart", "oids"], .codes nameStartLikeRanges),
    (["otherlowercase", "olower"], .codes smallLikeRanges),
    (["othermath", "omath"], .codes mathLikeRanges),
    (["otheruppercase", "oupper"], .codes capitalLikeRanges),
    (["patternsyntax", "patsyn"], .codes patternSyntaxRanges),
    (["patternwhitespace", "patws"], .codes patternBlankRanges),
    (["prependedconcatenationmark", "pcm"], .codes numberSignRanges),
    (["quotationmark", "qmark"], .codes quotationRanges),
    (["radical"], .codes radicalRanges),
    (["regionalindicator", "ri"], .codes flagLetterRanges),
    (["sentenceterminal", "sterm"], .codes sentenceEndRanges),
    (["softdotted", "sd"], .codes dottedRanges),
    (["terminalpunctuation", "term"], .codes pauseRanges),
    (["unifiedideograph", "uideo"], .codes unifiedIdeographRanges),
    (["uppercase", "upper"], .uppercase),
    (["variationselector", "vs"], .codes selectorRanges),
    (["whitespace", "wspace", "space"], .codes blankRanges),
    (["xidcontinue", "xidc"], .except .nameRest (.codes unstableNameRanges)),
    (["xidstart", "xids"],
      .except .nameStart (.codes (unstableNameRanges ++ unstableStartRanges)))]

/-! ## Names -/

/-- A name without separators, in small letters, and without the word *is* in front.
Characters beyond ASCII do not count. The word is kept in one name that it would make
that of a category. -/
def plainName (name : List Char) : String :=
  let small := name.map Char.toLower
  let hasIs := small.take 2 == ['i', 's']
  let kept := (if hasIs then small.drop 2 else small).filter fun c =>
    c.toNat < 128 && c != ' ' && c != '_' && c != '-'
  if hasIs && kept == ['c'] then "isc" else String.ofList kept

/-- The characters of a general category, or of several, by name. -/
def category? : String → Option CharSet
  | "any" => some all
  | "ascii" => some ascii
  | "assigned" => some assigned
  | name => (Category.named? name).map ofCategories

/-- The characters that have a value of a property. -/
def withValue? (property value : String) : Option CharSet :=
  if ["generalcategory", "gc"].contains property then category? value
  else if ["script", "sc"].contains property then (script? value).map Prod.snd
  else if ["scriptextensions", "scx"].contains property then scriptUse? value
  else if property == "age" then assignedBy? value
  else Option.none

/-- The characters that are named by a word, which is a property, a category or a
script. -/
def named? (name : String) : Option CharSet :=
  ((properties.find? (·.1.contains name)).map (·.2.set)).or
    ((category? name).or ((script? name).map Prod.snd))

/-- The property and its value that a text gives, by the first sign between two parts. -/
def splitQuery? (text : List Char) : Option (List Char × List Char) :=
  let name := text.takeWhile fun c => c != ':' && c != '='
  match text.drop name.length with
  | '=' :: value =>
    some (if name.getLast? == some '!' then name.dropLast else name, value)
  | ':' :: value => some (name, value)
  | _ => Option.none

/-- The characters that a text asks for: a name alone, or a property and its value. -/
def ofQuery? (text : List Char) : Option CharSet :=
  match splitQuery? text with
  | some (property, value) => withValue? (plainName property) (plainName value)
  | Option.none => named? (plainName text)

end CratePlan.CharSet
