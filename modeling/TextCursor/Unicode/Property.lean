import TextCursor.Unicode.Age
import TextCursor.Unicode.Break
import TextCursor.Unicode.Casing

/-! # Character properties

    Named sets of characters: yes-or-no properties, general categories, scripts,
    and properties with a value.  Names are compared after normalization, which
    drops case, blanks, hyphens, underscores and a leading "is".  Some names are
    known though no set goes with them. -/

namespace TextCursor.Unicode

/-- The characters that are passed over when it is asked what a letter stands next to. -/
def caseIgnorable : CharSet :=
  (Category.membersOf
    [.nonspacingMark, .enclosingMark, .format, .modifierLetter, .modifierSymbol]).union
    (CharSet.ofRanges
      [(0x27, 0x27), (0x2E, 0x2E), (0x3A, 0x3A), (0xB7, 0xB7), (0x387, 0x387), (0x55F, 0x55F),
       (0x5F4, 0x5F4), (0x2018, 0x2019), (0x2024, 0x2024), (0x2027, 0x2027), (0xFE13, 0xFE13),
       (0xFE52, 0xFE52), (0xFE55, 0xFE55), (0xFF07, 0xFF07), (0xFF0E, 0xFF0E), (0xFF1A, 0xFF1A)])

/-- The characters that others extend. -/
def graphemeBase : CharSet :=
  Category.assignedSet.diff ((Category.membersOf
    [.control, .format, .surrogate, .privateUse, .lineSeparator,
     .paragraphSeparator]).union graphemeExtend)

/-- The characters besides letters that may begin a name. -/
def otherNameStart : CharSet :=
  CharSet.ofRanges
    [(0x1885, 0x1886), (0x2118, 0x2118), (0x212E, 0x212E), (0x309B, 0x309C)]

/-- The characters that may begin a name. -/
def nameStart : CharSet :=
  ((Category.membersOf
    [.upperLetter, .lowerLetter, .titleLetter, .modifierLetter, .otherLetter,
     .letterNumber]).union otherNameStart).diff (one 0x2E2F)

/-- The characters besides letters, marks, digits and connectors that may continue a name. -/
def otherNameContinue : CharSet :=
  CharSet.ofRanges
    [(0xB7, 0xB7), (0x387, 0x387), (0x1369, 0x1371), (0x19DA, 0x19DA), (0x200C, 0x200D),
     (0x30FB, 0x30FB), (0xFF65, 0xFF65)]

/-- The characters that may continue a name. -/
def nameContinue : CharSet :=
  CharSet.unions
    [nameStart, otherNameContinue,
     Category.membersOf
      [.nonspacingMark, .spacingMark, .decimalNumber, .connectorPunctuation]]

/-- The characters that may continue a name, but not every name that counts as the same one. -/
def unstableContinue : CharSet :=
  CharSet.ofRanges
    [(0x37A, 0x37A), (0x309B, 0x309C), (0xFC5E, 0xFC63), (0xFDFA, 0xFDFB), (0xFE70, 0xFE70),
     (0xFE72, 0xFE72), (0xFE74, 0xFE74), (0xFE76, 0xFE76), (0xFE78, 0xFE78), (0xFE7A, 0xFE7A),
     (0xFE7C, 0xFE7C), (0xFE7E, 0xFE7E)]

/-- The characters that may begin a name, but not every name that counts as the same one. -/
def unstableStart : CharSet :=
  unstableContinue.union
    (CharSet.ofRanges [(0xE33, 0xE33), (0xEB3, 0xEB3), (0xFF9E, 0xFF9F)])

/-- The symbols of mathematics that may begin a name of mathematics. -/
def compatMathStart : CharSet :=
  CharSet.ofRanges
    [(0x2202, 0x2202), (0x2207, 0x2207), (0x221E, 0x221E), (0x1D6C1, 0x1D6C1),
     (0x1D6DB, 0x1D6DB), (0x1D6FB, 0x1D6FB), (0x1D715, 0x1D715), (0x1D735, 0x1D735),
     (0x1D74F, 0x1D74F), (0x1D76F, 0x1D76F), (0x1D789, 0x1D789), (0x1D7A9, 0x1D7A9),
     (0x1D7C3, 0x1D7C3)]

/-- The symbols of mathematics that may continue a name of mathematics. -/
def compatMathContinue : CharSet :=
  compatMathStart.union (CharSet.ofRanges
    [(0xB2, 0xB3), (0xB9, 0xB9), (0x2070, 0x2070), (0x2074, 0x207E), (0x2080, 0x208E)])

/-- The marks of Arabic that are written closest to their letter. -/
def modifierCombiningMark : CharSet :=
  CharSet.ofRanges
    [(0x654, 0x655), (0x658, 0x658), (0x6DC, 0x6DC), (0x6E3, 0x6E3), (0x6E7, 0x6E8),
     (0x8CA, 0x8CB), (0x8CD, 0x8CF), (0x8D3, 0x8D3), (0x8F3, 0x8F3)]

/-- The code points that never become characters. -/
def noncharacter : CharSet :=
  CharSet.ofRanges <| (0xFDD0, 0xFDEF) ::
    (List.range 17).map fun i => (0x10000 * i + 0xFFFE, 0x10000 * i + 0xFFFF)

/-- A yes-or-no property. -/
inductive Trait where
  | asciiHexDigit
  | alphabetic
  | bidiControl
  | bidiMirrored
  | caseIgnorable
  | cased
  | changesWhenFolded
  | changesWhenMapped
  | changesWhenLowered
  | changesWhenTitled
  | changesWhenRaised
  | dash
  | defaultIgnorable
  | deprecatedCharacter
  | diacritic
  | emoji
  | emojiComponent
  | emojiModifier
  | emojiModifierBase
  | emojiPresentation
  | extendedPictographic
  | extender
  | graphemeBase
  | graphemeExtend
  | graphemeLink
  | hexDigit
  | hyphen
  | idCompatMathContinue
  | idCompatMathStart
  | idContinue
  | idStart
  | ideographic
  | idsBinaryOperator
  | idsTrinaryOperator
  | idsUnaryOperator
  | joinControl
  | logicalOrderException
  | lowercase
  | math
  | modifierCombiningMark
  | noncharacter
  | otherAlphabetic
  | otherDefaultIgnorable
  | otherGraphemeExtend
  | otherIdContinue
  | otherIdStart
  | otherLowercase
  | otherMath
  | otherUppercase
  | patternSyntax
  | patternWhiteSpace
  | prependedConcatenationMark
  | quotationMark
  | radical
  | regionalIndicator
  | sentenceTerminal
  | softDotted
  | terminalPunctuation
  | unifiedIdeograph
  | uppercase
  | variationSelector
  | whiteSpace
  | xidContinue
  | xidStart
deriving DecidableEq, Repr

namespace Trait

/-- The yes-or-no properties with their normalized names. -/
def named : List (List String × Trait) :=
  [(["ahex", "asciihexdigit"], .asciiHexDigit),
   (["alpha", "alphabetic"], .alphabetic),
   (["bidic", "bidicontrol"], .bidiControl),
   (["bidim", "bidimirrored"], .bidiMirrored),
   (["ci", "caseignorable"], .caseIgnorable),
   (["cased"], .cased),
   (["cwcf", "changeswhencasefolded"], .changesWhenFolded),
   (["cwcm", "changeswhencasemapped"], .changesWhenMapped),
   (["cwl", "changeswhenlowercased"], .changesWhenLowered),
   (["cwt", "changeswhentitlecased"], .changesWhenTitled),
   (["cwu", "changeswhenuppercased"], .changesWhenRaised),
   (["dash"], .dash),
   (["di", "defaultignorablecodepoint"], .defaultIgnorable),
   (["dep", "deprecated"], .deprecatedCharacter),
   (["dia", "diacritic"], .diacritic),
   (["emoji"], .emoji),
   (["ecomp", "emojicomponent"], .emojiComponent),
   (["emod", "emojimodifier"], .emojiModifier),
   (["ebase", "emojimodifierbase"], .emojiModifierBase),
   (["epres", "emojipresentation"], .emojiPresentation),
   (["extpict", "extendedpictographic"], .extendedPictographic),
   (["ext", "extender"], .extender),
   (["grbase", "graphemebase"], .graphemeBase),
   (["grext", "graphemeextend"], .graphemeExtend),
   (["grlink", "graphemelink"], .graphemeLink),
   (["hex", "hexdigit"], .hexDigit),
   (["hyphen"], .hyphen),
   (["idcompatmathcontinue"], .idCompatMathContinue),
   (["idcompatmathstart"], .idCompatMathStart),
   (["idc", "idcontinue"], .idContinue),
   (["ids", "idstart"], .idStart),
   (["ideo", "ideographic"], .ideographic),
   (["idsb", "idsbinaryoperator"], .idsBinaryOperator),
   (["idst", "idstrinaryoperator"], .idsTrinaryOperator),
   (["idsu", "idsunaryoperator"], .idsUnaryOperator),
   (["joinc", "joincontrol"], .joinControl),
   (["loe", "logicalorderexception"], .logicalOrderException),
   (["lower", "lowercase"], .lowercase),
   (["math"], .math),
   (["mcm", "modifiercombiningmark"], .modifierCombiningMark),
   (["nchar", "noncharactercodepoint"], .noncharacter),
   (["oalpha", "otheralphabetic"], .otherAlphabetic),
   (["odi", "otherdefaultignorablecodepoint"], .otherDefaultIgnorable),
   (["ogrext", "othergraphemeextend"], .otherGraphemeExtend),
   (["oidc", "otheridcontinue"], .otherIdContinue),
   (["oids", "otheridstart"], .otherIdStart),
   (["olower", "otherlowercase"], .otherLowercase),
   (["omath", "othermath"], .otherMath),
   (["oupper", "otheruppercase"], .otherUppercase),
   (["patsyn", "patternsyntax"], .patternSyntax),
   (["patws", "patternwhitespace"], .patternWhiteSpace),
   (["pcm", "prependedconcatenationmark"], .prependedConcatenationMark),
   (["qmark", "quotationmark"], .quotationMark),
   (["radical"], .radical),
   (["ri", "regionalindicator"], .regionalIndicator),
   (["sterm", "sentenceterminal"], .sentenceTerminal),
   (["sd", "softdotted"], .softDotted),
   (["term", "terminalpunctuation"], .terminalPunctuation),
   (["uideo", "unifiedideograph"], .unifiedIdeograph),
   (["upper", "uppercase"], .uppercase),
   (["vs", "variationselector"], .variationSelector),
   (["space", "wspace", "whitespace"], .whiteSpace),
   (["xidc", "xidcontinue"], .xidContinue),
   (["xids", "xidstart"], .xidStart)]

/-- The characters that have a property. -/
def members : Trait → CharSet
  | .asciiHexDigit => Unicode.hexDigit.inter (CharSet.range 0 0x7F)
  | .alphabetic => Unicode.alphabetic
  | .bidiControl => Unicode.bidiControl
  | .bidiMirrored => Unicode.bidiMirrored
  | .caseIgnorable => Unicode.caseIgnorable
  | .cased => Unicode.cased
  | .changesWhenFolded => Unicode.changesWhenFolded
  | .changesWhenMapped => Unicode.changesWhenMapped
  | .changesWhenLowered => Unicode.changesWhenLowered
  | .changesWhenTitled => Unicode.changesWhenTitled
  | .changesWhenRaised => Unicode.changesWhenRaised
  | .dash => Unicode.dash
  | .defaultIgnorable => Unicode.defaultIgnorable
  | .deprecatedCharacter => Unicode.deprecatedCharacter
  | .diacritic => Unicode.diacritic
  | .emoji => Unicode.emoji
  | .emojiComponent => Unicode.emojiComponent
  | .emojiModifier => Unicode.emojiModifier
  | .emojiModifierBase => Unicode.emojiModifierBase
  | .emojiPresentation => Unicode.emojiPresentation
  | .extendedPictographic => Unicode.extendedPictographic
  | .extender => Unicode.extender
  | .graphemeBase => Unicode.graphemeBase
  | .graphemeExtend => Unicode.graphemeExtend
  | .graphemeLink => Unicode.graphemeLink
  | .hexDigit => Unicode.hexDigit
  | .hyphen => Unicode.hyphen
  | .idCompatMathContinue => compatMathContinue
  | .idCompatMathStart => compatMathStart
  | .idContinue => nameContinue
  | .idStart => nameStart
  | .ideographic => Unicode.ideographic
  | .idsBinaryOperator => CharSet.ofRanges [(0x2FF0, 0x2FF1), (0x2FF4, 0x2FFD), (0x31EF, 0x31EF)]
  | .idsTrinaryOperator => CharSet.range 0x2FF2 0x2FF3
  | .idsUnaryOperator => CharSet.range 0x2FFE 0x2FFF
  | .joinControl => Unicode.joinControl
  | .logicalOrderException => Unicode.logicalOrderException
  | .lowercase => Unicode.lowercase
  | .math => (Category.members .mathSymbol).union Unicode.otherMath
  | .modifierCombiningMark => Unicode.modifierCombiningMark
  | .noncharacter => Unicode.noncharacter
  | .otherAlphabetic => Unicode.otherAlphabetic
  | .otherDefaultIgnorable => Unicode.otherDefaultIgnorable
  | .otherGraphemeExtend => Unicode.otherGraphemeExtend
  | .otherIdContinue => otherNameContinue
  | .otherIdStart => otherNameStart
  | .otherLowercase => Unicode.otherLowercase
  | .otherMath => Unicode.otherMath
  | .otherUppercase => Unicode.otherUppercase
  | .patternSyntax => Unicode.patternSyntax
  | .patternWhiteSpace => patternBlank
  | .prependedConcatenationMark => prependedMark
  | .quotationMark => Unicode.quotationMark
  | .radical => Unicode.radical
  | .regionalIndicator => Unicode.regionalIndicator
  | .sentenceTerminal => Unicode.sentenceTerminal
  | .softDotted => Unicode.softDotted
  | .terminalPunctuation => Unicode.terminalPunctuation
  | .unifiedIdeograph => Unicode.unifiedIdeograph
  | .uppercase => Unicode.uppercase
  | .variationSelector => Unicode.variationSelector
  | .whiteSpace => blank
  | .xidContinue => nameContinue.diff unstableContinue
  | .xidStart => nameStart.diff unstableStart

/-- The property with a normalized name. -/
def byName? (name : String) : Option Trait :=
  named.findSome? fun (names, property) => if names.contains name then some property else none

end Trait

/-- Properties that take a value. -/
inductive ValuedProperty where
  | category
  | script
  | scriptExtensions
  | age
  | graphemeBreak
  | wordBreak
  | sentenceBreak
  /-- A property whose values this library does not record. -/
  | unrecorded
deriving DecidableEq, Repr

namespace ValuedProperty

/-- Names of properties that are neither yes-or-no nor recorded with values. -/
def unrecordedNames : List String :=
  ["bc", "bidiclass", "blk", "block", "bmg", "bidimirroringglyph", "bpb",
   "bidipairedbracket", "bpt", "bidipairedbrackettype", "casefolding", "ccc",
   "canonicalcombiningclass", "ce", "compositionexclusion", "compex",
   "fullcompositionexclusion", "cwkcf", "changeswhennfkccasefolded", "dm",
   "decompositionmapping", "dt", "decompositiontype", "ea", "eastasianwidth", "eqideo",
   "equivalentunifiedideograph", "expandsonnfc", "expandsonnfd", "expandsonnfkc",
   "expandsonnfkd", "xonfc", "xonfd", "xonfkc", "xonfkd", "fcnfkc", "fcnfkcclosure",
   "hst", "hangulsyllabletype", "incb", "indicconjunctbreak",
   "inpc", "indicpositionalcategory", "insc", "indicsyllabiccategory", "isc",
   "isocomment", "jg", "joininggroup", "jsn", "jamoshortname", "jt", "joiningtype", "lb",
   "linebreak", "lc", "lowercasemapping", "cf", "na", "name", "na1", "unicode1name",
   "namealias", "nfcqc", "nfcquickcheck", "nfdqc", "nfdquickcheck", "nfkccasefold",
   "nfkccf", "nfkcscf", "nfkcsimplecasefold", "nfkcqc", "nfkcquickcheck", "nfkdqc",
   "nfkdquickcheck", "nt", "numerictype", "nv", "numericvalue",
   "scf", "simplecasefolding", "sfc", "slc", "simplelowercasemapping", "stc",
   "simpletitlecasemapping", "suc", "simpleuppercasemapping", "tc", "titlecasemapping",
   "uc", "uppercasemapping", "vo", "verticalorientation", "cjkaccountingnumeric",
   "kaccountingnumeric", "cjkothernumeric", "kothernumeric", "cjkprimarynumeric",
   "kprimarynumeric", "cjkcompatibilityvariant", "kcompatibilityvariant", "cjkiicore",
   "kiicore", "cjkirggsource", "kirggsource", "cjkirghsource", "kirghsource",
   "cjkirgjsource", "kirgjsource", "cjkirgkpsource", "kirgkpsource", "cjkirgksource",
   "kirgksource", "cjkirgmsource", "kirgmsource", "cjkirgssource", "kirgssource",
   "cjkirgtsource", "kirgtsource", "cjkirguksource", "kirguksource", "cjkirgusource",
   "kirgusource", "cjkirgvsource", "kirgvsource", "cjkrsunicode", "krsunicode",
   "unicoderadicalstroke", "urs"]

/-- The property with a normalized name, as one that takes a value. -/
def byName? (name : String) : Option ValuedProperty :=
  match name with
  | "gc" | "generalcategory" => some .category
  | "sc" | "script" => some .script
  | "scx" | "scriptextensions" => some .scriptExtensions
  | "age" => some .age
  | "gcb" | "graphemeclusterbreak" => some .graphemeBreak
  | "wb" | "wordbreak" => some .wordBreak
  | "sb" | "sentencebreak" => some .sentenceBreak
  | name =>
    if unrecordedNames.contains name || (Trait.byName? name).isSome then some .unrecorded
    else none

/-- The characters for which a property has a value with a normalized name. -/
def members? (property : ValuedProperty) (value : String) : Option CharSet :=
  match property with
  | .category => (CategoryGroup.byName? value).bind CategoryGroup.members?
  | .script => (Script.short? value).bind Script.members?
  | .scriptExtensions => (Script.short? value).bind Script.users?
  | .age => (Version.byName? value).map Version.members
  | .graphemeBreak => GraphemeBreak.byName? value
  | .wordBreak => WordBreak.byName? value
  | .sentenceBreak => SentenceBreak.byName? value
  | .unrecorded => none

end ValuedProperty

/-- Why a property query finds nothing. -/
inductive QueryError where
  | propertyNotFound
  | valueNotFound
deriving DecidableEq, Repr

/-- A query for a set of characters. -/
inductive Query where
  /-- A property, category or script by name. -/
  | named (name : List Char)
  /-- A property with a value. -/
  | valued (name value : List Char)
deriving DecidableEq, Repr

namespace Query

/-- A name without its leading "is", blanks, hyphens, underscores and capitals. -/
def normalize (name : List Char) : String :=
  let hasIs :=
    match name with
    | a :: b :: _ => (a == 'i' || a == 'I') && (b == 's' || b == 'S')
    | _ => false
  let kept := ((if hasIs then name.drop 2 else name).filter fun c =>
    c.toNat < 0x80 && c != ' ' && c != '_' && c != '-').map Char.toLower
  if hasIs && kept == ['c'] then "isc" else String.ofList kept

/-- The set of a value, if there is one. -/
def ofValue (members : Option CharSet) : Except QueryError CharSet :=
  match members with
  | some s => .ok s
  | none => .error .valueNotFound

/-- The set of a category, a group of them or a script. -/
def categoryOrScript (name : String) : Except QueryError CharSet :=
  match CategoryGroup.byName? name, Script.short? name with
  | some g, _ => ofValue g.members?
  | none, some short => ofValue (Script.members? short)
  | none, none => .error .propertyNotFound

/-- The set of a name.  Three short names of properties mean categories when they stand alone. -/
def ofName (name : String) : Except QueryError CharSet :=
  if ["cf", "sc", "lc"].contains name then categoryOrScript name
  else
    match Trait.byName? name with
    | some property => .ok property.members
    | none =>
      if (ValuedProperty.byName? name).isSome then .error .propertyNotFound
      else categoryOrScript name

/-- The set that a query asks for. -/
def run : Query → Except QueryError CharSet
  | .named name => ofName (normalize name)
  | .valued name value =>
    match ValuedProperty.byName? (normalize name) with
    | some property => ofValue (property.members? (normalize value))
    | none => .error .propertyNotFound

end Query

end TextCursor.Unicode
