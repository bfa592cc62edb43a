import LineTemplate.Pattern.Syntax

/-!
Contract: the names by which regular expressions ask for Unicode properties.

Owns:
- the loose comparison of such names;
- the names that are known, and `PropertyQuery.isKnown`.

Does not own: which characters have a property.
-/

namespace LineTemplate

namespace PropertyName

/-- Properties that hold or do not hold of a character. -/
def properties : List String := [
  "ahex", "alpha", "alphabetic", "asciihexdigit", "bidic", "bidicontrol", "cased",
  "caseignorable", "changeswhencasefolded", "changeswhencasemapped",
  "changeswhenlowercased", "changeswhentitlecased", "changeswhenuppercased", "ci",
  "cwcf", "cwcm", "cwl", "cwt", "cwu", "dash", "defaultignorablecodepoint", "dep",
  "deprecated", "di", "dia", "diacritic", "ebase", "ecomp", "emod", "emoji",
  "emojicomponent", "emojimodifier", "emojimodifierbase", "emojipresentation", "epres",
  "ext", "extendedpictographic", "extender", "extpict", "graphemebase", "graphemeextend",
  "graphemelink", "grbase", "grext", "grlink", "hex", "hexdigit", "hyphen", "idc",
  "idcompatmathcontinue", "idcompatmathstart", "idcontinue", "ideo", "ideographic",
  "ids", "idsb", "idsbinaryoperator", "idst", "idstart", "idstrinaryoperator", "idsu",
  "idsunaryoperator", "joinc", "joincontrol", "loe", "logicalorderexception", "lower",
  "lowercase", "math", "mcm", "modifiercombiningmark", "nchar", "noncharactercodepoint",
  "oalpha", "odi", "ogrext", "oidc", "oids", "olower", "omath", "otheralphabetic",
  "otherdefaultignorablecodepoint", "othergraphemeextend", "otheridcontinue",
  "otheridstart", "otherlowercase", "othermath", "otheruppercase", "oupper", "patsyn",
  "patternsyntax", "patternwhitespace", "patws", "pcm", "prependedconcatenationmark",
  "qmark", "quotationmark", "radical", "regionalindicator", "ri", "sd",
  "sentenceterminal", "softdotted", "space", "sterm", "term", "terminalpunctuation",
  "uideo", "unifiedideograph", "upper", "uppercase", "variationselector", "vs",
  "whitespace", "wspace", "xidc", "xidcontinue", "xids", "xidstart"]

/-- General categories, and the three classes that count as such. Surrogates are no
characters, so their category is missing. -/
def categories : List String := [
  "any", "ascii", "assigned", "c", "casedletter", "cc", "cf", "closepunctuation", "cn",
  "cntrl", "co", "combiningmark", "connectorpunctuation", "control", "currencysymbol",
  "dashpunctuation", "decimalnumber", "digit", "enclosingmark", "finalpunctuation",
  "format", "initialpunctuation", "l", "lc", "letter", "letternumber", "lineseparator",
  "ll", "lm", "lo", "lowercaseletter", "lt", "lu", "m", "mark", "mathsymbol", "mc", "me",
  "mn", "modifierletter", "modifiersymbol", "n", "nd", "nl", "no", "nonspacingmark",
  "number", "openpunctuation", "other", "otherletter", "othernumber", "otherpunctuation",
  "othersymbol", "p", "paragraphseparator", "pc", "pd", "pe", "pf", "pi", "po",
  "privateuse", "ps", "punct", "punctuation", "s", "sc", "separator", "sk", "sm", "so",
  "spaceseparator", "spacingmark", "symbol", "titlecaseletter", "unassigned",
  "uppercaseletter", "z", "zl", "zp", "zs"]

/-- Scripts that have characters. -/
def scripts : List String := [
  "adlam", "adlm", "aghb", "ahom", "anatolianhieroglyphs", "arab", "arabic", "armenian",
  "armi", "armn", "avestan", "avst", "bali", "balinese", "bamu", "bamum", "bass",
  "bassavah", "batak", "batk", "beng", "bengali", "berf", "beriaerfe", "bhaiksuki",
  "bhks", "bopo", "bopomofo", "brah", "brahmi", "brai", "braille", "bugi", "buginese",
  "buhd", "buhid", "cakm", "canadianaboriginal", "cans", "cari", "carian",
  "caucasianalbanian", "chakma", "cham", "cher", "cherokee", "chorasmian", "chrs",
  "common", "copt", "coptic", "cpmn", "cprt", "cuneiform", "cypriot", "cyprominoan",
  "cyrillic", "cyrl", "deseret", "deva", "devanagari", "diak", "divesakuru", "dogr",
  "dogra", "dsrt", "dupl", "duployan", "egyp", "egyptianhieroglyphs", "elba", "elbasan",
  "elym", "elymaic", "ethi", "ethiopic", "gara", "garay", "geor", "georgian", "glag",
  "glagolitic", "gong", "gonm", "goth", "gothic", "gran", "grantha", "greek", "grek",
  "gujarati", "gujr", "gukh", "gunjalagondi", "gurmukhi", "guru", "gurungkhema", "han",
  "hang", "hangul", "hani", "hanifirohingya", "hano", "hanunoo", "hatr", "hatran",
  "hebr", "hebrew", "hira", "hiragana", "hluw", "hmng", "hmnp", "hung",
  "imperialaramaic", "inherited", "inscriptionalpahlavi", "inscriptionalparthian",
  "ital", "java", "javanese", "kaithi", "kali", "kana", "kannada", "katakana", "kawi",
  "kayahli", "khar", "kharoshthi", "khitansmallscript", "khmer", "khmr", "khoj",
  "khojki", "khudawadi", "kiratrai", "kits", "knda", "krai", "kthi", "lana", "lao",
  "laoo", "latin", "latn", "lepc", "lepcha", "limb", "limbu", "lina", "linb", "lineara",
  "linearb", "lisu", "lyci", "lycian", "lydi", "lydian", "mahajani", "mahj", "maka",
  "makasar", "malayalam", "mand", "mandaic", "mani", "manichaean", "marc", "marchen",
  "masaramgondi", "medefaidrin", "medf", "meeteimayek", "mend", "mendekikakui", "merc",
  "mero", "meroiticcursive", "meroitichieroglyphs", "miao", "mlym", "modi", "mong",
  "mongolian", "mro", "mroo", "mtei", "mult", "multani", "myanmar", "mymr", "nabataean",
  "nagm", "nagmundari", "nand", "nandinagari", "narb", "nbat", "newa", "newtailue",
  "nko", "nkoo", "nshu", "nushu", "nyiakengpuachuehmong", "ogam", "ogham", "olchiki",
  "olck", "oldhungarian", "olditalic", "oldnortharabian", "oldpermic", "oldpersian",
  "oldsogdian", "oldsoutharabian", "oldturkic", "olduyghur", "olonal", "onao", "oriya",
  "orkh", "orya", "osage", "osge", "osma", "osmanya", "ougr", "pahawhhmong", "palm",
  "palmyrene", "pauc", "paucinhau", "perm", "phag", "phagspa", "phli", "phlp", "phnx",
  "phoenician", "plrd", "prti", "psalterpahlavi", "qaac", "qaai", "rejang", "rjng",
  "rohg", "runic", "runr", "samaritan", "samr", "sarb", "saur", "saurashtra", "sgnw",
  "sharada", "shavian", "shaw", "shrd", "sidd", "siddham", "sidetic", "sidt",
  "signwriting", "sind", "sinh", "sinhala", "sogd", "sogdian", "sogo", "sora",
  "sorasompeng", "soyo", "soyombo", "sund", "sundanese", "sunu", "sunuwar", "sylo",
  "sylotinagri", "syrc", "syriac", "tagalog", "tagb", "tagbanwa", "taile", "taitham",
  "taiviet", "taiyo", "takr", "takri", "tale", "talu", "tamil", "taml", "tang", "tangsa",
  "tangut", "tavt", "tayo", "telu", "telugu", "tfng", "tglg", "thaa", "thaana", "thai",
  "tibetan", "tibt", "tifinagh", "tirh", "tirhuta", "tnsa", "todhri", "todr",
  "tolongsiki", "tols", "toto", "tulutigalari", "tutg", "ugar", "ugaritic", "vai",
  "vaii", "vith", "vithkuqi", "wancho", "wara", "warangciti", "wcho", "xpeo", "xsux",
  "yezi", "yezidi", "yi", "yiii", "zanabazarsquare", "zanb", "zinh", "zyyy"]

/-- Values of Grapheme_Cluster_Break that have characters. -/
def graphemeBreaks : List String := [
  "cn", "control", "cr", "ex", "extend", "l", "lf", "lv", "lvt", "pp", "prepend",
  "regionalindicator", "ri", "sm", "spacingmark", "t", "v", "zwj"]

/-- Values of Sentence_Break that have characters. -/
def sentenceBreaks : List String := [
  "at", "aterm", "cl", "close", "cr", "ex", "extend", "fo", "format", "le", "lf", "lo",
  "lower", "nu", "numeric", "oletter", "sc", "scontinue", "se", "sep", "sp", "st",
  "sterm", "up", "upper"]

/-- Values of Word_Break that have characters. -/
def wordBreaks : List String := [
  "aletter", "cr", "doublequote", "dq", "ex", "extend", "extendnumlet", "fo", "format",
  "hebrewletter", "hl", "ka", "katakana", "le", "lf", "mb", "midletter", "midnum",
  "midnumlet", "ml", "mn", "newline", "nl", "nu", "numeric", "regionalindicator", "ri",
  "singlequote", "sq", "wsegspace", "zwj"]

/-- Versions of the standard in which characters were assigned. -/
def ages : List String := [
  "1.1", "2.0", "2.1", "3.0", "3.1", "3.2", "4.0", "4.1", "5.0", "5.1", "5.2", "6.0",
  "6.1", "6.2", "6.3", "7.0", "8.0", "9.0", "10.0", "11.0", "12.0", "12.1", "13.0",
  "14.0", "15.0", "15.1", "16.0", "17.0", "v11", "v20", "v21", "v30", "v31", "v32",
  "v40", "v41", "v50", "v51", "v52", "v60", "v61", "v62", "v63", "v70", "v80", "v90",
  "v100", "v110", "v120", "v121", "v130", "v140", "v150", "v151", "v160", "v170"]

/-- Whether a text begins with `is` in any case. -/
def hasIs : Text → Bool
  | first :: second :: _ => (first = 'i' || first = 'I') && (second = 's' || second = 'S')
  | _ => false

def lowerCase (c : Char) : Char :=
  if 'A' ≤ c ∧ c ≤ 'Z' then Char.ofNat (c.toNat + 32) else c

/-- The form in which names are compared: without a leading `is`, without
spaces, underscores, hyphens and characters outside ASCII, in lower case. Only
`isc` keeps its lead, since it is a name of its own and not the category `c`. -/
def normalize (name : Text) : Text :=
  let stem := if hasIs name then name.drop 2 else name
  let kept :=
    (stem.filter fun c => c.toNat < 128 && c != ' ' && c != '_' && c != '-').map lowerCase
  if hasIs name ∧ kept = ['c'] then "isc".toList else kept

/-- Whether a normalized name is in a list. -/
def isIn (names : List String) (name : Text) : Bool := names.contains (String.ofList name)

/-- The values of a property that can be asked for by value. -/
def valuesOf (property : Text) : List String :=
  if isIn ["gc", "generalcategory"] property then categories
  else if isIn ["sc", "script", "scx", "scriptextensions"] property then scripts
  else if isIn ["age"] property then ages
  else if isIn ["gcb", "graphemeclusterbreak"] property then graphemeBreaks
  else if isIn ["sb", "sentencebreak"] property then sentenceBreaks
  else if isIn ["wb", "wordbreak"] property then wordBreaks
  else []

end PropertyName

namespace PropertyQuery

def isKnown : PropertyQuery → Bool
  | .named name =>
      let normal := PropertyName.normalize name
      PropertyName.isIn PropertyName.properties normal ||
        PropertyName.isIn PropertyName.categories normal ||
        PropertyName.isIn PropertyName.scripts normal
  | .valued property value =>
      PropertyName.isIn (PropertyName.valuesOf (PropertyName.normalize property))
        (PropertyName.normalize value)

end PropertyQuery

end LineTemplate
