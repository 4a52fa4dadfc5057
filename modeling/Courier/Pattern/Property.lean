import Courier.Pattern.CharSet
import Courier.Text.Split

/-!
# Properties of characters

A pattern may name a set of characters by a property of Unicode : by a property that a
character has or has not, by a general category or by a script, with the name alone, or by
the name and value of another property. Names are compared without case, blanks, hyphens,
low lines and the word `is` at their front. `named?` and `valued?` give the set, as far as
it matters (`Courier.Pattern.CharSet`), or nothing for a name that is not known.
-/

namespace Courier.Pattern.Property

open CharSet

/-! ### Names -/

/-- A name in the form in which names are compared. Of characters beyond ASCII nothing is left. -/
def normalized (name : List Char) : String :=
  let kept (cs : List Char) : List Char :=
    (cs.filter fun c => c.toNat < 128 ∧ c ∉ [' ', '_', '-']).map Ascii.lower
  match name with
  | a :: b :: rest =>
    if (a = 'i' ∨ a = 'I') ∧ (b = 's' ∨ b = 'S') then
      if kept rest = ['c'] then "isc" else String.ofList (kept rest)
    else String.ofList (kept name)
  | name => String.ofList (kept name)

/-! ### Sets -/

/-- A set that holds characters beyond ASCII too. -/
def beyond (s : CharSet) : CharSet :=
  { s with wide := 20000 }

/-- A set without ASCII characters. -/
def foreign : CharSet :=
  beyond CharSet.none

/-- Capitals. -/
def capitals : CharSet :=
  beyond (capital.union (single kelvin))

/-- Small letters. -/
def smalls : CharSet :=
  beyond (small.union (single longS))

/-- Letters. -/
def allLetters : CharSet :=
  beyond (capitals.union smalls)

/-- The characters of an identifier after its first. -/
def identifierChars : CharSet :=
  beyond (unions [allLetters, digits, single '_'])

/-- Everything that is visible, and the space. -/
def printing : CharSet :=
  beyond (unions [range ' ' '~', single longS, single kelvin])

/-- The characters of a text, and others beyond ASCII. -/
def marks (s : String) : CharSet :=
  beyond (ofString s)

/-- The sets of a table by their names. -/
def lookup (table : List (List String × CharSet)) (name : String) : Option CharSet :=
  (table.find? fun row => name ∈ row.1).map (·.2)

/-! ### Tables -/

/-- Properties that a character has or has not. -/
def binary : List (List String × CharSet) :=
  [(["ahex", "asciihexdigit"], hexDigits),
   (["alpha", "alphabetic"], allLetters),
   (["bidim", "bidimirrored"], marks "()<>[]\x7b\x7d"),
   (["ci", "caseignorable"], marks "'.:^\x60"),
   (["cased"], allLetters),
   (["cwcf", "changeswhencasefolded"], capitals.union (single longS)),
   (["cwcm", "changeswhencasemapped"], allLetters),
   (["cwl", "changeswhenlowercased"], capitals),
   (["cwt", "changeswhentitlecased"], smalls),
   (["cwu", "changeswhenuppercased"], smalls),
   (["dash", "hyphen"], marks "-"),
   (["dia", "diacritic"], marks "^\x60"),
   (["emoji", "ecomp", "emojicomponent"], marks "#*0123456789"),
   (["grbase", "graphemebase"], printing),
   (["hex", "hexdigit"], beyond hexDigits),
   (["idc", "idcontinue", "xidc", "xidcontinue"], identifierChars),
   (["ids", "idstart", "xids", "xidstart"], allLetters),
   (["lower", "lowercase"], smalls),
   (["math"], marks "+<=>^|~"),
   (["omath", "othermath"], marks "^"),
   (["patsyn", "patternsyntax"],
    marks "!\"#$%&'()*+,-./:;<=>?@[\\]^\x60\x7b|\x7d~"),
   (["patws", "patternwhitespace"], beyond spaces),
   (["qmark", "quotationmark"], marks "\"'"),
   (["sterm", "sentenceterminal"], marks "!.?"),
   (["sd", "softdotted"], marks "ij"),
   (["term", "terminalpunctuation"], marks "!,.:;?"),
   (["upper", "uppercase"], capitals),
   (["wspace", "whitespace", "space"], wideSpaces),
   (["bidic", "bidicontrol", "di", "defaultignorablecodepoint", "dep", "deprecated", "emod",
     "emojimodifier", "ebase", "emojimodifierbase", "epres", "emojipresentation", "extpict",
     "extendedpictographic", "ext", "extender", "grext", "graphemeextend", "grlink",
     "graphemelink", "idcompatmathstart", "idcompatmathcontinue", "idsb", "idsbinaryoperator",
     "idst", "idstrinaryoperator", "idsu", "idsunaryoperator", "ideo", "ideographic", "joinc",
     "joincontrol", "loe", "logicalorderexception", "mcm", "modifiercombiningmark", "nchar",
     "noncharactercodepoint", "oalpha", "otheralphabetic", "odi",
     "otherdefaultignorablecodepoint", "ogrext", "othergraphemeextend", "oidc",
     "otheridcontinue", "oids", "otheridstart", "olower", "otherlowercase", "oupper",
     "otheruppercase", "pcm", "prependedconcatenationmark", "radical", "ri",
     "regionalindicator", "uideo", "unifiedideograph", "vs", "variationselector"], foreign)]

/-- General categories. -/
def categories : List (List String × CharSet) :=
  [(["any", "assigned"], all),
   (["ascii"], ascii),
   (["c", "other"], beyond controls),
   (["cc", "control", "cntrl"], controls),
   (["l", "letter", "lc", "casedletter"], allLetters),
   (["ll", "lowercaseletter"], smalls),
   (["lu", "uppercaseletter"], capitals),
   (["n", "number"], beyond digits),
   (["nd", "decimalnumber", "digit"], wideDigits),
   (["p", "punctuation", "punct"], marks "!\"#%&'()*,-./:;?@[\\]_\x7b\x7d"),
   (["pc", "connectorpunctuation"], marks "_"),
   (["pd", "dashpunctuation"], marks "-"),
   (["pe", "closepunctuation"], marks ")]\x7d"),
   (["po", "otherpunctuation"], marks "!\"#%&'*,./:;?@\\"),
   (["ps", "openpunctuation"], marks "([\x7b"),
   (["s", "symbol"], marks "$+<=>^\x60|~"),
   (["sc", "currencysymbol"], marks "$"),
   (["sk", "modifiersymbol"], marks "^\x60"),
   (["sm", "mathsymbol"], marks "+<=>|~"),
   (["z", "separator", "zs", "spaceseparator"], marks " "),
   (["cf", "format", "cn", "unassigned", "co", "privateuse", "lm", "modifierletter", "lo",
     "otherletter", "lt", "titlecaseletter", "m", "mark", "combiningmark", "mc", "spacingmark",
     "me", "enclosingmark", "mn", "nonspacingmark", "nl", "letternumber", "no", "othernumber",
     "pf", "finalpunctuation", "pi", "initialpunctuation", "so", "othersymbol", "zl",
     "lineseparator", "zp", "paragraphseparator"], foreign)]

/-- Scripts that have no characters in ASCII. -/
def foreignScripts : List String :=
  ["adlam", "adlm", "aghb", "ahom", "anatolianhieroglyphs", "arab", "arabic", "armenian", "armi",
   "armn", "avestan", "avst", "bali", "balinese", "bamu", "bamum", "bass", "bassavah", "batak",
   "batk", "beng", "bengali", "bhaiksuki", "bhks", "bopo", "bopomofo", "brah", "brahmi", "brai",
   "braille", "bugi", "buginese", "buhd", "buhid", "cakm", "canadianaboriginal", "cans", "cari",
   "carian", "caucasianalbanian", "chakma", "cham", "cher", "cherokee", "chorasmian", "chrs",
   "copt", "coptic", "cpmn", "cprt", "cuneiform", "cypriot", "cyprominoan", "cyrillic", "cyrl",
   "deseret", "deva", "devanagari", "diak", "divesakuru", "dogr", "dogra", "dsrt", "dupl",
   "duployan", "egyp", "egyptianhieroglyphs", "elba", "elbasan", "elym", "elymaic", "ethi",
   "ethiopic", "gara", "garay", "geor", "georgian", "glag", "glagolitic", "gong", "gonm", "goth",
   "gothic", "gran", "grantha", "greek", "grek", "gujarati", "gujr", "gukh", "gunjalagondi",
   "gurmukhi", "guru", "gurungkhema", "han", "hang", "hangul", "hani", "hanifirohingya", "hano",
   "hanunoo", "hatr", "hatran", "hebr", "hebrew", "hira", "hiragana", "hluw", "hmng", "hmnp",
   "hung", "imperialaramaic", "inherited", "inscriptionalpahlavi", "inscriptionalparthian",
   "ital", "java", "javanese", "kaithi", "kali", "kana", "kannada", "katakana", "kawi",
   "kayahli", "khar", "kharoshthi", "khitansmallscript", "khmer", "khmr", "khoj", "khojki",
   "khudawadi", "kiratrai", "kits", "knda", "krai", "kthi", "lana", "lao", "laoo", "lepc",
   "lepcha", "limb", "limbu", "lina", "linb", "lineara", "linearb", "lisu", "lyci", "lycian",
   "lydi", "lydian", "mahajani", "mahj", "maka", "makasar", "malayalam", "mand", "mandaic",
   "mani", "manichaean", "marc", "marchen", "masaramgondi", "medefaidrin", "medf", "meeteimayek",
   "mend", "mendekikakui", "merc", "mero", "meroiticcursive", "meroitichieroglyphs", "miao",
   "mlym", "modi", "mong", "mongolian", "mro", "mroo", "mtei", "mult", "multani", "myanmar",
   "mymr", "nabataean", "nagm", "nagmundari", "nand", "nandinagari", "narb", "nbat", "newa",
   "newtailue", "nko", "nkoo", "nshu", "nushu", "nyiakengpuachuehmong", "ogam", "ogham",
   "olchiki", "olck", "oldhungarian", "olditalic", "oldnortharabian", "oldpermic", "oldpersian",
   "oldsogdian", "oldsoutharabian", "oldturkic", "olduyghur", "olonal", "onao", "oriya", "orkh",
   "orya", "osage", "osge", "osma", "osmanya", "ougr", "pahawhhmong", "palm", "palmyrene",
   "pauc", "paucinhau", "perm", "phag", "phagspa", "phli", "phlp", "phnx", "phoenician", "plrd",
   "prti", "psalterpahlavi", "qaac", "qaai", "rejang", "rjng", "rohg", "runic", "runr",
   "samaritan", "samr", "sarb", "saur", "saurashtra", "sgnw", "sharada", "shavian", "shaw",
   "shrd", "sidd", "siddham", "signwriting", "sind", "sinh", "sinhala", "sogd", "sogdian",
   "sogo", "sora", "sorasompeng", "soyo", "soyombo", "sund", "sundanese", "sunu", "sunuwar",
   "sylo", "sylotinagri", "syrc", "syriac", "tagalog", "tagb", "tagbanwa", "taile", "taitham",
   "taiviet", "takr", "takri", "tale", "talu", "tamil", "taml", "tang", "tangsa", "tangut",
   "tavt", "telu", "telugu", "tfng", "tglg", "thaa", "thaana", "thai", "tibetan", "tibt",
   "tifinagh", "tirh", "tirhuta", "tnsa", "todhri", "todr", "toto", "tulutigalari", "tutg",
   "ugar", "ugaritic", "vai", "vaii", "vith", "vithkuqi", "wancho", "wara", "warangciti", "wcho",
   "xpeo", "xsux", "yezi", "yezidi", "yi", "yiii", "zanabazarsquare", "zanb", "zinh"]

/-- Scripts. -/
def scripts : List (List String × CharSet) :=
  [(["latn", "latin"], allLetters),
   (["zyyy", "common"], beyond (ascii.difference letters)),
   (foreignScripts, foreign)]

/-- Parts of a character as a reader sees it. -/
def graphemeBreaks : List (List String × CharSet) :=
  [(["cn", "control"], beyond (controls.difference (ofString "\n\x0d"))),
   (["cr"], single '\x0d'),
   (["lf"], single '\n'),
   (["ex", "extend", "l", "lv", "lvt", "pp", "prepend", "ri", "regionalindicator", "sm",
     "spacingmark", "t", "v", "zwj"], foreign)]

/-- Parts of a sentence. -/
def sentenceBreaks : List (List String × CharSet) :=
  [(["at", "aterm"], marks "."),
   (["cl", "close"], marks "\"'()[]\x7b\x7d"),
   (["cr"], single '\x0d'),
   (["lf"], single '\n'),
   (["lo", "lower"], smalls),
   (["nu", "numeric"], beyond digits),
   (["sc", "scontinue"], marks ",-:;"),
   (["sp"], marks "\t\x0b\x0c "),
   (["st", "sterm"], marks "!?"),
   (["up", "upper"], capitals),
   (["ex", "extend", "fo", "format", "le", "oletter", "se", "sep"], foreign)]

/-- Parts of a word. -/
def wordBreaks : List (List String × CharSet) :=
  [(["cr"], single '\x0d'),
   (["dq", "doublequote"], single '"'),
   (["ex", "extendnumlet"], marks "_"),
   (["le", "aletter"], allLetters),
   (["lf"], single '\n'),
   (["mb", "midnumlet"], marks "."),
   (["ml", "midletter"], marks ":"),
   (["mn", "midnum"], marks ",;"),
   (["nl", "newline"], marks "\x0b\x0c"),
   (["nu", "numeric"], beyond digits),
   (["sq", "singlequote"], single '\''),
   (["wsegspace"], marks " "),
   (["extend", "fo", "format", "hl", "hebrewletter", "ka", "katakana", "ri",
     "regionalindicator", "zwj"], foreign)]

/-- The versions of the standard, each of which has all characters of ASCII. -/
def ages : List String :=
  ["1.1", "2.0", "2.1", "3.0", "3.1", "3.2", "4.0", "4.1", "5.0", "5.1", "5.2", "6.0", "6.1",
   "6.2", "6.3", "7.0", "8.0", "9.0", "10.0", "11.0", "12.0", "12.1", "13.0", "14.0", "15.0",
   "15.1", "16.0"]

/-! ### Looking up -/

/-- The set of a name that stands alone. A property comes before a category, and a category
before a script. -/
def named? (name : List Char) : Option CharSet :=
  let name := normalized name
  lookup binary name <|> lookup categories name <|> lookup scripts name

/-- The set of characters for which a property has a value. -/
def valued? (name value : List Char) : Option CharSet :=
  let value := normalized value
  match normalized name with
  | "gc" | "generalcategory" => lookup categories value
  | "sc" | "script" | "scx" | "scriptextensions" => lookup scripts value
  | "age" =>
    if value ∈ ages ∨ value ∈ ages.map fun a => "v" ++ String.ofList (a.toList.filter (· ≠ '.'))
    then some (beyond all) else Option.none
  | "gcb" | "graphemeclusterbreak" => lookup graphemeBreaks value
  | "sb" | "sentencebreak" => lookup sentenceBreaks value
  | "wb" | "wordbreak" => lookup wordBreaks value
  | _ => Option.none

/-- The set that stands between braces : a name, or a name and a value with a sign between
them. -/
def braced? (text : List Char) : Option CharSet :=
  match cutAtSign text with
  | some (name, value) => valued? name value
  | Option.none =>
    match Text.cutAt ':' text with
    | (name, some value) => valued? name value
    | _ =>
      match Text.cutAt '=' text with
      | (name, some value) => valued? name value
      | _ => named? text
where
  /-- What stands around the first sign of inequality. -/
  cutAtSign : List Char → Option (List Char × List Char)
    | '!' :: '=' :: rest => some ([], rest)
    | c :: rest => (cutAtSign rest).map fun (name, value) => (c :: name, value)
    | [] => Option.none

end Courier.Pattern.Property
