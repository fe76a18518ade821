import CratePlan.Text.CodeRanges

/-!
# Scripts

The characters of each script, with the names that the script goes by: its code of four
letters first, then its full name, all in small letters without separators. An interval
may run over code points that no character is assigned to.

Characters that scripts share are of the common script, which has no row: it has every
character that is assigned to none of the others. Some of the shared characters are
known to be used with certain scripts only; a second table lists the scripts for them.
-/

namespace CratePlan.Text

/-- A script: its names and its characters. -/
structure Script where
  names : List String
  ranges : CodeRanges
deriving Repr, DecidableEq, Inhabited

/-- The names of the common script. -/
def commonNames : List String := ["zyyy", "common"]

/-- The scripts but the common one. -/
def scripts : List Script :=
  [⟨["adlm", "adlam"], [(0x1E900, 0x1E95F)]⟩,
    ⟨["ahom"], [(0x11700, 0x11746)]⟩,
    ⟨["hluw", "anatolianhieroglyphs"], [(0x14400, 0x14646)]⟩,
    ⟨["arab", "arabic"],
      [(0x0600, 0x0604), (0x0606, 0x060B), (0x060D, 0x061A), (0x061C, 0x061E), (0x0620, 0x063F),
        (0x0641, 0x064A), (0x0656, 0x066F), (0x0671, 0x06DC), (0x06DE, 0x06FF), (0x0750, 0x077F),
        (0x0870, 0x08E1), (0x08E3, 0x08FF), (0xFB50, 0xFD3D), (0xFD40, 0xFDFF), (0xFE70, 0xFEFC),
        (0x10E60, 0x10E7E), (0x10EC2, 0x10EFF), (0x1EE00, 0x1EEF1)]⟩,
    ⟨["armn", "armenian"], [(0x0531, 0x058F), (0xFB13, 0xFB17)]⟩,
    ⟨["avst", "avestan"], [(0x10B00, 0x10B3F)]⟩,
    ⟨["bali", "balinese"], [(0x1B00, 0x1B7F)]⟩,
    ⟨["bamu", "bamum"], [(0xA6A0, 0xA6F7), (0x16800, 0x16A38)]⟩,
    ⟨["bass", "bassavah"], [(0x16AD0, 0x16AF5)]⟩,
    ⟨["batk", "batak"], [(0x1BC0, 0x1BFF)]⟩,
    ⟨["beng", "bengali"], [(0x0980, 0x09FE)]⟩,
    ⟨["bhks", "bhaiksuki"], [(0x11C00, 0x11C6C)]⟩,
    ⟨["bopo", "bopomofo"], [(0x02EA, 0x02EB), (0x3105, 0x312F), (0x31A0, 0x31BF)]⟩,
    ⟨["brah", "brahmi"], [(0x11000, 0x1107F)]⟩,
    ⟨["brai", "braille"], [(0x2800, 0x28FF)]⟩,
    ⟨["bugi", "buginese"], [(0x1A00, 0x1A1F)]⟩,
    ⟨["buhd", "buhid"], [(0x1740, 0x1753)]⟩,
    ⟨["cans", "canadianaboriginal"], [(0x1400, 0x167F), (0x18B0, 0x18F5), (0x11AB0, 0x11ABF)]⟩,
    ⟨["cari", "carian"], [(0x102A0, 0x102D0)]⟩,
    ⟨["aghb", "caucasianalbanian"], [(0x10530, 0x1056F)]⟩,
    ⟨["cakm", "chakma"], [(0x11100, 0x11147)]⟩,
    ⟨["cham"], [(0xAA00, 0xAA5F)]⟩,
    ⟨["cher", "cherokee"], [(0x13A0, 0x13FD), (0xAB70, 0xABBF)]⟩,
    ⟨["chrs", "chorasmian"], [(0x10FB0, 0x10FCB)]⟩,
    ⟨["copt", "coptic", "qaac"], [(0x03E2, 0x03EF), (0x2C80, 0x2CFF)]⟩,
    ⟨["xsux", "cuneiform"], [(0x12000, 0x12543)]⟩,
    ⟨["cprt", "cypriot"], [(0x10800, 0x1083F)]⟩,
    ⟨["cpmn", "cyprominoan"], [(0x12F90, 0x12FF2)]⟩,
    ⟨["cyrl", "cyrillic"],
      [(0x0400, 0x0484), (0x0487, 0x052F), (0x1C80, 0x1C8A), (0x1D2B, 0x1D2B), (0x1D78, 0x1D78),
        (0x2DE0, 0x2DFF), (0xA640, 0xA69F), (0xFE2E, 0xFE2F), (0x1E030, 0x1E08F)]⟩,
    ⟨["dsrt", "deseret"], [(0x10400, 0x1044F)]⟩,
    ⟨["deva", "devanagari"],
      [(0x0900, 0x0950), (0x0955, 0x0963), (0x0966, 0x097F), (0xA8E0, 0xA8FF), (0x11B00, 0x11B09)]⟩,
    ⟨["diak", "divesakuru"], [(0x11900, 0x11959)]⟩,
    ⟨["dogr", "dogra"], [(0x11800, 0x1183B)]⟩,
    ⟨["dupl", "duployan"], [(0x1BC00, 0x1BC9F)]⟩,
    ⟨["egyp", "egyptianhieroglyphs"], [(0x13000, 0x143FA)]⟩,
    ⟨["elba", "elbasan"], [(0x10500, 0x10527)]⟩,
    ⟨["elym", "elymaic"], [(0x10FE0, 0x10FF6)]⟩,
    ⟨["ethi", "ethiopic"],
      [(0x1200, 0x1399), (0x2D80, 0x2DDE), (0xAB01, 0xAB2E), (0x1E7E0, 0x1E7FE)]⟩,
    ⟨["gara", "garay"], [(0x10D40, 0x10D8F)]⟩,
    ⟨["geor", "georgian"],
      [(0x10A0, 0x10FA), (0x10FC, 0x10FF), (0x1C90, 0x1CBF), (0x2D00, 0x2D2D)]⟩,
    ⟨["glag", "glagolitic"], [(0x2C00, 0x2C5F), (0x1E000, 0x1E02A)]⟩,
    ⟨["goth", "gothic"], [(0x10330, 0x1034A)]⟩,
    ⟨["gran", "grantha"], [(0x11300, 0x11339), (0x1133C, 0x11374)]⟩,
    ⟨["grek", "greek"],
      [(0x0370, 0x0373), (0x0375, 0x037D), (0x037F, 0x0384), (0x0386, 0x0386), (0x0388, 0x03E1),
        (0x03F0, 0x03FF), (0x1D26, 0x1D2A), (0x1D5D, 0x1D61), (0x1D66, 0x1D6A), (0x1DBF, 0x1DBF),
        (0x1F00, 0x1FFE), (0x2126, 0x2126), (0xAB65, 0xAB65), (0x10140, 0x1018E),
        (0x101A0, 0x101A0), (0x1D200, 0x1D245)]⟩,
    ⟨["gujr", "gujarati"], [(0x0A81, 0x0AFF)]⟩,
    ⟨["gong", "gunjalagondi"], [(0x11D60, 0x11DA9)]⟩,
    ⟨["guru", "gurmukhi"], [(0x0A01, 0x0A76)]⟩,
    ⟨["gukh", "gurungkhema"], [(0x16100, 0x16139)]⟩,
    ⟨["hani", "han"],
      [(0x2E80, 0x2FD5), (0x3005, 0x3005), (0x3007, 0x3007), (0x3021, 0x3029), (0x3038, 0x303B),
        (0x3400, 0x4DBF), (0x4E00, 0x9FFF), (0xF900, 0xFAD9), (0x16FE2, 0x16FE3),
        (0x16FF0, 0x16FF1), (0x20000, 0x323AF)]⟩,
    ⟨["hang", "hangul"],
      [(0x1100, 0x11FF), (0x302E, 0x302F), (0x3131, 0x318E), (0x3200, 0x321E), (0x3260, 0x327E),
        (0xA960, 0xA97C), (0xAC00, 0xD7FB), (0xFFA0, 0xFFDC)]⟩,
    ⟨["rohg", "hanifirohingya"], [(0x10D00, 0x10D39)]⟩,
    ⟨["hano", "hanunoo"], [(0x1720, 0x1734)]⟩,
    ⟨["hatr", "hatran"], [(0x108E0, 0x108FF)]⟩,
    ⟨["hebr", "hebrew"], [(0x0591, 0x05F4), (0xFB1D, 0xFB4F)]⟩,
    ⟨["hira", "hiragana"],
      [(0x3041, 0x3096), (0x309D, 0x309F), (0x1B001, 0x1B11F), (0x1B132, 0x1B152),
        (0x1F200, 0x1F200)]⟩,
    ⟨["armi", "imperialaramaic"], [(0x10840, 0x1085F)]⟩,
    ⟨["zinh", "inherited", "qaai"],
      [(0x0300, 0x036F), (0x0485, 0x0486), (0x064B, 0x0655), (0x0670, 0x0670), (0x0951, 0x0954),
        (0x1AB0, 0x1ACE), (0x1CD0, 0x1CD2), (0x1CD4, 0x1CE0), (0x1CE2, 0x1CE8), (0x1CED, 0x1CED),
        (0x1CF4, 0x1CF4), (0x1CF8, 0x1CF9), (0x1DC0, 0x1DFF), (0x200C, 0x200D), (0x20D0, 0x20F0),
        (0x302A, 0x302D), (0x3099, 0x309A), (0xFE00, 0xFE0F), (0xFE20, 0xFE2D), (0x101FD, 0x101FD),
        (0x102E0, 0x102E0), (0x1133B, 0x1133B), (0x1CF00, 0x1CF46), (0x1D167, 0x1D169),
        (0x1D17B, 0x1D182), (0x1D185, 0x1D18B), (0x1D1AA, 0x1D1AD), (0xE0100, 0xE01EF)]⟩,
    ⟨["phli", "inscriptionalpahlavi"], [(0x10B60, 0x10B7F)]⟩,
    ⟨["prti", "inscriptionalparthian"], [(0x10B40, 0x10B5F)]⟩,
    ⟨["java", "javanese"], [(0xA980, 0xA9CD), (0xA9D0, 0xA9DF)]⟩,
    ⟨["kthi", "kaithi"], [(0x11080, 0x110CD)]⟩,
    ⟨["knda", "kannada"], [(0x0C80, 0x0CF3)]⟩,
    ⟨["kana", "katakana"],
      [(0x30A1, 0x30FA), (0x30FD, 0x30FF), (0x31F0, 0x31FF), (0x32D0, 0x32FE), (0x3300, 0x3357),
        (0xFF66, 0xFF6F), (0xFF71, 0xFF9D), (0x1AFF0, 0x1B000), (0x1B120, 0x1B122),
        (0x1B155, 0x1B167)]⟩,
    ⟨["kawi"], [(0x11F00, 0x11F5A)]⟩,
    ⟨["kali", "kayahli"], [(0xA900, 0xA92D), (0xA92F, 0xA92F)]⟩,
    ⟨["khar", "kharoshthi"], [(0x10A00, 0x10A58)]⟩,
    ⟨["kits", "khitansmallscript"], [(0x16FE4, 0x16FE4), (0x18B00, 0x18CFF)]⟩,
    ⟨["khmr", "khmer"], [(0x1780, 0x17F9), (0x19E0, 0x19FF)]⟩,
    ⟨["khoj", "khojki"], [(0x11200, 0x11241)]⟩,
    ⟨["sind", "khudawadi"], [(0x112B0, 0x112F9)]⟩,
    ⟨["krai", "kiratrai"], [(0x16D40, 0x16D79)]⟩,
    ⟨["laoo", "lao"], [(0x0E81, 0x0EDF)]⟩,
    ⟨["latn", "latin"],
      [(0x0041, 0x005A), (0x0061, 0x007A), (0x00AA, 0x00AA), (0x00BA, 0x00BA), (0x00C0, 0x00D6),
        (0x00D8, 0x00F6), (0x00F8, 0x02B8), (0x02E0, 0x02E4), (0x1D00, 0x1D25), (0x1D2C, 0x1D5C),
        (0x1D62, 0x1D65), (0x1D6B, 0x1D77), (0x1D79, 0x1DBE), (0x1E00, 0x1EFF), (0x2071, 0x2071),
        (0x207F, 0x207F), (0x2090, 0x209C), (0x212A, 0x212B), (0x2132, 0x2132), (0x214E, 0x214E),
        (0x2160, 0x2188), (0x2C60, 0x2C7F), (0xA722, 0xA787), (0xA78B, 0xA7FF), (0xAB30, 0xAB5A),
        (0xAB5C, 0xAB64), (0xAB66, 0xAB69), (0xFB00, 0xFB06), (0xFF21, 0xFF3A), (0xFF41, 0xFF5A),
        (0x10780, 0x107BA), (0x1DF00, 0x1DF2A)]⟩,
    ⟨["lepc", "lepcha"], [(0x1C00, 0x1C4F)]⟩,
    ⟨["limb", "limbu"], [(0x1900, 0x194F)]⟩,
    ⟨["lina", "lineara"], [(0x10600, 0x10767)]⟩,
    ⟨["linb", "linearb"], [(0x10000, 0x100FA)]⟩,
    ⟨["lisu"], [(0xA4D0, 0xA4FF), (0x11FB0, 0x11FB0)]⟩,
    ⟨["lyci", "lycian"], [(0x10280, 0x1029C)]⟩,
    ⟨["lydi", "lydian"], [(0x10920, 0x1093F)]⟩,
    ⟨["mahj", "mahajani"], [(0x11150, 0x11176)]⟩,
    ⟨["maka", "makasar"], [(0x11EE0, 0x11EF8)]⟩,
    ⟨["mlym", "malayalam"], [(0x0D00, 0x0D7F)]⟩,
    ⟨["mand", "mandaic"], [(0x0840, 0x085E)]⟩,
    ⟨["mani", "manichaean"], [(0x10AC0, 0x10AF6)]⟩,
    ⟨["marc", "marchen"], [(0x11C70, 0x11CB6)]⟩,
    ⟨["gonm", "masaramgondi"], [(0x11D00, 0x11D59)]⟩,
    ⟨["medf", "medefaidrin"], [(0x16E40, 0x16E9A)]⟩,
    ⟨["mtei", "meeteimayek"], [(0xAAE0, 0xAAF6), (0xABC0, 0xABF9)]⟩,
    ⟨["mend", "mendekikakui"], [(0x1E800, 0x1E8D6)]⟩,
    ⟨["merc", "meroiticcursive"], [(0x109A0, 0x109FF)]⟩,
    ⟨["mero", "meroitichieroglyphs"], [(0x10980, 0x1099F)]⟩,
    ⟨["plrd", "miao"], [(0x16F00, 0x16F9F)]⟩,
    ⟨["modi"], [(0x11600, 0x11659)]⟩,
    ⟨["mong", "mongolian"],
      [(0x1800, 0x1801), (0x1804, 0x1804), (0x1806, 0x18AA), (0x11660, 0x1166C)]⟩,
    ⟨["mroo", "mro"], [(0x16A40, 0x16A6F)]⟩,
    ⟨["mult", "multani"], [(0x11280, 0x112A9)]⟩,
    ⟨["mymr", "myanmar"],
      [(0x1000, 0x109F), (0xA9E0, 0xA9FE), (0xAA60, 0xAA7F), (0x116D0, 0x116E3)]⟩,
    ⟨["nbat", "nabataean"], [(0x10880, 0x108AF)]⟩,
    ⟨["nagm", "nagmundari"], [(0x1E4D0, 0x1E4F9)]⟩,
    ⟨["nand", "nandinagari"], [(0x119A0, 0x119E4)]⟩,
    ⟨["talu", "newtailue"], [(0x1980, 0x19DF)]⟩,
    ⟨["newa"], [(0x11400, 0x11461)]⟩,
    ⟨["nkoo", "nko"], [(0x07C0, 0x07FF)]⟩,
    ⟨["nshu", "nushu"], [(0x16FE1, 0x16FE1), (0x1B170, 0x1B2FB)]⟩,
    ⟨["hmnp", "nyiakengpuachuehmong"], [(0x1E100, 0x1E14F)]⟩,
    ⟨["ogam", "ogham"], [(0x1680, 0x169C)]⟩,
    ⟨["olck", "olchiki"], [(0x1C50, 0x1C7F)]⟩,
    ⟨["onao", "olonal"], [(0x1E5D0, 0x1E5FF)]⟩,
    ⟨["hung", "oldhungarian"], [(0x10C80, 0x10CFF)]⟩,
    ⟨["ital", "olditalic"], [(0x10300, 0x1032F)]⟩,
    ⟨["narb", "oldnortharabian"], [(0x10A80, 0x10A9F)]⟩,
    ⟨["perm", "oldpermic"], [(0x10350, 0x1037A)]⟩,
    ⟨["xpeo", "oldpersian"], [(0x103A0, 0x103D5)]⟩,
    ⟨["sogo", "oldsogdian"], [(0x10F00, 0x10F27)]⟩,
    ⟨["sarb", "oldsoutharabian"], [(0x10A60, 0x10A7F)]⟩,
    ⟨["orkh", "oldturkic"], [(0x10C00, 0x10C48)]⟩,
    ⟨["ougr", "olduyghur"], [(0x10F70, 0x10F89)]⟩,
    ⟨["orya", "oriya"], [(0x0B01, 0x0B77)]⟩,
    ⟨["osge", "osage"], [(0x104B0, 0x104FB)]⟩,
    ⟨["osma", "osmanya"], [(0x10480, 0x104A9)]⟩,
    ⟨["hmng", "pahawhhmong"], [(0x16B00, 0x16B8F)]⟩,
    ⟨["palm", "palmyrene"], [(0x10860, 0x1087F)]⟩,
    ⟨["pauc", "paucinhau"], [(0x11AC0, 0x11AF8)]⟩,
    ⟨["phag", "phagspa"], [(0xA840, 0xA877)]⟩,
    ⟨["phnx", "phoenician"], [(0x10900, 0x1091F)]⟩,
    ⟨["phlp", "psalterpahlavi"], [(0x10B80, 0x10BAF)]⟩,
    ⟨["rjng", "rejang"], [(0xA930, 0xA95F)]⟩,
    ⟨["runr", "runic"], [(0x16A0, 0x16EA), (0x16EE, 0x16F8)]⟩,
    ⟨["samr", "samaritan"], [(0x0800, 0x083E)]⟩,
    ⟨["saur", "saurashtra"], [(0xA880, 0xA8D9)]⟩,
    ⟨["shrd", "sharada"], [(0x11180, 0x111DF)]⟩,
    ⟨["shaw", "shavian"], [(0x10450, 0x1047F)]⟩,
    ⟨["sidd", "siddham"], [(0x11580, 0x115DD)]⟩,
    ⟨["sgnw", "signwriting"], [(0x1D800, 0x1DAAF)]⟩,
    ⟨["sinh", "sinhala"], [(0x0D81, 0x0DF4), (0x111E1, 0x111F4)]⟩,
    ⟨["sogd", "sogdian"], [(0x10F30, 0x10F59)]⟩,
    ⟨["sora", "sorasompeng"], [(0x110D0, 0x110F9)]⟩,
    ⟨["soyo", "soyombo"], [(0x11A50, 0x11AA2)]⟩,
    ⟨["sund", "sundanese"], [(0x1B80, 0x1BBF), (0x1CC0, 0x1CC7)]⟩,
    ⟨["sunu", "sunuwar"], [(0x11BC0, 0x11BF9)]⟩,
    ⟨["sylo", "sylotinagri"], [(0xA800, 0xA82C)]⟩,
    ⟨["syrc", "syriac"], [(0x0700, 0x074F), (0x0860, 0x086A)]⟩,
    ⟨["tglg", "tagalog"], [(0x1700, 0x171F)]⟩,
    ⟨["tagb", "tagbanwa"], [(0x1760, 0x1773)]⟩,
    ⟨["tale", "taile"], [(0x1950, 0x1974)]⟩,
    ⟨["lana", "taitham"], [(0x1A20, 0x1AAD)]⟩,
    ⟨["tavt", "taiviet"], [(0xAA80, 0xAADF)]⟩,
    ⟨["takr", "takri"], [(0x11680, 0x116C9)]⟩,
    ⟨["taml", "tamil"], [(0x0B82, 0x0BFA), (0x11FC0, 0x11FFF)]⟩,
    ⟨["tnsa", "tangsa"], [(0x16A70, 0x16AC9)]⟩,
    ⟨["tang", "tangut"], [(0x16FE0, 0x16FE0), (0x17000, 0x18AFF), (0x18D00, 0x18D08)]⟩,
    ⟨["telu", "telugu"], [(0x0C00, 0x0C7F)]⟩,
    ⟨["thaa", "thaana"], [(0x0780, 0x07B1)]⟩,
    ⟨["thai"], [(0x0E01, 0x0E3A), (0x0E40, 0x0E5B)]⟩,
    ⟨["tibt", "tibetan"], [(0x0F00, 0x0FD4), (0x0FD9, 0x0FDA)]⟩,
    ⟨["tfng", "tifinagh"], [(0x2D30, 0x2D7F)]⟩,
    ⟨["tirh", "tirhuta"], [(0x11480, 0x114D9)]⟩,
    ⟨["todr", "todhri"], [(0x105C0, 0x105F3)]⟩,
    ⟨["toto"], [(0x1E290, 0x1E2AE)]⟩,
    ⟨["tutg", "tulutigalari"], [(0x11380, 0x113E2)]⟩,
    ⟨["ugar", "ugaritic"], [(0x10380, 0x1039F)]⟩,
    ⟨["vaii", "vai"], [(0xA500, 0xA62B)]⟩,
    ⟨["vith", "vithkuqi"], [(0x10570, 0x105BC)]⟩,
    ⟨["wcho", "wancho"], [(0x1E2C0, 0x1E2FF)]⟩,
    ⟨["wara", "warangciti"], [(0x118A0, 0x118FF)]⟩,
    ⟨["yezi", "yezidi"], [(0x10E80, 0x10EB1)]⟩,
    ⟨["yiii", "yi"], [(0xA000, 0xA4C6)]⟩,
    ⟨["zanb", "zanabazarsquare"], [(0x11A00, 0x11A47)]⟩]

/-- The characters that are used with other scripts than their own, and the codes of all
scripts that use them. -/
def sharedRanges : List ((Nat × Nat) × List String) :=
  [((0x00B7, 0x00B7),
      ["avst", "cari", "copt", "dupl", "elba", "geor", "glag", "gong", "goth", "grek", "hani",
        "latn", "lydi", "mahj", "perm", "shaw"]),
    ((0x02BC, 0x02BC), ["beng", "cyrl", "deva", "latn", "lisu", "thai", "toto"]),
    ((0x02C7, 0x02C7), ["bopo", "latn"]),
    ((0x02C9, 0x02CB), ["bopo", "latn"]),
    ((0x02CD, 0x02CD), ["latn", "lisu"]),
    ((0x02D7, 0x02D7), ["latn", "thai"]),
    ((0x02D9, 0x02D9), ["bopo", "latn"]),
    ((0x0300, 0x0300), ["cher", "copt", "cyrl", "grek", "latn", "perm", "sunu", "tale"]),
    ((0x0301, 0x0301), ["cher", "cyrl", "grek", "latn", "osge", "sunu", "tale", "todr"]),
    ((0x0302, 0x0302), ["cher", "cyrl", "latn", "tfng"]),
    ((0x0303, 0x0303), ["glag", "latn", "sunu", "syrc", "thai"]),
    ((0x0304, 0x0304),
      ["aghb", "cher", "copt", "cyrl", "goth", "grek", "latn", "osge", "syrc", "tfng", "todr"]),
    ((0x0305, 0x0305), ["copt", "elba", "glag", "goth", "kana", "latn"]),
    ((0x0306, 0x0306), ["cyrl", "grek", "latn", "perm", "tfng"]),
    ((0x0307, 0x0307), ["copt", "dupl", "hebr", "latn", "perm", "syrc", "tale", "tfng", "todr"]),
    ((0x0308, 0x0308),
      ["armn", "cyrl", "dupl", "goth", "grek", "hebr", "latn", "perm", "syrc", "tale", "tfng"]),
    ((0x0309, 0x0309), ["latn", "tfng"]),
    ((0x030A, 0x030A), ["dupl", "latn", "syrc"]),
    ((0x030B, 0x030B), ["cher", "cyrl", "latn", "osge"]),
    ((0x030C, 0x030C), ["cher", "latn", "tale"]),
    ((0x030D, 0x030D), ["latn", "sunu"]),
    ((0x030E, 0x030E), ["ethi", "latn"]),
    ((0x0310, 0x0310), ["latn", "sunu"]),
    ((0x0311, 0x0311), ["cyrl", "latn", "todr"]),
    ((0x0313, 0x0313), ["grek", "latn", "perm", "todr"]),
    ((0x0323, 0x0323), ["cher", "dupl", "kana", "latn", "syrc", "tfng"]),
    ((0x0324, 0x0324), ["cher", "dupl", "latn", "syrc"]),
    ((0x0325, 0x0325), ["latn", "syrc"]),
    ((0x032D, 0x032D), ["latn", "sunu", "syrc"]),
    ((0x032E, 0x032E), ["latn", "syrc"]),
    ((0x0330, 0x0330), ["cher", "latn", "syrc"]),
    ((0x0331, 0x0331), ["aghb", "cher", "goth", "latn", "sunu", "syrc", "thai"]),
    ((0x0342, 0x0342), ["grek"]),
    ((0x0345, 0x0345), ["grek"]),
    ((0x0358, 0x0358), ["latn", "osge"]),
    ((0x035E, 0x035E), ["aghb", "latn", "todr"]),
    ((0x0363, 0x036F), ["latn"]),
    ((0x0374, 0x0375), ["copt", "grek"]),
    ((0x0483, 0x0483), ["cyrl", "perm"]),
    ((0x0484, 0x0484), ["cyrl", "glag"]),
    ((0x0485, 0x0486), ["cyrl", "latn"]),
    ((0x0487, 0x0487), ["cyrl", "glag"]),
    ((0x0589, 0x0589), ["armn", "geor", "glag"]),
    ((0x060C, 0x060C), ["arab", "gara", "nkoo", "rohg", "syrc", "thaa", "yezi"]),
    ((0x061B, 0x061B), ["arab", "gara", "nkoo", "rohg", "syrc", "thaa", "yezi"]),
    ((0x061C, 0x061C), ["arab", "syrc", "thaa"]),
    ((0x061F, 0x061F), ["adlm", "arab", "gara", "nkoo", "rohg", "syrc", "thaa", "yezi"]),
    ((0x0640, 0x0640), ["adlm", "arab", "mand", "mani", "ougr", "phlp", "rohg", "sogd", "syrc"]),
    ((0x064B, 0x0655), ["arab", "syrc"]),
    ((0x0660, 0x0669), ["arab", "thaa", "yezi"]),
    ((0x0670, 0x0670), ["arab", "syrc"]),
    ((0x06D4, 0x06D4), ["arab", "rohg"]),
    ((0x0951, 0x0951),
      ["beng", "deva", "gran", "gujr", "guru", "knda", "latn", "mlym", "nand", "newa", "orya",
        "shrd", "taml", "telu", "tirh"]),
    ((0x0952, 0x0952),
      ["beng", "deva", "gran", "gujr", "guru", "knda", "latn", "mlym", "newa", "orya", "taml",
        "telu", "tirh"]),
    ((0x0964, 0x0964),
      ["beng", "deva", "dogr", "gong", "gonm", "gran", "gujr", "guru", "knda", "mahj", "mlym",
        "nand", "onao", "orya", "sind", "sinh", "sylo", "takr", "taml", "telu", "tirh"]),
    ((0x0965, 0x0965),
      ["beng", "deva", "dogr", "gong", "gonm", "gran", "gujr", "gukh", "guru", "knda", "limb",
        "mahj", "mlym", "nand", "onao", "orya", "sind", "sinh", "sylo", "takr", "taml", "telu",
        "tirh"]),
    ((0x0966, 0x096F), ["deva", "dogr", "kthi", "mahj"]),
    ((0x09E6, 0x09EF), ["beng", "cakm", "sylo"]),
    ((0x0A66, 0x0A6F), ["guru", "mult"]),
    ((0x0AE6, 0x0AEF), ["gujr", "khoj"]),
    ((0x0BE6, 0x0BF3), ["gran", "taml"]),
    ((0x0CE6, 0x0CEF), ["knda", "nand", "tutg"]),
    ((0x1040, 0x1049), ["cakm", "mymr", "tale"]),
    ((0x10FB, 0x10FB), ["geor", "glag", "latn"]),
    ((0x16EB, 0x16ED), ["runr"]),
    ((0x1735, 0x1736), ["buhd", "hano", "tagb", "tglg"]),
    ((0x1802, 0x1803), ["mong", "phag"]),
    ((0x1805, 0x1805), ["mong", "phag"]),
    ((0x1CD0, 0x1CD0), ["beng", "deva", "gran", "knda"]),
    ((0x1CD1, 0x1CD1), ["deva"]),
    ((0x1CD2, 0x1CD2), ["beng", "deva", "gran", "knda"]),
    ((0x1CD3, 0x1CD3), ["deva", "gran", "knda"]),
    ((0x1CD4, 0x1CD4), ["deva"]),
    ((0x1CD5, 0x1CD5), ["beng", "deva", "newa", "telu", "tirh"]),
    ((0x1CD6, 0x1CD6), ["beng", "deva", "telu"]),
    ((0x1CD7, 0x1CD7), ["deva", "newa", "shrd"]),
    ((0x1CD8, 0x1CD8), ["beng", "deva", "newa", "telu"]),
    ((0x1CD9, 0x1CD9), ["deva", "shrd"]),
    ((0x1CDA, 0x1CDA), ["deva", "knda", "mlym", "orya", "taml", "telu"]),
    ((0x1CDB, 0x1CDB), ["deva"]),
    ((0x1CDC, 0x1CDD), ["deva", "shrd"]),
    ((0x1CDE, 0x1CDF), ["deva"]),
    ((0x1CE0, 0x1CE0), ["deva", "shrd"]),
    ((0x1CE1, 0x1CE1), ["beng", "deva"]),
    ((0x1CE2, 0x1CE2), ["deva", "newa", "tirh"]),
    ((0x1CE3, 0x1CE8), ["deva"]),
    ((0x1CE9, 0x1CE9), ["deva", "nand", "newa"]),
    ((0x1CEA, 0x1CEA), ["beng", "deva", "shrd"]),
    ((0x1CEB, 0x1CEB), ["deva", "newa"]),
    ((0x1CEC, 0x1CEC), ["deva"]),
    ((0x1CED, 0x1CED), ["beng", "deva", "newa", "shrd"]),
    ((0x1CEE, 0x1CF1), ["deva"]),
    ((0x1CF2, 0x1CF2),
      ["beng", "deva", "gran", "knda", "mlym", "nand", "orya", "sinh", "telu", "tirh", "tutg"]),
    ((0x1CF3, 0x1CF3), ["deva", "gran"]),
    ((0x1CF4, 0x1CF4), ["deva", "gran", "knda", "tutg"]),
    ((0x1CF5, 0x1CF6), ["beng", "deva"]),
    ((0x1CF7, 0x1CF7), ["beng"]),
    ((0x1CF8, 0x1CF9), ["deva", "gran"]),
    ((0x1CFA, 0x1CFA), ["nand"]),
    ((0x1DC0, 0x1DC1), ["grek"]),
    ((0x1DF8, 0x1DF8), ["cyrl", "latn", "syrc"]),
    ((0x1DFA, 0x1DFA), ["syrc"]),
    ((0x202F, 0x202F), ["latn", "mong", "phag"]),
    ((0x204F, 0x204F), ["adlm", "arab"]),
    ((0x205A, 0x205A), ["cari", "geor", "glag", "hung", "lyci", "orkh"]),
    ((0x205D, 0x205D), ["cari", "grek", "hung", "mero"]),
    ((0x20F0, 0x20F0), ["deva", "gran", "latn"]),
    ((0x2E17, 0x2E17), ["copt", "latn"]),
    ((0x2E30, 0x2E30), ["avst", "orkh"]),
    ((0x2E31, 0x2E31), ["avst", "cari", "geor", "hung", "kthi", "lydi", "samr"]),
    ((0x2E3C, 0x2E3C), ["dupl"]),
    ((0x2E41, 0x2E41), ["adlm", "arab", "hung"]),
    ((0x2E43, 0x2E43), ["cyrl", "glag"]),
    ((0x2FF0, 0x2FFF), ["hani", "tang"]),
    ((0x3001, 0x3001), ["bopo", "hang", "hani", "hira", "kana", "mong", "yiii"]),
    ((0x3002, 0x3002), ["bopo", "hang", "hani", "hira", "kana", "mong", "phag", "yiii"]),
    ((0x3003, 0x3003), ["bopo", "hang", "hani", "hira", "kana"]),
    ((0x3006, 0x3006), ["hani"]),
    ((0x3008, 0x3009), ["bopo", "hang", "hani", "hira", "kana", "mong", "tibt", "yiii"]),
    ((0x300A, 0x300B), ["bopo", "hang", "hani", "hira", "kana", "lisu", "mong", "tibt", "yiii"]),
    ((0x300C, 0x3011), ["bopo", "hang", "hani", "hira", "kana", "yiii"]),
    ((0x3013, 0x3013), ["bopo", "hang", "hani", "hira", "kana"]),
    ((0x3014, 0x301B), ["bopo", "hang", "hani", "hira", "kana", "yiii"]),
    ((0x301C, 0x301F), ["bopo", "hang", "hani", "hira", "kana"]),
    ((0x302A, 0x302D), ["bopo", "hani"]),
    ((0x3030, 0x3030), ["bopo", "hang", "hani", "hira", "kana"]),
    ((0x3031, 0x3035), ["hira", "kana"]),
    ((0x3037, 0x3037), ["bopo", "hang", "hani", "hira", "kana"]),
    ((0x303C, 0x303D), ["hani", "hira", "kana"]),
    ((0x303E, 0x303F), ["hani"]),
    ((0x3099, 0x309C), ["hira", "kana"]),
    ((0x30A0, 0x30A0), ["hira", "kana"]),
    ((0x30FB, 0x30FB), ["bopo", "hang", "hani", "hira", "kana", "yiii"]),
    ((0x30FC, 0x30FC), ["hira", "kana"]),
    ((0x3190, 0x319F), ["hani"]),
    ((0x31C0, 0x31E5), ["hani"]),
    ((0x31EF, 0x31EF), ["hani", "tang"]),
    ((0x3220, 0x3247), ["hani"]),
    ((0x3280, 0x32B0), ["hani"]),
    ((0x32C0, 0x32CB), ["hani"]),
    ((0x32FF, 0x32FF), ["hani"]),
    ((0x3358, 0x3370), ["hani"]),
    ((0x337B, 0x337F), ["hani"]),
    ((0x33E0, 0x33FE), ["hani"]),
    ((0xA66F, 0xA66F), ["cyrl", "glag"]),
    ((0xA700, 0xA707), ["hani", "latn"]),
    ((0xA830, 0xA832),
      ["deva", "dogr", "gujr", "guru", "khoj", "knda", "kthi", "mahj", "mlym", "modi", "nand",
        "shrd", "sind", "takr", "tirh", "tutg"]),
    ((0xA833, 0xA835),
      ["deva", "dogr", "gujr", "guru", "khoj", "knda", "kthi", "mahj", "modi", "nand", "shrd",
        "sind", "takr", "tirh", "tutg"]),
    ((0xA836, 0xA837),
      ["deva", "dogr", "gujr", "guru", "khoj", "kthi", "mahj", "modi", "sind", "takr", "tirh"]),
    ((0xA838, 0xA838),
      ["deva", "dogr", "gujr", "guru", "khoj", "kthi", "mahj", "modi", "shrd", "sind", "takr",
        "tirh"]),
    ((0xA839, 0xA839),
      ["deva", "dogr", "gujr", "guru", "khoj", "kthi", "mahj", "modi", "sind", "takr", "tirh"]),
    ((0xA8F1, 0xA8F1), ["beng", "deva", "tutg"]),
    ((0xA8F3, 0xA8F3), ["deva", "taml"]),
    ((0xA92E, 0xA92E), ["kali", "latn", "mymr"]),
    ((0xA9CF, 0xA9CF), ["bugi", "java"]),
    ((0xFD3E, 0xFD3F), ["arab", "nkoo"]),
    ((0xFDF2, 0xFDF2), ["arab", "thaa"]),
    ((0xFDFD, 0xFDFD), ["arab", "thaa"]),
    ((0xFE45, 0xFE46), ["bopo", "hang", "hani", "hira", "kana"]),
    ((0xFF61, 0xFF65), ["bopo", "hang", "hani", "hira", "kana", "yiii"]),
    ((0xFF70, 0xFF70), ["hira", "kana"]),
    ((0xFF9E, 0xFF9F), ["hira", "kana"]),
    ((0x10100, 0x10101), ["cpmn", "cprt", "linb"]),
    ((0x10102, 0x10102), ["cprt", "linb"]),
    ((0x10107, 0x10133), ["cprt", "lina", "linb"]),
    ((0x10137, 0x1013F), ["cprt", "linb"]),
    ((0x102E0, 0x102FB), ["arab", "copt"]),
    ((0x10AF2, 0x10AF2), ["mani", "ougr"]),
    ((0x11301, 0x11301), ["gran", "taml"]),
    ((0x11303, 0x11303), ["gran", "taml"]),
    ((0x1133B, 0x1133C), ["gran", "taml"]),
    ((0x11FD0, 0x11FD1), ["gran", "taml"]),
    ((0x11FD3, 0x11FD3), ["gran", "taml"]),
    ((0x1BCA0, 0x1BCA3), ["dupl"]),
    ((0x1D360, 0x1D371), ["hani"]),
    ((0x1F250, 0x1F251), ["hani"])]

end CratePlan.Text
