import ExcerptSearch.Unicode.Category

namespace ExcerptSearch.Unicode

inductive Script where
  | adlam | ahom | anatolianHieroglyphs | arabic | armenian | avestan | balinese | bamum | bassaVah
  | batak | bengali | bhaiksuki | bopomofo | brahmi | braille | buginese | buhid
  | canadianAboriginal | carian | caucasianAlbanian | chakma | cham | cherokee | chorasmian
  | common | coptic | cuneiform | cypriot | cyproMinoan | cyrillic | deseret | devanagari
  | divesAkuru | dogra | duployan | egyptianHieroglyphs | elbasan | elymaic | ethiopic | garay
  | georgian | glagolitic | gothic | grantha | greek | gujarati | gunjalaGondi | gurmukhi
  | gurungKhema | han | hangul | hanifiRohingya | hanunoo | hatran | hebrew | hiragana
  | imperialAramaic | inherited | inscriptionalPahlavi | inscriptionalParthian | javanese | kaithi
  | kannada | katakana | kawi | kayahLi | kharoshthi | khitanSmallScript | khmer | khojki
  | khudawadi | kiratRai | lao | latin | lepcha | limbu | linearA | linearB | lisu | lycian
  | lydian | mahajani | makasar | malayalam | mandaic | manichaean | marchen | masaramGondi
  | medefaidrin | meeteiMayek | mendeKikakui | meroiticCursive | meroiticHieroglyphs | miao | modi
  | mongolian | mro | multani | myanmar | nabataean | nagMundari | nandinagari | newTaiLue | newa
  | nko | nushu | nyiakengPuachueHmong | ogham | olChiki | olOnal | oldHungarian | oldItalic
  | oldNorthArabian | oldPermic | oldPersian | oldSogdian | oldSouthArabian | oldTurkic | oldUyghur
  | oriya | osage | osmanya | pahawhHmong | palmyrene | pauCinHau | phagsPa | phoenician
  | psalterPahlavi | rejang | runic | samaritan | saurashtra | sharada | shavian | siddham
  | signWriting | sinhala | sogdian | soraSompeng | soyombo | sundanese | sunuwar | sylotiNagri
  | syriac | tagalog | tagbanwa | taiLe | taiTham | taiViet | takri | tamil | tangsa | tangut
  | telugu | thaana | thai | tibetan | tifinagh | tirhuta | todhri | toto | tuluTigalari | ugaritic
  | vai | vithkuqi | wancho | warangCiti | yezidi | yi | zanabazarSquare
  deriving DecidableEq

def scriptStarts1 : List (Nat × Script) := [
  (0x0000, .common), (0x0041, .latin), (0x005b, .common), (0x0061, .latin), (0x007b, .common),
  (0x00aa, .latin), (0x00ab, .common), (0x00ba, .latin), (0x00bb, .common), (0x00c0, .latin),
  (0x00d7, .common), (0x00d8, .latin), (0x00f7, .common), (0x00f8, .latin), (0x02b9, .common),
  (0x02e0, .latin), (0x02e5, .common), (0x02ea, .bopomofo), (0x02ec, .common), (0x0300, .inherited),
  (0x0370, .greek), (0x0374, .common), (0x0375, .greek), (0x037e, .common), (0x037f, .greek),
  (0x0385, .common), (0x0386, .greek), (0x0387, .common), (0x0388, .greek), (0x03e2, .coptic),
  (0x03f0, .greek), (0x0400, .cyrillic), (0x0485, .inherited), (0x0487, .cyrillic),
  (0x0531, .armenian), (0x0591, .hebrew), (0x0600, .arabic), (0x0605, .common), (0x0606, .arabic),
  (0x060c, .common), (0x060d, .arabic), (0x061b, .common), (0x061c, .arabic), (0x061f, .common),
  (0x0620, .arabic), (0x0640, .common), (0x0641, .arabic), (0x064b, .inherited), (0x0656, .arabic),
  (0x0670, .inherited), (0x0671, .arabic), (0x06dd, .common), (0x06de, .arabic), (0x0700, .syriac),
  (0x0750, .arabic), (0x0780, .thaana), (0x07c0, .nko), (0x0800, .samaritan), (0x0840, .mandaic),
  (0x0860, .syriac), (0x0870, .arabic), (0x08e2, .common), (0x08e3, .arabic), (0x0900, .devanagari),
  (0x0951, .inherited), (0x0955, .devanagari), (0x0964, .common), (0x0966, .devanagari),
  (0x0980, .bengali), (0x0a01, .gurmukhi), (0x0a81, .gujarati), (0x0b01, .oriya), (0x0b82, .tamil),
  (0x0c00, .telugu), (0x0c80, .kannada), (0x0d00, .malayalam), (0x0d81, .sinhala), (0x0e01, .thai),
  (0x0e3f, .common), (0x0e40, .thai), (0x0e81, .lao), (0x0f00, .tibetan), (0x0fd5, .common),
  (0x0fd9, .tibetan), (0x1000, .myanmar), (0x10a0, .georgian), (0x10fb, .common),
  (0x10fc, .georgian), (0x1100, .hangul), (0x1200, .ethiopic), (0x13a0, .cherokee),
  (0x1400, .canadianAboriginal), (0x1680, .ogham), (0x16a0, .runic), (0x16eb, .common),
  (0x16ee, .runic), (0x1700, .tagalog), (0x1720, .hanunoo), (0x1735, .common), (0x1740, .buhid),
  (0x1760, .tagbanwa), (0x1780, .khmer), (0x1800, .mongolian), (0x1802, .common),
  (0x1804, .mongolian), (0x1805, .common), (0x1806, .mongolian), (0x18b0, .canadianAboriginal),
  (0x1900, .limbu), (0x1950, .taiLe), (0x1980, .newTaiLue), (0x19e0, .khmer), (0x1a00, .buginese),
  (0x1a20, .taiTham), (0x1ab0, .inherited), (0x1b00, .balinese), (0x1b80, .sundanese),
  (0x1bc0, .batak), (0x1c00, .lepcha), (0x1c50, .olChiki), (0x1c80, .cyrillic), (0x1c90, .georgian),
  (0x1cc0, .sundanese), (0x1cd0, .inherited), (0x1cd3, .common), (0x1cd4, .inherited),
  (0x1ce1, .common), (0x1ce2, .inherited), (0x1ce9, .common), (0x1ced, .inherited),
  (0x1cee, .common), (0x1cf4, .inherited), (0x1cf5, .common), (0x1cf8, .inherited),
  (0x1cfa, .common), (0x1d00, .latin), (0x1d26, .greek), (0x1d2b, .cyrillic), (0x1d2c, .latin),
  (0x1d5d, .greek), (0x1d62, .latin), (0x1d66, .greek), (0x1d6b, .latin), (0x1d78, .cyrillic),
  (0x1d79, .latin), (0x1dbf, .greek), (0x1dc0, .inherited), (0x1e00, .latin), (0x1f00, .greek),
  (0x2000, .common)]

def scriptStarts2 : List (Nat × Script) := [
  (0x200c, .inherited), (0x200e, .common), (0x2071, .latin), (0x2074, .common), (0x207f, .latin),
  (0x2080, .common), (0x2090, .latin), (0x20a0, .common), (0x20d0, .inherited), (0x2100, .common),
  (0x2126, .greek), (0x2127, .common), (0x212a, .latin), (0x212c, .common), (0x2132, .latin),
  (0x2133, .common), (0x214e, .latin), (0x214f, .common), (0x2160, .latin), (0x2189, .common),
  (0x2800, .braille), (0x2900, .common), (0x2c00, .glagolitic), (0x2c60, .latin), (0x2c80, .coptic),
  (0x2d00, .georgian), (0x2d30, .tifinagh), (0x2d80, .ethiopic), (0x2de0, .cyrillic),
  (0x2e00, .common), (0x2e80, .han), (0x2ff0, .common), (0x3005, .han), (0x3006, .common),
  (0x3007, .han), (0x3008, .common), (0x3021, .han), (0x302a, .inherited), (0x302e, .hangul),
  (0x3030, .common), (0x3038, .han), (0x303c, .common), (0x3041, .hiragana), (0x3099, .inherited),
  (0x309b, .common), (0x309d, .hiragana), (0x30a0, .common), (0x30a1, .katakana), (0x30fb, .common),
  (0x30fd, .katakana), (0x3105, .bopomofo), (0x3131, .hangul), (0x3190, .common),
  (0x31a0, .bopomofo), (0x31c0, .common), (0x31f0, .katakana), (0x3200, .hangul), (0x3220, .common),
  (0x3260, .hangul), (0x327f, .common), (0x32d0, .katakana), (0x32ff, .common), (0x3300, .katakana),
  (0x3358, .common), (0x3400, .han), (0x4dc0, .common), (0x4e00, .han), (0xa000, .yi),
  (0xa4d0, .lisu), (0xa500, .vai), (0xa640, .cyrillic), (0xa6a0, .bamum), (0xa700, .common),
  (0xa722, .latin), (0xa788, .common), (0xa78b, .latin), (0xa800, .sylotiNagri), (0xa830, .common),
  (0xa840, .phagsPa), (0xa880, .saurashtra), (0xa8e0, .devanagari), (0xa900, .kayahLi),
  (0xa92e, .common), (0xa92f, .kayahLi), (0xa930, .rejang), (0xa960, .hangul), (0xa980, .javanese),
  (0xa9cf, .common), (0xa9d0, .javanese), (0xa9e0, .myanmar), (0xaa00, .cham), (0xaa60, .myanmar),
  (0xaa80, .taiViet), (0xaae0, .meeteiMayek), (0xab01, .ethiopic), (0xab30, .latin),
  (0xab5b, .common), (0xab5c, .latin), (0xab65, .greek), (0xab66, .latin), (0xab6a, .common),
  (0xab70, .cherokee), (0xabc0, .meeteiMayek), (0xac00, .hangul), (0xf900, .han), (0xfb00, .latin),
  (0xfb13, .armenian), (0xfb1d, .hebrew), (0xfb50, .arabic), (0xfd3e, .common), (0xfd40, .arabic),
  (0xfe00, .inherited), (0xfe10, .common), (0xfe20, .inherited), (0xfe2e, .cyrillic),
  (0xfe30, .common), (0xfe70, .arabic), (0xfeff, .common), (0xff21, .latin), (0xff3b, .common),
  (0xff41, .latin), (0xff5b, .common), (0xff66, .katakana), (0xff70, .common), (0xff71, .katakana),
  (0xff9e, .common), (0xffa0, .hangul), (0xffe0, .common), (0x10000, .linearB), (0x10100, .common),
  (0x10140, .greek), (0x10190, .common), (0x101a0, .greek), (0x101d0, .common),
  (0x101fd, .inherited), (0x10280, .lycian), (0x102a0, .carian), (0x102e0, .inherited),
  (0x102e1, .common), (0x10300, .oldItalic), (0x10330, .gothic), (0x10350, .oldPermic),
  (0x10380, .ugaritic), (0x103a0, .oldPersian), (0x10400, .deseret), (0x10450, .shavian),
  (0x10480, .osmanya), (0x104b0, .osage), (0x10500, .elbasan), (0x10530, .caucasianAlbanian)]

def scriptStarts3 : List (Nat × Script) := [
  (0x10570, .vithkuqi), (0x105c0, .todhri), (0x10600, .linearA), (0x10780, .latin),
  (0x10800, .cypriot), (0x10840, .imperialAramaic), (0x10860, .palmyrene), (0x10880, .nabataean),
  (0x108e0, .hatran), (0x10900, .phoenician), (0x10920, .lydian), (0x10980, .meroiticHieroglyphs),
  (0x109a0, .meroiticCursive), (0x10a00, .kharoshthi), (0x10a60, .oldSouthArabian),
  (0x10a80, .oldNorthArabian), (0x10ac0, .manichaean), (0x10b00, .avestan),
  (0x10b40, .inscriptionalParthian), (0x10b60, .inscriptionalPahlavi), (0x10b80, .psalterPahlavi),
  (0x10c00, .oldTurkic), (0x10c80, .oldHungarian), (0x10d00, .hanifiRohingya), (0x10d40, .garay),
  (0x10e60, .arabic), (0x10e80, .yezidi), (0x10ec2, .arabic), (0x10f00, .oldSogdian),
  (0x10f30, .sogdian), (0x10f70, .oldUyghur), (0x10fb0, .chorasmian), (0x10fe0, .elymaic),
  (0x11000, .brahmi), (0x11080, .kaithi), (0x110d0, .soraSompeng), (0x11100, .chakma),
  (0x11150, .mahajani), (0x11180, .sharada), (0x111e1, .sinhala), (0x11200, .khojki),
  (0x11280, .multani), (0x112b0, .khudawadi), (0x11300, .grantha), (0x1133b, .inherited),
  (0x1133c, .grantha), (0x11380, .tuluTigalari), (0x11400, .newa), (0x11480, .tirhuta),
  (0x11580, .siddham), (0x11600, .modi), (0x11660, .mongolian), (0x11680, .takri),
  (0x116d0, .myanmar), (0x11700, .ahom), (0x11800, .dogra), (0x118a0, .warangCiti),
  (0x11900, .divesAkuru), (0x119a0, .nandinagari), (0x11a00, .zanabazarSquare), (0x11a50, .soyombo),
  (0x11ab0, .canadianAboriginal), (0x11ac0, .pauCinHau), (0x11b00, .devanagari),
  (0x11bc0, .sunuwar), (0x11c00, .bhaiksuki), (0x11c70, .marchen), (0x11d00, .masaramGondi),
  (0x11d60, .gunjalaGondi), (0x11ee0, .makasar), (0x11f00, .kawi), (0x11fb0, .lisu),
  (0x11fc0, .tamil), (0x12000, .cuneiform), (0x12f90, .cyproMinoan),
  (0x13000, .egyptianHieroglyphs), (0x14400, .anatolianHieroglyphs), (0x16100, .gurungKhema),
  (0x16800, .bamum), (0x16a40, .mro), (0x16a70, .tangsa), (0x16ad0, .bassaVah),
  (0x16b00, .pahawhHmong), (0x16d40, .kiratRai), (0x16e40, .medefaidrin), (0x16f00, .miao),
  (0x16fe0, .tangut), (0x16fe1, .nushu), (0x16fe2, .han), (0x16fe4, .khitanSmallScript),
  (0x16ff0, .han), (0x17000, .tangut), (0x18b00, .khitanSmallScript), (0x18d00, .tangut),
  (0x1aff0, .katakana), (0x1b001, .hiragana), (0x1b120, .katakana), (0x1b132, .hiragana),
  (0x1b155, .katakana), (0x1b170, .nushu), (0x1bc00, .duployan), (0x1bca0, .common),
  (0x1cf00, .inherited), (0x1cf50, .common), (0x1d167, .inherited), (0x1d16a, .common),
  (0x1d17b, .inherited), (0x1d183, .common), (0x1d185, .inherited), (0x1d18c, .common),
  (0x1d1aa, .inherited), (0x1d1ae, .common), (0x1d200, .greek), (0x1d2c0, .common),
  (0x1d800, .signWriting), (0x1df00, .latin), (0x1e000, .glagolitic), (0x1e030, .cyrillic),
  (0x1e100, .nyiakengPuachueHmong), (0x1e290, .toto), (0x1e2c0, .wancho), (0x1e4d0, .nagMundari),
  (0x1e5d0, .olOnal), (0x1e7e0, .ethiopic), (0x1e800, .mendeKikakui), (0x1e900, .adlam),
  (0x1ec71, .common), (0x1ee00, .arabic), (0x1f000, .common), (0x1f200, .hiragana),
  (0x1f201, .common), (0x20000, .han), (0xe0001, .common), (0xe0100, .inherited)]

-- Where the runs of characters of one script begin, whatever stands between them unassigned.
def scriptStarts : List (Nat × Script) :=
  scriptStarts1 ++ scriptStarts2 ++ scriptStarts3

def scriptTable : SpanTree Script :=
  parts scriptStarts

def script? (c : Char) : Option Script :=
  if [.cn, .co].contains (category c) then none
  else (scriptTable.find? c.toNat).map (·.val)

def extensionRows1 : List (Nat × Nat × List Script) := [
  (0x00b7, 0x00b7, [.avestan, .carian, .coptic, .duployan, .elbasan, .georgian, .glagolitic,
    .gothic, .greek, .gunjalaGondi, .han, .latin, .lydian, .mahajani, .oldPermic, .shavian]),
  (0x02bc, 0x02bc, [.bengali, .cyrillic, .devanagari, .latin, .lisu, .thai, .toto]),
  (0x02c7, 0x02c7, [.bopomofo, .latin]), (0x02c9, 0x02cb, [.bopomofo, .latin]),
  (0x02cd, 0x02cd, [.latin, .lisu]), (0x02d7, 0x02d7, [.latin, .thai]),
  (0x02d9, 0x02d9, [.bopomofo, .latin]),
  (0x0300, 0x0300, [.cherokee, .coptic, .cyrillic, .greek, .latin, .oldPermic, .sunuwar, .taiLe]),
  (0x0301, 0x0301, [.cherokee, .cyrillic, .greek, .latin, .osage, .sunuwar, .taiLe, .todhri]),
  (0x0302, 0x0302, [.cherokee, .cyrillic, .latin, .tifinagh]),
  (0x0303, 0x0303, [.glagolitic, .latin, .sunuwar, .syriac, .thai]),
  (0x0304, 0x0304, [.caucasianAlbanian, .cherokee, .coptic, .cyrillic, .gothic, .greek, .latin,
    .osage, .syriac, .tifinagh, .todhri]),
  (0x0305, 0x0305, [.coptic, .elbasan, .glagolitic, .gothic, .katakana, .latin]),
  (0x0306, 0x0306, [.cyrillic, .greek, .latin, .oldPermic]),
  (0x0307, 0x0307, [.coptic, .duployan, .hebrew, .latin, .oldPermic, .syriac, .taiLe, .tifinagh,
    .todhri]),
  (0x0308, 0x0308, [.armenian, .cyrillic, .duployan, .gothic, .greek, .hebrew, .latin, .oldPermic,
    .syriac, .taiLe]),
  (0x0309, 0x0309, [.latin, .tifinagh]), (0x030a, 0x030a, [.duployan, .latin, .syriac]),
  (0x030b, 0x030b, [.cherokee, .cyrillic, .latin, .osage]),
  (0x030c, 0x030c, [.cherokee, .latin, .taiLe]), (0x030d, 0x030d, [.latin, .sunuwar]),
  (0x030e, 0x030e, [.ethiopic, .latin]), (0x0310, 0x0310, [.latin, .sunuwar]),
  (0x0311, 0x0311, [.cyrillic, .latin, .todhri]),
  (0x0313, 0x0313, [.greek, .latin, .oldPermic, .todhri]), (0x0320, 0x0320, [.latin, .syriac]),
  (0x0323, 0x0323, [.cherokee, .duployan, .katakana, .latin, .syriac]),
  (0x0324, 0x0324, [.cherokee, .duployan, .latin, .syriac]), (0x0325, 0x0325, [.latin, .syriac]),
  (0x032d, 0x032d, [.latin, .sunuwar, .syriac]), (0x032e, 0x032e, [.latin, .syriac]),
  (0x0330, 0x0330, [.cherokee, .latin, .syriac]),
  (0x0331, 0x0331, [.caucasianAlbanian, .cherokee, .gothic, .latin, .sunuwar, .thai]),
  (0x0342, 0x0342, [.greek]), (0x0345, 0x0345, [.greek]), (0x0358, 0x0358, [.latin, .osage]),
  (0x035e, 0x035e, [.caucasianAlbanian, .latin, .todhri]), (0x0363, 0x036f, [.latin]),
  (0x0374, 0x0375, [.coptic, .greek]), (0x0483, 0x0483, [.cyrillic, .oldPermic]),
  (0x0484, 0x0484, [.cyrillic, .glagolitic]), (0x0485, 0x0486, [.cyrillic, .latin]),
  (0x0487, 0x0487, [.cyrillic, .glagolitic]), (0x0589, 0x0589, [.armenian, .georgian, .glagolitic]),
  (0x060c, 0x060c, [.arabic, .garay, .hanifiRohingya, .nko, .syriac, .thaana, .yezidi]),
  (0x061b, 0x061b, [.arabic, .garay, .hanifiRohingya, .nko, .syriac, .thaana, .yezidi]),
  (0x061c, 0x061c, [.arabic, .syriac, .thaana]),
  (0x061f, 0x061f, [.adlam, .arabic, .garay, .hanifiRohingya, .nko, .syriac, .thaana, .yezidi]),
  (0x0640, 0x0640, [.adlam, .arabic, .hanifiRohingya, .mandaic, .manichaean, .oldUyghur,
    .psalterPahlavi, .sogdian, .syriac]),
  (0x064b, 0x0655, [.arabic, .syriac]), (0x0660, 0x0669, [.arabic, .thaana, .yezidi]),
  (0x0670, 0x0670, [.arabic, .syriac]), (0x06d4, 0x06d4, [.arabic, .hanifiRohingya]),
  (0x0951, 0x0951, [.bengali, .devanagari, .grantha, .gujarati, .gurmukhi, .kannada, .latin,
    .malayalam, .oriya, .sharada, .tamil, .telugu, .tirhuta]),
  (0x0952, 0x0952, [.bengali, .devanagari, .grantha, .gujarati, .gurmukhi, .kannada, .latin,
    .malayalam, .oriya, .tamil, .telugu, .tirhuta]),
  (0x0964, 0x0964, [.bengali, .devanagari, .dogra, .grantha, .gujarati, .gunjalaGondi, .gurmukhi,
    .kannada, .khudawadi, .mahajani, .malayalam, .masaramGondi, .nandinagari, .olOnal, .oriya,
    .sinhala, .sylotiNagri, .takri, .tamil, .telugu, .tirhuta]),
  (0x0965, 0x0965, [.bengali, .devanagari, .dogra, .grantha, .gujarati, .gunjalaGondi, .gurmukhi,
    .gurungKhema, .kannada, .khudawadi, .limbu, .mahajani, .malayalam, .masaramGondi, .nandinagari,
    .olOnal, .oriya, .sinhala, .sylotiNagri, .takri, .tamil, .telugu, .tirhuta]),
  (0x0966, 0x096f, [.devanagari, .dogra, .kaithi, .mahajani]),
  (0x09e6, 0x09ef, [.bengali, .chakma, .sylotiNagri]), (0x0a66, 0x0a6f, [.gurmukhi, .multani])]

def extensionRows2 : List (Nat × Nat × List Script) := [
  (0x0ae6, 0x0aef, [.gujarati, .khojki]), (0x0be6, 0x0bf3, [.grantha, .tamil]),
  (0x0ce6, 0x0cef, [.kannada, .nandinagari, .tuluTigalari]),
  (0x1040, 0x1049, [.chakma, .myanmar, .taiLe]), (0x10fb, 0x10fb, [.georgian, .glagolitic, .latin]),
  (0x16eb, 0x16ed, [.runic]), (0x1735, 0x1736, [.buhid, .hanunoo, .tagalog, .tagbanwa]),
  (0x1802, 0x1803, [.mongolian, .phagsPa]), (0x1805, 0x1805, [.mongolian, .phagsPa]),
  (0x1cd0, 0x1cd0, [.bengali, .devanagari, .grantha, .kannada]), (0x1cd1, 0x1cd1, [.devanagari]),
  (0x1cd2, 0x1cd2, [.bengali, .devanagari, .grantha, .kannada]),
  (0x1cd3, 0x1cd3, [.devanagari, .grantha, .kannada]), (0x1cd4, 0x1cd4, [.devanagari]),
  (0x1cd5, 0x1cd6, [.bengali, .devanagari]), (0x1cd7, 0x1cd7, [.devanagari, .sharada]),
  (0x1cd8, 0x1cd8, [.bengali, .devanagari]), (0x1cd9, 0x1cd9, [.devanagari, .sharada]),
  (0x1cda, 0x1cda, [.devanagari, .kannada, .malayalam, .oriya, .tamil, .telugu]),
  (0x1cdb, 0x1cdb, [.devanagari]), (0x1cdc, 0x1cdd, [.devanagari, .sharada]),
  (0x1cde, 0x1cdf, [.devanagari]), (0x1ce0, 0x1ce0, [.devanagari, .sharada]),
  (0x1ce1, 0x1ce1, [.bengali, .devanagari]), (0x1ce2, 0x1ce8, [.devanagari]),
  (0x1ce9, 0x1ce9, [.devanagari, .nandinagari]), (0x1cea, 0x1cea, [.bengali, .devanagari]),
  (0x1ceb, 0x1cec, [.devanagari]), (0x1ced, 0x1ced, [.bengali, .devanagari]),
  (0x1cee, 0x1cf1, [.devanagari]),
  (0x1cf2, 0x1cf2, [.bengali, .devanagari, .grantha, .kannada, .malayalam, .nandinagari, .oriya,
    .sinhala, .telugu, .tirhuta, .tuluTigalari]),
  (0x1cf3, 0x1cf3, [.devanagari, .grantha]),
  (0x1cf4, 0x1cf4, [.devanagari, .grantha, .kannada, .tuluTigalari]),
  (0x1cf5, 0x1cf6, [.bengali, .devanagari]), (0x1cf7, 0x1cf7, [.bengali]),
  (0x1cf8, 0x1cf9, [.devanagari, .grantha]), (0x1cfa, 0x1cfa, [.nandinagari]),
  (0x1dc0, 0x1dc1, [.greek]), (0x1df8, 0x1df8, [.cyrillic, .latin, .syriac]),
  (0x1dfa, 0x1dfa, [.syriac]), (0x202f, 0x202f, [.latin, .mongolian, .phagsPa]),
  (0x204f, 0x204f, [.adlam, .arabic]),
  (0x205a, 0x205a, [.carian, .georgian, .glagolitic, .lycian, .oldHungarian, .oldTurkic]),
  (0x205d, 0x205d, [.carian, .greek, .meroiticHieroglyphs, .oldHungarian]),
  (0x20f0, 0x20f0, [.devanagari, .grantha, .latin]), (0x2e17, 0x2e17, [.coptic, .latin]),
  (0x2e30, 0x2e30, [.avestan, .oldTurkic]),
  (0x2e31, 0x2e31, [.avestan, .carian, .georgian, .kaithi, .lydian, .oldHungarian, .samaritan]),
  (0x2e3c, 0x2e3c, [.duployan]), (0x2e41, 0x2e41, [.adlam, .arabic, .oldHungarian]),
  (0x2e43, 0x2e43, [.cyrillic, .glagolitic]), (0x2ff0, 0x2fff, [.han, .tangut]),
  (0x3001, 0x3001, [.bopomofo, .han, .hangul, .hiragana, .katakana, .mongolian, .yi]),
  (0x3002, 0x3002, [.bopomofo, .han, .hangul, .hiragana, .katakana, .mongolian, .phagsPa, .yi]),
  (0x3003, 0x3003, [.bopomofo, .han, .hangul, .hiragana, .katakana]), (0x3006, 0x3006, [.han]),
  (0x3008, 0x3009, [.bopomofo, .han, .hangul, .hiragana, .katakana, .mongolian, .tibetan, .yi]),
  (0x300a, 0x300b, [.bopomofo, .han, .hangul, .hiragana, .katakana, .lisu, .mongolian, .tibetan,
    .yi]),
  (0x300c, 0x3011, [.bopomofo, .han, .hangul, .hiragana, .katakana, .yi]),
  (0x3013, 0x3013, [.bopomofo, .han, .hangul, .hiragana, .katakana])]

def extensionRows3 : List (Nat × Nat × List Script) := [
  (0x3014, 0x301b, [.bopomofo, .han, .hangul, .hiragana, .katakana, .yi]),
  (0x301c, 0x301f, [.bopomofo, .han, .hangul, .hiragana, .katakana]),
  (0x302a, 0x302d, [.bopomofo, .han]),
  (0x3030, 0x3030, [.bopomofo, .han, .hangul, .hiragana, .katakana]),
  (0x3031, 0x3035, [.hiragana, .katakana]),
  (0x3037, 0x3037, [.bopomofo, .han, .hangul, .hiragana, .katakana]),
  (0x303c, 0x303d, [.han, .hiragana, .katakana]), (0x303e, 0x303f, [.han]),
  (0x3099, 0x309c, [.hiragana, .katakana]), (0x30a0, 0x30a0, [.hiragana, .katakana]),
  (0x30fb, 0x30fb, [.bopomofo, .han, .hangul, .hiragana, .katakana, .yi]),
  (0x30fc, 0x30fc, [.hiragana, .katakana]), (0x3190, 0x319f, [.han]), (0x31c0, 0x31e5, [.han]),
  (0x31ef, 0x31ef, [.han, .tangut]), (0x3220, 0x3247, [.han]), (0x3280, 0x32b0, [.han]),
  (0x32c0, 0x32cb, [.han]), (0x32ff, 0x32ff, [.han]), (0x3358, 0x3370, [.han]),
  (0x337b, 0x337f, [.han]), (0x33e0, 0x33fe, [.han]), (0xa66f, 0xa66f, [.cyrillic, .glagolitic]),
  (0xa700, 0xa707, [.han, .latin]),
  (0xa830, 0xa832, [.devanagari, .dogra, .gujarati, .gurmukhi, .kaithi, .kannada, .khojki,
    .khudawadi, .mahajani, .malayalam, .modi, .nandinagari, .sharada, .takri, .tirhuta,
    .tuluTigalari]),
  (0xa833, 0xa835, [.devanagari, .dogra, .gujarati, .gurmukhi, .kaithi, .kannada, .khojki,
    .khudawadi, .mahajani, .modi, .nandinagari, .sharada, .takri, .tirhuta, .tuluTigalari]),
  (0xa836, 0xa837, [.devanagari, .dogra, .gujarati, .gurmukhi, .kaithi, .khojki, .khudawadi,
    .mahajani, .modi, .takri, .tirhuta]),
  (0xa838, 0xa838, [.devanagari, .dogra, .gujarati, .gurmukhi, .kaithi, .khojki, .khudawadi,
    .mahajani, .modi, .sharada, .takri, .tirhuta]),
  (0xa839, 0xa839, [.devanagari, .dogra, .gujarati, .gurmukhi, .kaithi, .khojki, .khudawadi,
    .mahajani, .modi, .takri, .tirhuta]),
  (0xa8f1, 0xa8f1, [.bengali, .devanagari, .tuluTigalari]), (0xa8f3, 0xa8f3, [.devanagari, .tamil]),
  (0xa92e, 0xa92e, [.kayahLi, .latin, .myanmar]), (0xa9cf, 0xa9cf, [.buginese, .javanese]),
  (0xfd3e, 0xfd3f, [.arabic, .nko]), (0xfdf2, 0xfdf2, [.arabic, .thaana]),
  (0xfdfd, 0xfdfd, [.arabic, .thaana]),
  (0xfe45, 0xfe46, [.bopomofo, .han, .hangul, .hiragana, .katakana]),
  (0xff61, 0xff65, [.bopomofo, .han, .hangul, .hiragana, .katakana, .yi]),
  (0xff70, 0xff70, [.hiragana, .katakana]), (0xff9e, 0xff9f, [.hiragana, .katakana]),
  (0x10100, 0x10101, [.cypriot, .cyproMinoan, .linearB]), (0x10102, 0x10102, [.cypriot, .linearB]),
  (0x10107, 0x10133, [.cypriot, .linearA, .linearB]), (0x10137, 0x1013f, [.cypriot, .linearB]),
  (0x102e0, 0x102fb, [.arabic, .coptic]), (0x10af2, 0x10af2, [.manichaean, .oldUyghur]),
  (0x11301, 0x11301, [.grantha, .tamil]), (0x11303, 0x11303, [.grantha, .tamil]),
  (0x1133b, 0x1133c, [.grantha, .tamil]), (0x11fd0, 0x11fd1, [.grantha, .tamil]),
  (0x11fd3, 0x11fd3, [.grantha, .tamil]), (0x1bca0, 0x1bca3, [.duployan]),
  (0x1d360, 0x1d371, [.han]), (0x1f250, 0x1f251, [.han])]

-- The characters whose use is not just with their own script, by the scripts that use them.
def extensionRows : List (Nat × Nat × List Script) :=
  extensionRows1 ++ extensionRows2 ++ extensionRows3

def extensionTable : SpanTree (List Script) :=
  .ofList (extensionRows.map fun (lo, hi, ss) => ⟨lo, hi, ss⟩)

def scripts (c : Char) : List Script :=
  match extensionTable.find? c.toNat with
  | some s => s.val
  | none   => (script? c).toList

namespace Script

def names1 : List (Script × List String) := [
  (.adlam, ["adlm", "adlam"]), (.ahom, ["ahom"]),
  (.anatolianHieroglyphs, ["hluw", "anatolianhieroglyphs"]), (.arabic, ["arab", "arabic"]),
  (.armenian, ["armn", "armenian"]), (.avestan, ["avst", "avestan"]),
  (.balinese, ["bali", "balinese"]), (.bamum, ["bamu", "bamum"]), (.bassaVah, ["bass", "bassavah"]),
  (.batak, ["batk", "batak"]), (.bengali, ["beng", "bengali"]), (.bhaiksuki, ["bhks", "bhaiksuki"]),
  (.bopomofo, ["bopo", "bopomofo"]), (.brahmi, ["brah", "brahmi"]), (.braille, ["brai", "braille"]),
  (.buginese, ["bugi", "buginese"]), (.buhid, ["buhd", "buhid"]),
  (.canadianAboriginal, ["cans", "canadianaboriginal"]), (.carian, ["cari", "carian"]),
  (.caucasianAlbanian, ["aghb", "caucasianalbanian"]), (.chakma, ["cakm", "chakma"]),
  (.cham, ["cham"]), (.cherokee, ["cher", "cherokee"]), (.chorasmian, ["chrs", "chorasmian"]),
  (.common, ["zyyy", "common"]), (.coptic, ["copt", "qaac", "coptic"]),
  (.cuneiform, ["xsux", "cuneiform"]), (.cypriot, ["cprt", "cypriot"]),
  (.cyproMinoan, ["cpmn", "cyprominoan"]), (.cyrillic, ["cyrl", "cyrillic"]),
  (.deseret, ["dsrt", "deseret"]), (.devanagari, ["deva", "devanagari"]),
  (.divesAkuru, ["diak", "divesakuru"]), (.dogra, ["dogr", "dogra"]),
  (.duployan, ["dupl", "duployan"]), (.egyptianHieroglyphs, ["egyp", "egyptianhieroglyphs"]),
  (.elbasan, ["elba", "elbasan"]), (.elymaic, ["elym", "elymaic"]),
  (.ethiopic, ["ethi", "ethiopic"]), (.garay, ["gara", "garay"]), (.georgian, ["geor", "georgian"]),
  (.glagolitic, ["glag", "glagolitic"]), (.gothic, ["goth", "gothic"]),
  (.grantha, ["gran", "grantha"]), (.greek, ["grek", "greek"]), (.gujarati, ["gujr", "gujarati"]),
  (.gunjalaGondi, ["gong", "gunjalagondi"]), (.gurmukhi, ["guru", "gurmukhi"]),
  (.gurungKhema, ["gukh", "gurungkhema"]), (.han, ["han", "hani"]), (.hangul, ["hang", "hangul"]),
  (.hanifiRohingya, ["rohg", "hanifirohingya"]), (.hanunoo, ["hano", "hanunoo"]),
  (.hatran, ["hatr", "hatran"]), (.hebrew, ["hebr", "hebrew"]), (.hiragana, ["hira", "hiragana"]),
  (.imperialAramaic, ["armi", "imperialaramaic"]), (.inherited, ["qaai", "zinh", "inherited"]),
  (.inscriptionalPahlavi, ["phli", "inscriptionalpahlavi"]),
  (.inscriptionalParthian, ["prti", "inscriptionalparthian"]), (.javanese, ["java", "javanese"]),
  (.kaithi, ["kthi", "kaithi"]), (.kannada, ["knda", "kannada"]), (.katakana, ["kana", "katakana"]),
  (.kawi, ["kawi"]), (.kayahLi, ["kali", "kayahli"]), (.kharoshthi, ["khar", "kharoshthi"]),
  (.khitanSmallScript, ["kits", "khitansmallscript"]), (.khmer, ["khmr", "khmer"]),
  (.khojki, ["khoj", "khojki"]), (.khudawadi, ["sind", "khudawadi"]),
  (.kiratRai, ["krai", "kiratrai"]), (.lao, ["lao", "laoo"]), (.latin, ["latn", "latin"]),
  (.lepcha, ["lepc", "lepcha"]), (.limbu, ["limb", "limbu"]), (.linearA, ["lina", "lineara"]),
  (.linearB, ["linb", "linearb"]), (.lisu, ["lisu"]), (.lycian, ["lyci", "lycian"]),
  (.lydian, ["lydi", "lydian"]), (.mahajani, ["mahj", "mahajani"]), (.makasar, ["maka", "makasar"]),
  (.malayalam, ["mlym", "malayalam"]), (.mandaic, ["mand", "mandaic"])]

def names2 : List (Script × List String) := [
  (.manichaean, ["mani", "manichaean"]), (.marchen, ["marc", "marchen"]),
  (.masaramGondi, ["gonm", "masaramgondi"]), (.medefaidrin, ["medf", "medefaidrin"]),
  (.meeteiMayek, ["mtei", "meeteimayek"]), (.mendeKikakui, ["mend", "mendekikakui"]),
  (.meroiticCursive, ["merc", "meroiticcursive"]),
  (.meroiticHieroglyphs, ["mero", "meroitichieroglyphs"]), (.miao, ["miao", "plrd"]),
  (.modi, ["modi"]), (.mongolian, ["mong", "mongolian"]), (.mro, ["mro", "mroo"]),
  (.multani, ["mult", "multani"]), (.myanmar, ["mymr", "myanmar"]),
  (.nabataean, ["nbat", "nabataean"]), (.nagMundari, ["nagm", "nagmundari"]),
  (.nandinagari, ["nand", "nandinagari"]), (.newTaiLue, ["talu", "newtailue"]), (.newa, ["newa"]),
  (.nko, ["nko", "nkoo"]), (.nushu, ["nshu", "nushu"]),
  (.nyiakengPuachueHmong, ["hmnp", "nyiakengpuachuehmong"]), (.ogham, ["ogam", "ogham"]),
  (.olChiki, ["olck", "olchiki"]), (.olOnal, ["onao", "olonal"]),
  (.oldHungarian, ["hung", "oldhungarian"]), (.oldItalic, ["ital", "olditalic"]),
  (.oldNorthArabian, ["narb", "oldnortharabian"]), (.oldPermic, ["perm", "oldpermic"]),
  (.oldPersian, ["xpeo", "oldpersian"]), (.oldSogdian, ["sogo", "oldsogdian"]),
  (.oldSouthArabian, ["sarb", "oldsoutharabian"]), (.oldTurkic, ["orkh", "oldturkic"]),
  (.oldUyghur, ["ougr", "olduyghur"]), (.oriya, ["orya", "oriya"]), (.osage, ["osge", "osage"]),
  (.osmanya, ["osma", "osmanya"]), (.pahawhHmong, ["hmng", "pahawhhmong"]),
  (.palmyrene, ["palm", "palmyrene"]), (.pauCinHau, ["pauc", "paucinhau"]),
  (.phagsPa, ["phag", "phagspa"]), (.phoenician, ["phnx", "phoenician"]),
  (.psalterPahlavi, ["phlp", "psalterpahlavi"]), (.rejang, ["rjng", "rejang"]),
  (.runic, ["runr", "runic"]), (.samaritan, ["samr", "samaritan"]),
  (.saurashtra, ["saur", "saurashtra"]), (.sharada, ["shrd", "sharada"]),
  (.shavian, ["shaw", "shavian"]), (.siddham, ["sidd", "siddham"]),
  (.signWriting, ["sgnw", "signwriting"]), (.sinhala, ["sinh", "sinhala"]),
  (.sogdian, ["sogd", "sogdian"]), (.soraSompeng, ["sora", "sorasompeng"]),
  (.soyombo, ["soyo", "soyombo"]), (.sundanese, ["sund", "sundanese"]),
  (.sunuwar, ["sunu", "sunuwar"]), (.sylotiNagri, ["sylo", "sylotinagri"]),
  (.syriac, ["syrc", "syriac"]), (.tagalog, ["tglg", "tagalog"]), (.tagbanwa, ["tagb", "tagbanwa"]),
  (.taiLe, ["tale", "taile"]), (.taiTham, ["lana", "taitham"]), (.taiViet, ["tavt", "taiviet"]),
  (.takri, ["takr", "takri"]), (.tamil, ["taml", "tamil"]), (.tangsa, ["tnsa", "tangsa"]),
  (.tangut, ["tang", "tangut"]), (.telugu, ["telu", "telugu"]), (.thaana, ["thaa", "thaana"]),
  (.thai, ["thai"]), (.tibetan, ["tibt", "tibetan"]), (.tifinagh, ["tfng", "tifinagh"]),
  (.tirhuta, ["tirh", "tirhuta"]), (.todhri, ["todr", "todhri"]), (.toto, ["toto"]),
  (.tuluTigalari, ["tutg", "tulutigalari"]), (.ugaritic, ["ugar", "ugaritic"]),
  (.vai, ["vai", "vaii"]), (.vithkuqi, ["vith", "vithkuqi"]), (.wancho, ["wcho", "wancho"]),
  (.warangCiti, ["wara", "warangciti"]), (.yezidi, ["yezi", "yezidi"]), (.yi, ["yi", "yiii"]),
  (.zanabazarSquare, ["zanb", "zanabazarsquare"])]

def names : List (Script × List String) :=
  names1 ++ names2

end Script
end ExcerptSearch.Unicode
