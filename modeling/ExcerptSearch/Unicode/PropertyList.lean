import ExcerptSearch.Unicode.SpanTree

-- Sets of characters that are known by enumeration only. Those with "other" in their names hold
-- what the general category leaves out of a property.
namespace ExcerptSearch.Unicode.PropertyList

def asciiHexDigit : SpanTree Unit :=
  runs [(0x0030, 0x0039), (0x0041, 0x0046), (0x0061, 0x0066)]

def bidiControl : SpanTree Unit :=
  runs [(0x061c, 0x061c), (0x200e, 0x200f), (0x202a, 0x202e), (0x2066, 0x2069)]

def bidiMirrored : SpanTree Unit := runs [
  (0x0028, 0x0029), (0x003c, 0x003c), (0x003e, 0x003e), (0x005b, 0x005b), (0x005d, 0x005d),
  (0x007b, 0x007b), (0x007d, 0x007d), (0x00ab, 0x00ab), (0x00bb, 0x00bb), (0x0f3a, 0x0f3d),
  (0x169b, 0x169c), (0x2039, 0x203a), (0x2045, 0x2046), (0x207d, 0x207e), (0x208d, 0x208e),
  (0x2140, 0x2140), (0x2201, 0x2204), (0x2208, 0x220d), (0x2211, 0x2211), (0x2215, 0x2216),
  (0x221a, 0x221d), (0x221f, 0x2222), (0x2224, 0x2224), (0x2226, 0x2226), (0x222b, 0x2233),
  (0x2239, 0x2239), (0x223b, 0x224c), (0x2252, 0x2255), (0x225f, 0x2260), (0x2262, 0x2262),
  (0x2264, 0x226b), (0x226d, 0x228c), (0x228f, 0x2292), (0x2298, 0x2298), (0x22a2, 0x22a3),
  (0x22a6, 0x22b8), (0x22be, 0x22bf), (0x22c9, 0x22cd), (0x22d0, 0x22d1), (0x22d6, 0x22ed),
  (0x22f0, 0x22ff), (0x2308, 0x230b), (0x2320, 0x2321), (0x2329, 0x232a), (0x2768, 0x2775),
  (0x27c0, 0x27c0), (0x27c3, 0x27c6), (0x27c8, 0x27c9), (0x27cb, 0x27cd), (0x27d3, 0x27d6),
  (0x27dc, 0x27de), (0x27e2, 0x27ef), (0x2983, 0x2998), (0x299b, 0x29a0), (0x29a2, 0x29af),
  (0x29b8, 0x29b8), (0x29c0, 0x29c5), (0x29c9, 0x29c9), (0x29ce, 0x29d2), (0x29d4, 0x29d5),
  (0x29d8, 0x29dc), (0x29e1, 0x29e1), (0x29e3, 0x29e5), (0x29e8, 0x29e9), (0x29f4, 0x29f9),
  (0x29fc, 0x29fd), (0x2a0a, 0x2a1c), (0x2a1e, 0x2a21), (0x2a24, 0x2a24), (0x2a26, 0x2a26),
  (0x2a29, 0x2a29), (0x2a2b, 0x2a2e), (0x2a34, 0x2a35), (0x2a3c, 0x2a3e), (0x2a57, 0x2a58),
  (0x2a64, 0x2a65), (0x2a6a, 0x2a6d), (0x2a6f, 0x2a70), (0x2a73, 0x2a74), (0x2a79, 0x2aa3),
  (0x2aa6, 0x2aad), (0x2aaf, 0x2ad6), (0x2adc, 0x2adc), (0x2ade, 0x2ade), (0x2ae2, 0x2ae6),
  (0x2aec, 0x2aee), (0x2af3, 0x2af3), (0x2af7, 0x2afb), (0x2afd, 0x2afd), (0x2bfe, 0x2bfe),
  (0x2e02, 0x2e05), (0x2e09, 0x2e0a), (0x2e0c, 0x2e0d), (0x2e1c, 0x2e1d), (0x2e20, 0x2e29),
  (0x2e55, 0x2e5c), (0x3008, 0x3011), (0x3014, 0x301b), (0xfe59, 0xfe5e), (0xfe64, 0xfe65),
  (0xff08, 0xff09), (0xff1c, 0xff1c), (0xff1e, 0xff1e), (0xff3b, 0xff3b), (0xff3d, 0xff3d),
  (0xff5b, 0xff5b), (0xff5d, 0xff5d), (0xff5f, 0xff60), (0xff62, 0xff63), (0x1d6db, 0x1d6db),
  (0x1d715, 0x1d715), (0x1d74f, 0x1d74f), (0x1d789, 0x1d789), (0x1d7c3, 0x1d7c3)]

def otherDash : SpanTree Unit :=
  runs [(0x2053, 0x2053), (0x207b, 0x207b), (0x208b, 0x208b), (0x2212, 0x2212)]

def deprecated : SpanTree Unit := runs [
  (0x0149, 0x0149), (0x0673, 0x0673), (0x0f77, 0x0f77), (0x0f79, 0x0f79), (0x17a3, 0x17a4),
  (0x206a, 0x206f), (0x2329, 0x232a), (0xe0001, 0xe0001)]

def diacriticRuns1 : List (Nat × Nat) := [
  (0x005e, 0x005e), (0x0060, 0x0060), (0x00a8, 0x00a8), (0x00af, 0x00af), (0x00b4, 0x00b4),
  (0x00b7, 0x00b8), (0x02b0, 0x034e), (0x0350, 0x0357), (0x035d, 0x0362), (0x0374, 0x0375),
  (0x037a, 0x037a), (0x0384, 0x0385), (0x0483, 0x0487), (0x0559, 0x0559), (0x0591, 0x05a1),
  (0x05a3, 0x05bd), (0x05bf, 0x05bf), (0x05c1, 0x05c2), (0x05c4, 0x05c4), (0x064b, 0x0652),
  (0x0657, 0x0658), (0x06df, 0x06e0), (0x06e5, 0x06e6), (0x06ea, 0x06ec), (0x0730, 0x074a),
  (0x07a6, 0x07b0), (0x07eb, 0x07f5), (0x0818, 0x0819), (0x0898, 0x089f), (0x08c9, 0x08d2),
  (0x08e3, 0x08fe), (0x093c, 0x093c), (0x094d, 0x094d), (0x0951, 0x0954), (0x0971, 0x0971),
  (0x09bc, 0x09bc), (0x09cd, 0x09cd), (0x0a3c, 0x0a3c), (0x0a4d, 0x0a4d), (0x0abc, 0x0abc),
  (0x0acd, 0x0acd), (0x0afd, 0x0aff), (0x0b3c, 0x0b3c), (0x0b4d, 0x0b4d), (0x0b55, 0x0b55),
  (0x0bcd, 0x0bcd), (0x0c3c, 0x0c3c), (0x0c4d, 0x0c4d), (0x0cbc, 0x0cbc), (0x0ccd, 0x0ccd),
  (0x0d3b, 0x0d3c), (0x0d4d, 0x0d4d), (0x0dca, 0x0dca), (0x0e3a, 0x0e3a), (0x0e47, 0x0e4c),
  (0x0e4e, 0x0e4e), (0x0eba, 0x0eba), (0x0ec8, 0x0ecc), (0x0f18, 0x0f19), (0x0f35, 0x0f35),
  (0x0f37, 0x0f37), (0x0f39, 0x0f39), (0x0f3e, 0x0f3f), (0x0f82, 0x0f84), (0x0f86, 0x0f87),
  (0x0fc6, 0x0fc6), (0x1037, 0x1037), (0x1039, 0x103a), (0x1063, 0x1064), (0x1069, 0x106d),
  (0x1087, 0x108d), (0x108f, 0x108f), (0x109a, 0x109b), (0x135d, 0x135f), (0x1714, 0x1715),
  (0x1734, 0x1734), (0x17c9, 0x17d3), (0x17dd, 0x17dd), (0x1939, 0x193b), (0x1a60, 0x1a60),
  (0x1a75, 0x1a7c), (0x1a7f, 0x1a7f), (0x1ab0, 0x1abe), (0x1ac1, 0x1acb), (0x1b34, 0x1b34),
  (0x1b44, 0x1b44), (0x1b6b, 0x1b73), (0x1baa, 0x1bab), (0x1be6, 0x1be6), (0x1bf2, 0x1bf3),
  (0x1c36, 0x1c37), (0x1c78, 0x1c7d), (0x1cd0, 0x1ce8), (0x1ced, 0x1ced), (0x1cf4, 0x1cf4),
  (0x1cf7, 0x1cf9), (0x1d2c, 0x1d6a), (0x1dc4, 0x1dcf), (0x1df5, 0x1dff), (0x1fbd, 0x1fbd),
  (0x1fbf, 0x1fc1), (0x1fcd, 0x1fcf), (0x1fdd, 0x1fdf), (0x1fed, 0x1fef), (0x1ffd, 0x1ffe),
  (0x2cef, 0x2cf1), (0x2e2f, 0x2e2f)]

def diacriticRuns2 : List (Nat × Nat) := [
  (0x302a, 0x302f), (0x3099, 0x309c), (0x30fc, 0x30fc), (0xa66f, 0xa66f), (0xa67c, 0xa67d),
  (0xa67f, 0xa67f), (0xa69c, 0xa69d), (0xa6f0, 0xa6f1), (0xa700, 0xa721), (0xa788, 0xa78a),
  (0xa7f8, 0xa7f9), (0xa806, 0xa806), (0xa82c, 0xa82c), (0xa8c4, 0xa8c4), (0xa8e0, 0xa8f1),
  (0xa92b, 0xa92e), (0xa953, 0xa953), (0xa9b3, 0xa9b3), (0xa9c0, 0xa9c0), (0xa9e5, 0xa9e5),
  (0xaa7b, 0xaa7d), (0xaabf, 0xaac2), (0xaaf6, 0xaaf6), (0xab5b, 0xab5f), (0xab69, 0xab6b),
  (0xabec, 0xabed), (0xfb1e, 0xfb1e), (0xfe20, 0xfe2f), (0xff3e, 0xff3e), (0xff40, 0xff40),
  (0xff70, 0xff70), (0xff9e, 0xff9f), (0xffe3, 0xffe3), (0x102e0, 0x102e0), (0x10780, 0x10785),
  (0x10787, 0x107b0), (0x107b2, 0x107ba), (0x10a38, 0x10a3a), (0x10a3f, 0x10a3f),
  (0x10ae5, 0x10ae6), (0x10d22, 0x10d27), (0x10d4e, 0x10d4e), (0x10d69, 0x10d6d),
  (0x10efd, 0x10eff), (0x10f46, 0x10f50), (0x10f82, 0x10f85), (0x11046, 0x11046),
  (0x11070, 0x11070), (0x110b9, 0x110ba), (0x11133, 0x11134), (0x11173, 0x11173),
  (0x111c0, 0x111c0), (0x111ca, 0x111cc), (0x11235, 0x11236), (0x112e9, 0x112ea),
  (0x1133b, 0x1133c), (0x1134d, 0x1134d), (0x11366, 0x1136c), (0x11370, 0x11374),
  (0x113ce, 0x113d0), (0x113d2, 0x113d3), (0x113e1, 0x113e2), (0x11442, 0x11442),
  (0x11446, 0x11446), (0x114c2, 0x114c3), (0x115bf, 0x115c0), (0x1163f, 0x1163f),
  (0x116b6, 0x116b7), (0x1172b, 0x1172b), (0x11839, 0x1183a), (0x1193d, 0x1193e),
  (0x11943, 0x11943), (0x119e0, 0x119e0), (0x11a34, 0x11a34), (0x11a47, 0x11a47),
  (0x11a99, 0x11a99), (0x11c3f, 0x11c3f), (0x11d42, 0x11d42), (0x11d44, 0x11d45),
  (0x11d97, 0x11d97), (0x11f41, 0x11f42), (0x11f5a, 0x11f5a), (0x13447, 0x13455),
  (0x1612f, 0x1612f), (0x16af0, 0x16af4), (0x16b30, 0x16b36), (0x16d6b, 0x16d6c),
  (0x16f8f, 0x16f9f), (0x16ff0, 0x16ff1), (0x1aff0, 0x1aff3), (0x1aff5, 0x1affb),
  (0x1affd, 0x1affe), (0x1cf00, 0x1cf2d), (0x1cf30, 0x1cf46), (0x1d167, 0x1d169),
  (0x1d16d, 0x1d172), (0x1d17b, 0x1d182), (0x1d185, 0x1d18b), (0x1d1aa, 0x1d1ad),
  (0x1e030, 0x1e06d), (0x1e130, 0x1e136), (0x1e2ae, 0x1e2ae), (0x1e2ec, 0x1e2ef),
  (0x1e5ee, 0x1e5ef), (0x1e8d0, 0x1e8d6), (0x1e944, 0x1e946), (0x1e948, 0x1e94a)]

def diacritic : SpanTree Unit :=
  runs (diacriticRuns1 ++ diacriticRuns2)

def emoji : SpanTree Unit := runs [
  (0x0023, 0x0023), (0x002a, 0x002a), (0x0030, 0x0039), (0x00a9, 0x00a9), (0x00ae, 0x00ae),
  (0x203c, 0x203c), (0x2049, 0x2049), (0x2122, 0x2122), (0x2139, 0x2139), (0x2194, 0x2199),
  (0x21a9, 0x21aa), (0x231a, 0x231b), (0x2328, 0x2328), (0x23cf, 0x23cf), (0x23e9, 0x23f3),
  (0x23f8, 0x23fa), (0x24c2, 0x24c2), (0x25aa, 0x25ab), (0x25b6, 0x25b6), (0x25c0, 0x25c0),
  (0x25fb, 0x25fe), (0x2600, 0x2604), (0x260e, 0x260e), (0x2611, 0x2611), (0x2614, 0x2615),
  (0x2618, 0x2618), (0x261d, 0x261d), (0x2620, 0x2620), (0x2622, 0x2623), (0x2626, 0x2626),
  (0x262a, 0x262a), (0x262e, 0x262f), (0x2638, 0x263a), (0x2640, 0x2640), (0x2642, 0x2642),
  (0x2648, 0x2653), (0x265f, 0x2660), (0x2663, 0x2663), (0x2665, 0x2666), (0x2668, 0x2668),
  (0x267b, 0x267b), (0x267e, 0x267f), (0x2692, 0x2697), (0x2699, 0x2699), (0x269b, 0x269c),
  (0x26a0, 0x26a1), (0x26a7, 0x26a7), (0x26aa, 0x26ab), (0x26b0, 0x26b1), (0x26bd, 0x26be),
  (0x26c4, 0x26c5), (0x26c8, 0x26c8), (0x26ce, 0x26cf), (0x26d1, 0x26d1), (0x26d3, 0x26d4),
  (0x26e9, 0x26ea), (0x26f0, 0x26f5), (0x26f7, 0x26fa), (0x26fd, 0x26fd), (0x2702, 0x2702),
  (0x2705, 0x2705), (0x2708, 0x270d), (0x270f, 0x270f), (0x2712, 0x2712), (0x2714, 0x2714),
  (0x2716, 0x2716), (0x271d, 0x271d), (0x2721, 0x2721), (0x2728, 0x2728), (0x2733, 0x2734),
  (0x2744, 0x2744), (0x2747, 0x2747), (0x274c, 0x274c), (0x274e, 0x274e), (0x2753, 0x2755),
  (0x2757, 0x2757), (0x2763, 0x2764), (0x2795, 0x2797), (0x27a1, 0x27a1), (0x27b0, 0x27b0),
  (0x27bf, 0x27bf), (0x2934, 0x2935), (0x2b05, 0x2b07), (0x2b1b, 0x2b1c), (0x2b50, 0x2b50),
  (0x2b55, 0x2b55), (0x3030, 0x3030), (0x303d, 0x303d), (0x3297, 0x3297), (0x3299, 0x3299),
  (0x1f004, 0x1f004), (0x1f0cf, 0x1f0cf), (0x1f170, 0x1f171), (0x1f17e, 0x1f17f),
  (0x1f18e, 0x1f18e), (0x1f191, 0x1f19a), (0x1f1e6, 0x1f1ff), (0x1f201, 0x1f202),
  (0x1f21a, 0x1f21a), (0x1f22f, 0x1f22f), (0x1f232, 0x1f23a), (0x1f250, 0x1f251),
  (0x1f300, 0x1f321), (0x1f324, 0x1f393), (0x1f396, 0x1f397), (0x1f399, 0x1f39b),
  (0x1f39e, 0x1f3f0), (0x1f3f3, 0x1f3f5), (0x1f3f7, 0x1f4fd), (0x1f4ff, 0x1f53d),
  (0x1f549, 0x1f54e), (0x1f550, 0x1f567), (0x1f56f, 0x1f570), (0x1f573, 0x1f57a),
  (0x1f587, 0x1f587), (0x1f58a, 0x1f58d), (0x1f590, 0x1f590), (0x1f595, 0x1f596),
  (0x1f5a4, 0x1f5a5), (0x1f5a8, 0x1f5a8), (0x1f5b1, 0x1f5b2), (0x1f5bc, 0x1f5bc),
  (0x1f5c2, 0x1f5c4), (0x1f5d1, 0x1f5d3), (0x1f5dc, 0x1f5de), (0x1f5e1, 0x1f5e1),
  (0x1f5e3, 0x1f5e3), (0x1f5e8, 0x1f5e8), (0x1f5ef, 0x1f5ef), (0x1f5f3, 0x1f5f3),
  (0x1f5fa, 0x1f64f), (0x1f680, 0x1f6c5), (0x1f6cb, 0x1f6d2), (0x1f6d5, 0x1f6d7),
  (0x1f6dc, 0x1f6e5), (0x1f6e9, 0x1f6e9), (0x1f6eb, 0x1f6ec), (0x1f6f0, 0x1f6f0),
  (0x1f6f3, 0x1f6fc), (0x1f7e0, 0x1f7eb), (0x1f7f0, 0x1f7f0), (0x1f90c, 0x1f93a),
  (0x1f93c, 0x1f945), (0x1f947, 0x1f9ff), (0x1fa70, 0x1fa7c), (0x1fa80, 0x1fa89),
  (0x1fa8f, 0x1fac6), (0x1face, 0x1fadc), (0x1fadf, 0x1fae9), (0x1faf0, 0x1faf8)]

def emojiComponent : SpanTree Unit := runs [
  (0x0023, 0x0023), (0x002a, 0x002a), (0x0030, 0x0039), (0x200d, 0x200d), (0x20e3, 0x20e3),
  (0xfe0f, 0xfe0f), (0x1f1e6, 0x1f1ff), (0x1f3fb, 0x1f3ff), (0x1f9b0, 0x1f9b3), (0xe0020, 0xe007f)]

def emojiModifier : SpanTree Unit :=
  runs [(0x1f3fb, 0x1f3ff)]

def emojiModifierBase : SpanTree Unit := runs [
  (0x261d, 0x261d), (0x26f9, 0x26f9), (0x270a, 0x270d), (0x1f385, 0x1f385), (0x1f3c2, 0x1f3c4),
  (0x1f3c7, 0x1f3c7), (0x1f3ca, 0x1f3cc), (0x1f442, 0x1f443), (0x1f446, 0x1f450),
  (0x1f466, 0x1f478), (0x1f47c, 0x1f47c), (0x1f481, 0x1f483), (0x1f485, 0x1f487),
  (0x1f48f, 0x1f48f), (0x1f491, 0x1f491), (0x1f4aa, 0x1f4aa), (0x1f574, 0x1f575),
  (0x1f57a, 0x1f57a), (0x1f590, 0x1f590), (0x1f595, 0x1f596), (0x1f645, 0x1f647),
  (0x1f64b, 0x1f64f), (0x1f6a3, 0x1f6a3), (0x1f6b4, 0x1f6b6), (0x1f6c0, 0x1f6c0),
  (0x1f6cc, 0x1f6cc), (0x1f90c, 0x1f90c), (0x1f90f, 0x1f90f), (0x1f918, 0x1f91f),
  (0x1f926, 0x1f926), (0x1f930, 0x1f939), (0x1f93c, 0x1f93e), (0x1f977, 0x1f977),
  (0x1f9b5, 0x1f9b6), (0x1f9b8, 0x1f9b9), (0x1f9bb, 0x1f9bb), (0x1f9cd, 0x1f9cf),
  (0x1f9d1, 0x1f9dd), (0x1fac3, 0x1fac5), (0x1faf0, 0x1faf8)]

def emojiPresentation : SpanTree Unit := runs [
  (0x231a, 0x231b), (0x23e9, 0x23ec), (0x23f0, 0x23f0), (0x23f3, 0x23f3), (0x25fd, 0x25fe),
  (0x2614, 0x2615), (0x2648, 0x2653), (0x267f, 0x267f), (0x2693, 0x2693), (0x26a1, 0x26a1),
  (0x26aa, 0x26ab), (0x26bd, 0x26be), (0x26c4, 0x26c5), (0x26ce, 0x26ce), (0x26d4, 0x26d4),
  (0x26ea, 0x26ea), (0x26f2, 0x26f3), (0x26f5, 0x26f5), (0x26fa, 0x26fa), (0x26fd, 0x26fd),
  (0x2705, 0x2705), (0x270a, 0x270b), (0x2728, 0x2728), (0x274c, 0x274c), (0x274e, 0x274e),
  (0x2753, 0x2755), (0x2757, 0x2757), (0x2795, 0x2797), (0x27b0, 0x27b0), (0x27bf, 0x27bf),
  (0x2b1b, 0x2b1c), (0x2b50, 0x2b50), (0x2b55, 0x2b55), (0x1f004, 0x1f004), (0x1f0cf, 0x1f0cf),
  (0x1f18e, 0x1f18e), (0x1f191, 0x1f19a), (0x1f1e6, 0x1f1ff), (0x1f201, 0x1f201),
  (0x1f21a, 0x1f21a), (0x1f22f, 0x1f22f), (0x1f232, 0x1f236), (0x1f238, 0x1f23a),
  (0x1f250, 0x1f251), (0x1f300, 0x1f320), (0x1f32d, 0x1f335), (0x1f337, 0x1f37c),
  (0x1f37e, 0x1f393), (0x1f3a0, 0x1f3ca), (0x1f3cf, 0x1f3d3), (0x1f3e0, 0x1f3f0),
  (0x1f3f4, 0x1f3f4), (0x1f3f8, 0x1f43e), (0x1f440, 0x1f440), (0x1f442, 0x1f4fc),
  (0x1f4ff, 0x1f53d), (0x1f54b, 0x1f54e), (0x1f550, 0x1f567), (0x1f57a, 0x1f57a),
  (0x1f595, 0x1f596), (0x1f5a4, 0x1f5a4), (0x1f5fb, 0x1f64f), (0x1f680, 0x1f6c5),
  (0x1f6cc, 0x1f6cc), (0x1f6d0, 0x1f6d2), (0x1f6d5, 0x1f6d7), (0x1f6dc, 0x1f6df),
  (0x1f6eb, 0x1f6ec), (0x1f6f4, 0x1f6fc), (0x1f7e0, 0x1f7eb), (0x1f7f0, 0x1f7f0),
  (0x1f90c, 0x1f93a), (0x1f93c, 0x1f945), (0x1f947, 0x1f9ff), (0x1fa70, 0x1fa7c),
  (0x1fa80, 0x1fa89), (0x1fa8f, 0x1fac6), (0x1face, 0x1fadc), (0x1fadf, 0x1fae9),
  (0x1faf0, 0x1faf8)]

def extendedPictographic : SpanTree Unit := runs [
  (0x00a9, 0x00a9), (0x00ae, 0x00ae), (0x203c, 0x203c), (0x2049, 0x2049), (0x2122, 0x2122),
  (0x2139, 0x2139), (0x2194, 0x2199), (0x21a9, 0x21aa), (0x231a, 0x231b), (0x2328, 0x2328),
  (0x2388, 0x2388), (0x23cf, 0x23cf), (0x23e9, 0x23f3), (0x23f8, 0x23fa), (0x24c2, 0x24c2),
  (0x25aa, 0x25ab), (0x25b6, 0x25b6), (0x25c0, 0x25c0), (0x25fb, 0x25fe), (0x2600, 0x2605),
  (0x2607, 0x2612), (0x2614, 0x2685), (0x2690, 0x2705), (0x2708, 0x2712), (0x2714, 0x2714),
  (0x2716, 0x2716), (0x271d, 0x271d), (0x2721, 0x2721), (0x2728, 0x2728), (0x2733, 0x2734),
  (0x2744, 0x2744), (0x2747, 0x2747), (0x274c, 0x274c), (0x274e, 0x274e), (0x2753, 0x2755),
  (0x2757, 0x2757), (0x2763, 0x2767), (0x2795, 0x2797), (0x27a1, 0x27a1), (0x27b0, 0x27b0),
  (0x27bf, 0x27bf), (0x2934, 0x2935), (0x2b05, 0x2b07), (0x2b1b, 0x2b1c), (0x2b50, 0x2b50),
  (0x2b55, 0x2b55), (0x3030, 0x3030), (0x303d, 0x303d), (0x3297, 0x3297), (0x3299, 0x3299),
  (0x1f000, 0x1f0ff), (0x1f10d, 0x1f10f), (0x1f12f, 0x1f12f), (0x1f16c, 0x1f171),
  (0x1f17e, 0x1f17f), (0x1f18e, 0x1f18e), (0x1f191, 0x1f19a), (0x1f1ad, 0x1f1e5),
  (0x1f201, 0x1f20f), (0x1f21a, 0x1f21a), (0x1f22f, 0x1f22f), (0x1f232, 0x1f23a),
  (0x1f23c, 0x1f23f), (0x1f249, 0x1f3fa), (0x1f400, 0x1f53d), (0x1f546, 0x1f64f),
  (0x1f680, 0x1f6ff), (0x1f774, 0x1f77f), (0x1f7d5, 0x1f7ff), (0x1f80c, 0x1f80f),
  (0x1f848, 0x1f84f), (0x1f85a, 0x1f85f), (0x1f888, 0x1f88f), (0x1f8ae, 0x1f8ff),
  (0x1f90c, 0x1f93a), (0x1f93c, 0x1f945), (0x1f947, 0x1faff), (0x1fc00, 0x1fffd)]

def extender : SpanTree Unit := runs [
  (0x00b7, 0x00b7), (0x02d0, 0x02d1), (0x0640, 0x0640), (0x07fa, 0x07fa), (0x0a71, 0x0a71),
  (0x0afb, 0x0afb), (0x0b55, 0x0b55), (0x0e46, 0x0e46), (0x0ec6, 0x0ec6), (0x180a, 0x180a),
  (0x1843, 0x1843), (0x1aa7, 0x1aa7), (0x1c36, 0x1c36), (0x1c7b, 0x1c7b), (0x3005, 0x3005),
  (0x3031, 0x3035), (0x309d, 0x309e), (0x30fc, 0x30fe), (0xa015, 0xa015), (0xa60c, 0xa60c),
  (0xa9cf, 0xa9cf), (0xa9e6, 0xa9e6), (0xaa70, 0xaa70), (0xaadd, 0xaadd), (0xaaf3, 0xaaf4),
  (0xff70, 0xff70), (0x10781, 0x10782), (0x10d4e, 0x10d4e), (0x10d6a, 0x10d6a), (0x10d6f, 0x10d6f),
  (0x11237, 0x11237), (0x1135d, 0x1135d), (0x113d2, 0x113d3), (0x115c6, 0x115c8),
  (0x11a98, 0x11a98), (0x16b42, 0x16b43), (0x16fe0, 0x16fe1), (0x16fe3, 0x16fe3),
  (0x1e13c, 0x1e13d), (0x1e5ef, 0x1e5ef), (0x1e944, 0x1e946)]

def graphemeLink : SpanTree Unit := runs [
  (0x094d, 0x094d), (0x09cd, 0x09cd), (0x0a4d, 0x0a4d), (0x0acd, 0x0acd), (0x0b4d, 0x0b4d),
  (0x0bcd, 0x0bcd), (0x0c4d, 0x0c4d), (0x0ccd, 0x0ccd), (0x0d3b, 0x0d3c), (0x0d4d, 0x0d4d),
  (0x0dca, 0x0dca), (0x0e3a, 0x0e3a), (0x0eba, 0x0eba), (0x0f84, 0x0f84), (0x1039, 0x103a),
  (0x1714, 0x1715), (0x1734, 0x1734), (0x17d2, 0x17d2), (0x1a60, 0x1a60), (0x1b44, 0x1b44),
  (0x1baa, 0x1bab), (0x1bf2, 0x1bf3), (0x2d7f, 0x2d7f), (0xa806, 0xa806), (0xa82c, 0xa82c),
  (0xa8c4, 0xa8c4), (0xa953, 0xa953), (0xa9c0, 0xa9c0), (0xaaf6, 0xaaf6), (0xabed, 0xabed),
  (0x10a3f, 0x10a3f), (0x11046, 0x11046), (0x11070, 0x11070), (0x1107f, 0x1107f),
  (0x110b9, 0x110b9), (0x11133, 0x11134), (0x111c0, 0x111c0), (0x11235, 0x11235),
  (0x112ea, 0x112ea), (0x1134d, 0x1134d), (0x113ce, 0x113d0), (0x11442, 0x11442),
  (0x114c2, 0x114c2), (0x115bf, 0x115bf), (0x1163f, 0x1163f), (0x116b6, 0x116b6),
  (0x1172b, 0x1172b), (0x11839, 0x11839), (0x1193d, 0x1193e), (0x119e0, 0x119e0),
  (0x11a34, 0x11a34), (0x11a47, 0x11a47), (0x11a99, 0x11a99), (0x11c3f, 0x11c3f),
  (0x11d44, 0x11d45), (0x11d97, 0x11d97), (0x11f41, 0x11f42), (0x1612f, 0x1612f)]

def hexDigit : SpanTree Unit := runs [
  (0x0030, 0x0039), (0x0041, 0x0046), (0x0061, 0x0066), (0xff10, 0xff19), (0xff21, 0xff26),
  (0xff41, 0xff46)]

def hyphen : SpanTree Unit := runs [
  (0x002d, 0x002d), (0x00ad, 0x00ad), (0x058a, 0x058a), (0x1806, 0x1806), (0x2010, 0x2011),
  (0x2e17, 0x2e17), (0x30fb, 0x30fb), (0xfe63, 0xfe63), (0xff0d, 0xff0d), (0xff65, 0xff65)]

def idsBinaryOperator : SpanTree Unit :=
  runs [(0x2ff0, 0x2ff1), (0x2ff4, 0x2ffd), (0x31ef, 0x31ef)]

def idsTrinaryOperator : SpanTree Unit :=
  runs [(0x2ff2, 0x2ff3)]

def idsUnaryOperator : SpanTree Unit :=
  runs [(0x2ffe, 0x2fff)]

def idCompatMathStart : SpanTree Unit := runs [
  (0x2202, 0x2202), (0x2207, 0x2207), (0x221e, 0x221e), (0x1d6c1, 0x1d6c1), (0x1d6db, 0x1d6db),
  (0x1d6fb, 0x1d6fb), (0x1d715, 0x1d715), (0x1d735, 0x1d735), (0x1d74f, 0x1d74f),
  (0x1d76f, 0x1d76f), (0x1d789, 0x1d789), (0x1d7a9, 0x1d7a9), (0x1d7c3, 0x1d7c3)]

def idCompatMathDigit : SpanTree Unit :=
  runs [(0x00b2, 0x00b3), (0x00b9, 0x00b9), (0x2070, 0x2070), (0x2074, 0x207e), (0x2080, 0x208e)]

def joinControl : SpanTree Unit :=
  runs [(0x200c, 0x200d)]

def logicalOrderException : SpanTree Unit := runs [
  (0x0e40, 0x0e44), (0x0ec0, 0x0ec4), (0x19b5, 0x19b7), (0x19ba, 0x19ba), (0xaab5, 0xaab6),
  (0xaab9, 0xaab9), (0xaabb, 0xaabc)]

def modifierCombiningMark : SpanTree Unit := runs [
  (0x0654, 0x0655), (0x0658, 0x0658), (0x06dc, 0x06dc), (0x06e3, 0x06e3), (0x06e7, 0x06e8),
  (0x08ca, 0x08cb), (0x08cd, 0x08cf), (0x08d3, 0x08d3), (0x08f3, 0x08f3)]

def otherAlphabeticRuns1 : List (Nat × Nat) := [
  (0x0345, 0x0345), (0x0363, 0x036f), (0x05b0, 0x05bd), (0x05bf, 0x05bf), (0x05c1, 0x05c2),
  (0x05c4, 0x05c5), (0x05c7, 0x05c7), (0x0610, 0x061a), (0x064b, 0x0657), (0x0659, 0x065f),
  (0x0670, 0x0670), (0x06d6, 0x06dc), (0x06e1, 0x06e4), (0x06e7, 0x06e8), (0x06ed, 0x06ed),
  (0x0711, 0x0711), (0x0730, 0x073f), (0x07a6, 0x07b0), (0x0816, 0x0817), (0x081b, 0x0823),
  (0x0825, 0x0827), (0x0829, 0x082c), (0x0897, 0x0897), (0x08d4, 0x08df), (0x08e3, 0x08e9),
  (0x08f0, 0x0903), (0x093a, 0x093b), (0x093e, 0x094c), (0x094e, 0x094f), (0x0955, 0x0957),
  (0x0962, 0x0963), (0x0981, 0x0983), (0x09be, 0x09c4), (0x09c7, 0x09c8), (0x09cb, 0x09cc),
  (0x09d7, 0x09d7), (0x09e2, 0x09e3), (0x0a01, 0x0a03), (0x0a3e, 0x0a42), (0x0a47, 0x0a48),
  (0x0a4b, 0x0a4c), (0x0a51, 0x0a51), (0x0a70, 0x0a71), (0x0a75, 0x0a75), (0x0a81, 0x0a83),
  (0x0abe, 0x0ac5), (0x0ac7, 0x0ac9), (0x0acb, 0x0acc), (0x0ae2, 0x0ae3), (0x0afa, 0x0afc),
  (0x0b01, 0x0b03), (0x0b3e, 0x0b44), (0x0b47, 0x0b48), (0x0b4b, 0x0b4c), (0x0b56, 0x0b57),
  (0x0b62, 0x0b63), (0x0b82, 0x0b82), (0x0bbe, 0x0bc2), (0x0bc6, 0x0bc8), (0x0bca, 0x0bcc),
  (0x0bd7, 0x0bd7), (0x0c00, 0x0c04), (0x0c3e, 0x0c44), (0x0c46, 0x0c48), (0x0c4a, 0x0c4c),
  (0x0c55, 0x0c56), (0x0c62, 0x0c63), (0x0c81, 0x0c83), (0x0cbe, 0x0cc4), (0x0cc6, 0x0cc8),
  (0x0cca, 0x0ccc), (0x0cd5, 0x0cd6), (0x0ce2, 0x0ce3), (0x0cf3, 0x0cf3), (0x0d00, 0x0d03),
  (0x0d3e, 0x0d44), (0x0d46, 0x0d48), (0x0d4a, 0x0d4c), (0x0d57, 0x0d57), (0x0d62, 0x0d63),
  (0x0d81, 0x0d83), (0x0dcf, 0x0dd4), (0x0dd6, 0x0dd6), (0x0dd8, 0x0ddf), (0x0df2, 0x0df3),
  (0x0e31, 0x0e31), (0x0e34, 0x0e3a), (0x0e4d, 0x0e4d), (0x0eb1, 0x0eb1), (0x0eb4, 0x0eb9),
  (0x0ebb, 0x0ebc), (0x0ecd, 0x0ecd), (0x0f71, 0x0f83), (0x0f8d, 0x0f97), (0x0f99, 0x0fbc),
  (0x102b, 0x1036), (0x1038, 0x1038), (0x103b, 0x103e), (0x1056, 0x1059), (0x105e, 0x1060),
  (0x1062, 0x1064), (0x1067, 0x106d), (0x1071, 0x1074), (0x1082, 0x108d), (0x108f, 0x108f),
  (0x109a, 0x109d), (0x1712, 0x1713), (0x1732, 0x1733), (0x1752, 0x1753), (0x1772, 0x1773),
  (0x17b6, 0x17c8), (0x1885, 0x1886), (0x18a9, 0x18a9), (0x1920, 0x192b), (0x1930, 0x1938),
  (0x1a17, 0x1a1b), (0x1a55, 0x1a5e), (0x1a61, 0x1a74), (0x1abf, 0x1ac0), (0x1acc, 0x1ace),
  (0x1b00, 0x1b04), (0x1b35, 0x1b43), (0x1b80, 0x1b82), (0x1ba1, 0x1ba9), (0x1bac, 0x1bad)]

def otherAlphabeticRuns2 : List (Nat × Nat) := [
  (0x1be7, 0x1bf1), (0x1c24, 0x1c36), (0x1dd3, 0x1df4), (0x24b6, 0x24e9), (0x2de0, 0x2dff),
  (0xa674, 0xa67b), (0xa69e, 0xa69f), (0xa802, 0xa802), (0xa80b, 0xa80b), (0xa823, 0xa827),
  (0xa880, 0xa881), (0xa8b4, 0xa8c3), (0xa8c5, 0xa8c5), (0xa8ff, 0xa8ff), (0xa926, 0xa92a),
  (0xa947, 0xa952), (0xa980, 0xa983), (0xa9b4, 0xa9bf), (0xa9e5, 0xa9e5), (0xaa29, 0xaa36),
  (0xaa43, 0xaa43), (0xaa4c, 0xaa4d), (0xaa7b, 0xaa7d), (0xaab0, 0xaab0), (0xaab2, 0xaab4),
  (0xaab7, 0xaab8), (0xaabe, 0xaabe), (0xaaeb, 0xaaef), (0xaaf5, 0xaaf5), (0xabe3, 0xabea),
  (0xfb1e, 0xfb1e), (0x10376, 0x1037a), (0x10a01, 0x10a03), (0x10a05, 0x10a06), (0x10a0c, 0x10a0f),
  (0x10d24, 0x10d27), (0x10d69, 0x10d69), (0x10eab, 0x10eac), (0x10efc, 0x10efc),
  (0x11000, 0x11002), (0x11038, 0x11045), (0x11073, 0x11074), (0x11080, 0x11082),
  (0x110b0, 0x110b8), (0x110c2, 0x110c2), (0x11100, 0x11102), (0x11127, 0x11132),
  (0x11145, 0x11146), (0x11180, 0x11182), (0x111b3, 0x111bf), (0x111ce, 0x111cf),
  (0x1122c, 0x11234), (0x11237, 0x11237), (0x1123e, 0x1123e), (0x11241, 0x11241),
  (0x112df, 0x112e8), (0x11300, 0x11303), (0x1133e, 0x11344), (0x11347, 0x11348),
  (0x1134b, 0x1134c), (0x11357, 0x11357), (0x11362, 0x11363), (0x113b8, 0x113c0),
  (0x113c2, 0x113c2), (0x113c5, 0x113c5), (0x113c7, 0x113ca), (0x113cc, 0x113cd),
  (0x11435, 0x11441), (0x11443, 0x11445), (0x114b0, 0x114c1), (0x115af, 0x115b5),
  (0x115b8, 0x115be), (0x115dc, 0x115dd), (0x11630, 0x1163e), (0x11640, 0x11640),
  (0x116ab, 0x116b5), (0x1171d, 0x1172a), (0x1182c, 0x11838), (0x11930, 0x11935),
  (0x11937, 0x11938), (0x1193b, 0x1193c), (0x11940, 0x11940), (0x11942, 0x11942),
  (0x119d1, 0x119d7), (0x119da, 0x119df), (0x119e4, 0x119e4), (0x11a01, 0x11a0a),
  (0x11a35, 0x11a39), (0x11a3b, 0x11a3e), (0x11a51, 0x11a5b), (0x11a8a, 0x11a97),
  (0x11c2f, 0x11c36), (0x11c38, 0x11c3e), (0x11c92, 0x11ca7), (0x11ca9, 0x11cb6),
  (0x11d31, 0x11d36), (0x11d3a, 0x11d3a), (0x11d3c, 0x11d3d), (0x11d3f, 0x11d41),
  (0x11d43, 0x11d43), (0x11d47, 0x11d47), (0x11d8a, 0x11d8e), (0x11d90, 0x11d91),
  (0x11d93, 0x11d96), (0x11ef3, 0x11ef6), (0x11f00, 0x11f01), (0x11f03, 0x11f03),
  (0x11f34, 0x11f3a), (0x11f3e, 0x11f40), (0x1611e, 0x1612e), (0x16f4f, 0x16f4f),
  (0x16f51, 0x16f87), (0x16f8f, 0x16f92), (0x16ff0, 0x16ff1), (0x1bc9e, 0x1bc9e),
  (0x1e000, 0x1e006), (0x1e008, 0x1e018), (0x1e01b, 0x1e021), (0x1e023, 0x1e024),
  (0x1e026, 0x1e02a), (0x1e08f, 0x1e08f), (0x1e947, 0x1e947), (0x1f130, 0x1f149),
  (0x1f150, 0x1f169), (0x1f170, 0x1f189)]

def otherAlphabetic : SpanTree Unit :=
  runs (otherAlphabeticRuns1 ++ otherAlphabeticRuns2)

def otherDefaultIgnorable : SpanTree Unit := runs [
  (0x034f, 0x034f), (0x115f, 0x1160), (0x17b4, 0x17b5), (0x2065, 0x2065), (0x3164, 0x3164),
  (0xffa0, 0xffa0), (0xfff0, 0xfff8), (0xe0000, 0xe0000), (0xe0002, 0xe001f), (0xe0080, 0xe00ff),
  (0xe01f0, 0xe0fff)]

def otherGraphemeExtend : SpanTree Unit := runs [
  (0x09be, 0x09be), (0x09d7, 0x09d7), (0x0b3e, 0x0b3e), (0x0b57, 0x0b57), (0x0bbe, 0x0bbe),
  (0x0bd7, 0x0bd7), (0x0cc0, 0x0cc0), (0x0cc2, 0x0cc2), (0x0cc7, 0x0cc8), (0x0cca, 0x0ccb),
  (0x0cd5, 0x0cd6), (0x0d3e, 0x0d3e), (0x0d57, 0x0d57), (0x0dcf, 0x0dcf), (0x0ddf, 0x0ddf),
  (0x1715, 0x1715), (0x1734, 0x1734), (0x1b35, 0x1b35), (0x1b3b, 0x1b3b), (0x1b3d, 0x1b3d),
  (0x1b43, 0x1b44), (0x1baa, 0x1baa), (0x1bf2, 0x1bf3), (0x200c, 0x200c), (0x302e, 0x302f),
  (0xa953, 0xa953), (0xa9c0, 0xa9c0), (0xff9e, 0xff9f), (0x111c0, 0x111c0), (0x11235, 0x11235),
  (0x1133e, 0x1133e), (0x1134d, 0x1134d), (0x11357, 0x11357), (0x113b8, 0x113b8),
  (0x113c2, 0x113c2), (0x113c5, 0x113c5), (0x113c7, 0x113c9), (0x113cf, 0x113cf),
  (0x114b0, 0x114b0), (0x114bd, 0x114bd), (0x115af, 0x115af), (0x116b6, 0x116b6),
  (0x11930, 0x11930), (0x1193d, 0x1193d), (0x11f41, 0x11f41), (0x16ff0, 0x16ff1),
  (0x1d165, 0x1d166), (0x1d16d, 0x1d172), (0xe0020, 0xe007f)]

def otherIdContinue : SpanTree Unit := runs [
  (0x00b7, 0x00b7), (0x0387, 0x0387), (0x1369, 0x1371), (0x19da, 0x19da), (0x200c, 0x200d),
  (0x30fb, 0x30fb), (0xff65, 0xff65)]

def otherIdStart : SpanTree Unit :=
  runs [(0x1885, 0x1886), (0x2118, 0x2118), (0x212e, 0x212e), (0x309b, 0x309c)]

def otherIdeographic : SpanTree Unit := runs [
  (0x3006, 0x3007), (0x3021, 0x3029), (0x3038, 0x303a), (0xf900, 0xfa0d), (0xfa10, 0xfa10),
  (0xfa12, 0xfa12), (0xfa15, 0xfa1e), (0xfa20, 0xfa20), (0xfa22, 0xfa22), (0xfa25, 0xfa26),
  (0xfa2a, 0xfa6d), (0xfa70, 0xfad9), (0x16fe4, 0x16fe4), (0x17000, 0x187f7), (0x18800, 0x18cd5),
  (0x18cff, 0x18d08), (0x1b170, 0x1b2fb), (0x2f800, 0x2fa1d)]

def otherLowercase : SpanTree Unit := runs [
  (0x00aa, 0x00aa), (0x00ba, 0x00ba), (0x02b0, 0x02b8), (0x02c0, 0x02c1), (0x02e0, 0x02e4),
  (0x0345, 0x0345), (0x037a, 0x037a), (0x10fc, 0x10fc), (0x1d2c, 0x1d6a), (0x1d78, 0x1d78),
  (0x1d9b, 0x1dbf), (0x2071, 0x2071), (0x207f, 0x207f), (0x2090, 0x209c), (0x2170, 0x217f),
  (0x24d0, 0x24e9), (0x2c7c, 0x2c7d), (0xa69c, 0xa69d), (0xa770, 0xa770), (0xa7f2, 0xa7f4),
  (0xa7f8, 0xa7f9), (0xab5c, 0xab5f), (0xab69, 0xab69), (0x10780, 0x10780), (0x10783, 0x10785),
  (0x10787, 0x107b0), (0x107b2, 0x107ba), (0x1e030, 0x1e06d)]

def otherMath : SpanTree Unit := runs [
  (0x005e, 0x005e), (0x03d0, 0x03d2), (0x03d5, 0x03d5), (0x03f0, 0x03f1), (0x03f4, 0x03f5),
  (0x2016, 0x2016), (0x2032, 0x2034), (0x2040, 0x2040), (0x2061, 0x2064), (0x207d, 0x207e),
  (0x208d, 0x208e), (0x20d0, 0x20dc), (0x20e1, 0x20e1), (0x20e5, 0x20e6), (0x20eb, 0x20ef),
  (0x2102, 0x2102), (0x2107, 0x2107), (0x210a, 0x2113), (0x2115, 0x2115), (0x2119, 0x211d),
  (0x2124, 0x2124), (0x2128, 0x2129), (0x212c, 0x212d), (0x212f, 0x2131), (0x2133, 0x2138),
  (0x213c, 0x213f), (0x2145, 0x2149), (0x2195, 0x2199), (0x219c, 0x219f), (0x21a1, 0x21a2),
  (0x21a4, 0x21a5), (0x21a7, 0x21a7), (0x21a9, 0x21ad), (0x21b0, 0x21b1), (0x21b6, 0x21b7),
  (0x21bc, 0x21cd), (0x21d0, 0x21d1), (0x21d3, 0x21d3), (0x21d5, 0x21db), (0x21dd, 0x21dd),
  (0x21e4, 0x21e5), (0x2308, 0x230b), (0x23b4, 0x23b5), (0x23b7, 0x23b7), (0x23d0, 0x23d0),
  (0x23e2, 0x23e2), (0x25a0, 0x25a1), (0x25ae, 0x25b6), (0x25bc, 0x25c0), (0x25c6, 0x25c7),
  (0x25ca, 0x25cb), (0x25cf, 0x25d3), (0x25e2, 0x25e2), (0x25e4, 0x25e4), (0x25e7, 0x25ec),
  (0x2605, 0x2606), (0x2640, 0x2640), (0x2642, 0x2642), (0x2660, 0x2663), (0x266d, 0x266e),
  (0x27c5, 0x27c6), (0x27e6, 0x27ef), (0x2983, 0x2998), (0x29d8, 0x29db), (0x29fc, 0x29fd),
  (0xfe61, 0xfe61), (0xfe63, 0xfe63), (0xfe68, 0xfe68), (0xff3c, 0xff3c), (0xff3e, 0xff3e),
  (0x1d400, 0x1d454), (0x1d456, 0x1d49c), (0x1d49e, 0x1d49f), (0x1d4a2, 0x1d4a2),
  (0x1d4a5, 0x1d4a6), (0x1d4a9, 0x1d4ac), (0x1d4ae, 0x1d4b9), (0x1d4bb, 0x1d4bb),
  (0x1d4bd, 0x1d4c3), (0x1d4c5, 0x1d505), (0x1d507, 0x1d50a), (0x1d50d, 0x1d514),
  (0x1d516, 0x1d51c), (0x1d51e, 0x1d539), (0x1d53b, 0x1d53e), (0x1d540, 0x1d544),
  (0x1d546, 0x1d546), (0x1d54a, 0x1d550), (0x1d552, 0x1d6a5), (0x1d6a8, 0x1d6c0),
  (0x1d6c2, 0x1d6da), (0x1d6dc, 0x1d6fa), (0x1d6fc, 0x1d714), (0x1d716, 0x1d734),
  (0x1d736, 0x1d74e), (0x1d750, 0x1d76e), (0x1d770, 0x1d788), (0x1d78a, 0x1d7a8),
  (0x1d7aa, 0x1d7c2), (0x1d7c4, 0x1d7cb), (0x1d7ce, 0x1d7ff), (0x1ee00, 0x1ee03),
  (0x1ee05, 0x1ee1f), (0x1ee21, 0x1ee22), (0x1ee24, 0x1ee24), (0x1ee27, 0x1ee27),
  (0x1ee29, 0x1ee32), (0x1ee34, 0x1ee37), (0x1ee39, 0x1ee39), (0x1ee3b, 0x1ee3b),
  (0x1ee42, 0x1ee42), (0x1ee47, 0x1ee47), (0x1ee49, 0x1ee49), (0x1ee4b, 0x1ee4b),
  (0x1ee4d, 0x1ee4f), (0x1ee51, 0x1ee52), (0x1ee54, 0x1ee54), (0x1ee57, 0x1ee57),
  (0x1ee59, 0x1ee59), (0x1ee5b, 0x1ee5b), (0x1ee5d, 0x1ee5d), (0x1ee5f, 0x1ee5f),
  (0x1ee61, 0x1ee62), (0x1ee64, 0x1ee64), (0x1ee67, 0x1ee6a), (0x1ee6c, 0x1ee72),
  (0x1ee74, 0x1ee77), (0x1ee79, 0x1ee7c), (0x1ee7e, 0x1ee7e), (0x1ee80, 0x1ee89),
  (0x1ee8b, 0x1ee9b), (0x1eea1, 0x1eea3), (0x1eea5, 0x1eea9), (0x1eeab, 0x1eebb)]

def otherUppercase : SpanTree Unit := runs [
  (0x2160, 0x216f), (0x24b6, 0x24cf), (0x1f130, 0x1f149), (0x1f150, 0x1f169), (0x1f170, 0x1f189)]

def patternSyntax : SpanTree Unit := runs [
  (0x0021, 0x002f), (0x003a, 0x0040), (0x005b, 0x005e), (0x0060, 0x0060), (0x007b, 0x007e),
  (0x00a1, 0x00a7), (0x00a9, 0x00a9), (0x00ab, 0x00ac), (0x00ae, 0x00ae), (0x00b0, 0x00b1),
  (0x00b6, 0x00b6), (0x00bb, 0x00bb), (0x00bf, 0x00bf), (0x00d7, 0x00d7), (0x00f7, 0x00f7),
  (0x2010, 0x2027), (0x2030, 0x203e), (0x2041, 0x2053), (0x2055, 0x205e), (0x2190, 0x245f),
  (0x2500, 0x2775), (0x2794, 0x2bff), (0x2e00, 0x2e7f), (0x3001, 0x3003), (0x3008, 0x3020),
  (0x3030, 0x3030), (0xfd3e, 0xfd3f), (0xfe45, 0xfe46)]

def patternWhiteSpace : SpanTree Unit :=
  runs [(0x0009, 0x000d), (0x0020, 0x0020), (0x0085, 0x0085), (0x200e, 0x200f), (0x2028, 0x2029)]

def prependedConcatenationMark : SpanTree Unit := runs [
  (0x0600, 0x0605), (0x06dd, 0x06dd), (0x070f, 0x070f), (0x0890, 0x0891), (0x08e2, 0x08e2),
  (0x110bd, 0x110bd), (0x110cd, 0x110cd)]

def quotationMark : SpanTree Unit := runs [
  (0x0022, 0x0022), (0x0027, 0x0027), (0x00ab, 0x00ab), (0x00bb, 0x00bb), (0x2018, 0x201f),
  (0x2039, 0x203a), (0x2e42, 0x2e42), (0x300c, 0x300f), (0x301d, 0x301f), (0xfe41, 0xfe44),
  (0xff02, 0xff02), (0xff07, 0xff07), (0xff62, 0xff63)]

def radical : SpanTree Unit :=
  runs [(0x2e80, 0x2e99), (0x2e9b, 0x2ef3), (0x2f00, 0x2fd5)]

def regionalIndicator : SpanTree Unit :=
  runs [(0x1f1e6, 0x1f1ff)]

def sentenceTerminal : SpanTree Unit := runs [
  (0x0021, 0x0021), (0x002e, 0x002e), (0x003f, 0x003f), (0x0589, 0x0589), (0x061d, 0x061f),
  (0x06d4, 0x06d4), (0x0700, 0x0702), (0x07f9, 0x07f9), (0x0837, 0x0837), (0x0839, 0x0839),
  (0x083d, 0x083e), (0x0964, 0x0965), (0x104a, 0x104b), (0x1362, 0x1362), (0x1367, 0x1368),
  (0x166e, 0x166e), (0x1735, 0x1736), (0x17d4, 0x17d5), (0x1803, 0x1803), (0x1809, 0x1809),
  (0x1944, 0x1945), (0x1aa8, 0x1aab), (0x1b4e, 0x1b4f), (0x1b5a, 0x1b5b), (0x1b5e, 0x1b5f),
  (0x1b7d, 0x1b7f), (0x1c3b, 0x1c3c), (0x1c7e, 0x1c7f), (0x2024, 0x2024), (0x203c, 0x203d),
  (0x2047, 0x2049), (0x2cf9, 0x2cfb), (0x2e2e, 0x2e2e), (0x2e3c, 0x2e3c), (0x2e53, 0x2e54),
  (0x3002, 0x3002), (0xa4ff, 0xa4ff), (0xa60e, 0xa60f), (0xa6f3, 0xa6f3), (0xa6f7, 0xa6f7),
  (0xa876, 0xa877), (0xa8ce, 0xa8cf), (0xa92f, 0xa92f), (0xa9c8, 0xa9c9), (0xaa5d, 0xaa5f),
  (0xaaf0, 0xaaf1), (0xabeb, 0xabeb), (0xfe12, 0xfe12), (0xfe15, 0xfe16), (0xfe52, 0xfe52),
  (0xfe56, 0xfe57), (0xff01, 0xff01), (0xff0e, 0xff0e), (0xff1f, 0xff1f), (0xff61, 0xff61),
  (0x10a56, 0x10a57), (0x10f55, 0x10f59), (0x10f86, 0x10f89), (0x11047, 0x11048),
  (0x110be, 0x110c1), (0x11141, 0x11143), (0x111c5, 0x111c6), (0x111cd, 0x111cd),
  (0x111de, 0x111df), (0x11238, 0x11239), (0x1123b, 0x1123c), (0x112a9, 0x112a9),
  (0x113d4, 0x113d5), (0x1144b, 0x1144c), (0x115c2, 0x115c3), (0x115c9, 0x115d7),
  (0x11641, 0x11642), (0x1173c, 0x1173e), (0x11944, 0x11944), (0x11946, 0x11946),
  (0x11a42, 0x11a43), (0x11a9b, 0x11a9c), (0x11c41, 0x11c42), (0x11ef7, 0x11ef8),
  (0x11f43, 0x11f44), (0x16a6e, 0x16a6f), (0x16af5, 0x16af5), (0x16b37, 0x16b38),
  (0x16b44, 0x16b44), (0x16d6e, 0x16d6f), (0x16e98, 0x16e98), (0x1bc9f, 0x1bc9f),
  (0x1da88, 0x1da88)]

def softDotted : SpanTree Unit := runs [
  (0x0069, 0x006a), (0x012f, 0x012f), (0x0249, 0x0249), (0x0268, 0x0268), (0x029d, 0x029d),
  (0x02b2, 0x02b2), (0x03f3, 0x03f3), (0x0456, 0x0456), (0x0458, 0x0458), (0x1d62, 0x1d62),
  (0x1d96, 0x1d96), (0x1da4, 0x1da4), (0x1da8, 0x1da8), (0x1e2d, 0x1e2d), (0x1ecb, 0x1ecb),
  (0x2071, 0x2071), (0x2148, 0x2149), (0x2c7c, 0x2c7c), (0x1d422, 0x1d423), (0x1d456, 0x1d457),
  (0x1d48a, 0x1d48b), (0x1d4be, 0x1d4bf), (0x1d4f2, 0x1d4f3), (0x1d526, 0x1d527),
  (0x1d55a, 0x1d55b), (0x1d58e, 0x1d58f), (0x1d5c2, 0x1d5c3), (0x1d5f6, 0x1d5f7),
  (0x1d62a, 0x1d62b), (0x1d65e, 0x1d65f), (0x1d692, 0x1d693), (0x1df1a, 0x1df1a),
  (0x1e04c, 0x1e04d), (0x1e068, 0x1e068)]

def terminalPunctuation : SpanTree Unit := runs [
  (0x0021, 0x0021), (0x002c, 0x002c), (0x002e, 0x002e), (0x003a, 0x003b), (0x003f, 0x003f),
  (0x037e, 0x037e), (0x0387, 0x0387), (0x0589, 0x0589), (0x05c3, 0x05c3), (0x060c, 0x060c),
  (0x061b, 0x061b), (0x061d, 0x061f), (0x06d4, 0x06d4), (0x0700, 0x070a), (0x070c, 0x070c),
  (0x07f8, 0x07f9), (0x0830, 0x0835), (0x0837, 0x083e), (0x085e, 0x085e), (0x0964, 0x0965),
  (0x0e5a, 0x0e5b), (0x0f08, 0x0f08), (0x0f0d, 0x0f12), (0x104a, 0x104b), (0x1361, 0x1368),
  (0x166e, 0x166e), (0x16eb, 0x16ed), (0x1735, 0x1736), (0x17d4, 0x17d6), (0x17da, 0x17da),
  (0x1802, 0x1805), (0x1808, 0x1809), (0x1944, 0x1945), (0x1aa8, 0x1aab), (0x1b4e, 0x1b4f),
  (0x1b5a, 0x1b5b), (0x1b5d, 0x1b5f), (0x1b7d, 0x1b7f), (0x1c3b, 0x1c3f), (0x1c7e, 0x1c7f),
  (0x2024, 0x2024), (0x203c, 0x203d), (0x2047, 0x2049), (0x2cf9, 0x2cfb), (0x2e2e, 0x2e2e),
  (0x2e3c, 0x2e3c), (0x2e41, 0x2e41), (0x2e4c, 0x2e4c), (0x2e4e, 0x2e4f), (0x2e53, 0x2e54),
  (0x3001, 0x3002), (0xa4fe, 0xa4ff), (0xa60d, 0xa60f), (0xa6f3, 0xa6f7), (0xa876, 0xa877),
  (0xa8ce, 0xa8cf), (0xa92f, 0xa92f), (0xa9c7, 0xa9c9), (0xaa5d, 0xaa5f), (0xaadf, 0xaadf),
  (0xaaf0, 0xaaf1), (0xabeb, 0xabeb), (0xfe12, 0xfe12), (0xfe15, 0xfe16), (0xfe50, 0xfe52),
  (0xfe54, 0xfe57), (0xff01, 0xff01), (0xff0c, 0xff0c), (0xff0e, 0xff0e), (0xff1a, 0xff1b),
  (0xff1f, 0xff1f), (0xff61, 0xff61), (0xff64, 0xff64), (0x1039f, 0x1039f), (0x103d0, 0x103d0),
  (0x10857, 0x10857), (0x1091f, 0x1091f), (0x10a56, 0x10a57), (0x10af0, 0x10af5),
  (0x10b3a, 0x10b3f), (0x10b99, 0x10b9c), (0x10f55, 0x10f59), (0x10f86, 0x10f89),
  (0x11047, 0x1104d), (0x110be, 0x110c1), (0x11141, 0x11143), (0x111c5, 0x111c6),
  (0x111cd, 0x111cd), (0x111de, 0x111df), (0x11238, 0x1123c), (0x112a9, 0x112a9),
  (0x113d4, 0x113d5), (0x1144b, 0x1144d), (0x1145a, 0x1145b), (0x115c2, 0x115c5),
  (0x115c9, 0x115d7), (0x11641, 0x11642), (0x1173c, 0x1173e), (0x11944, 0x11944),
  (0x11946, 0x11946), (0x11a42, 0x11a43), (0x11a9b, 0x11a9c), (0x11aa1, 0x11aa2),
  (0x11c41, 0x11c43), (0x11c71, 0x11c71), (0x11ef7, 0x11ef8), (0x11f43, 0x11f44),
  (0x12470, 0x12474), (0x16a6e, 0x16a6f), (0x16af5, 0x16af5), (0x16b37, 0x16b39),
  (0x16b44, 0x16b44), (0x16d6e, 0x16d6f), (0x16e97, 0x16e98), (0x1bc9f, 0x1bc9f),
  (0x1da87, 0x1da8a)]

def unifiedIdeograph : SpanTree Unit := runs [
  (0x3400, 0x4dbf), (0x4e00, 0x9fff), (0xfa0e, 0xfa0f), (0xfa11, 0xfa11), (0xfa13, 0xfa14),
  (0xfa1f, 0xfa1f), (0xfa21, 0xfa21), (0xfa23, 0xfa24), (0xfa27, 0xfa29), (0x20000, 0x2a6df),
  (0x2a700, 0x2b739), (0x2b740, 0x2b81d), (0x2b820, 0x2cea1), (0x2ceb0, 0x2ebe0),
  (0x2ebf0, 0x2ee5d), (0x30000, 0x3134a), (0x31350, 0x323af)]

def variationSelector : SpanTree Unit :=
  runs [(0x180b, 0x180d), (0x180f, 0x180f), (0xfe00, 0xfe0f), (0xe0100, 0xe01ef)]

def wordInner : SpanTree Unit := runs [
  (0x0027, 0x0027), (0x002e, 0x002e), (0x003a, 0x003a), (0x00b7, 0x00b7), (0x0387, 0x0387),
  (0x055f, 0x055f), (0x05f4, 0x05f4), (0x2018, 0x2019), (0x2024, 0x2024), (0x2027, 0x2027),
  (0xfe13, 0xfe13), (0xfe52, 0xfe52), (0xfe55, 0xfe55), (0xff07, 0xff07), (0xff0e, 0xff0e),
  (0xff1a, 0xff1a)]

-- Small letters that change in capitals, but not into one other letter.
def expandedInUppercase : SpanTree Unit := runs [
  (0x0131, 0x0131), (0x0149, 0x0149), (0x01f0, 0x01f0), (0x0587, 0x0587), (0x1e96, 0x1e9a),
  (0x1f50, 0x1f50), (0x1f52, 0x1f52), (0x1f54, 0x1f54), (0x1f56, 0x1f56), (0x1fb2, 0x1fb2),
  (0x1fb4, 0x1fb4), (0x1fb6, 0x1fb7), (0x1fc2, 0x1fc2), (0x1fc4, 0x1fc4), (0x1fc6, 0x1fc7),
  (0x1fd2, 0x1fd2), (0x1fd6, 0x1fd7), (0x1fe2, 0x1fe2), (0x1fe4, 0x1fe4), (0x1fe6, 0x1fe7),
  (0x1ff2, 0x1ff2), (0x1ff4, 0x1ff4), (0x1ff6, 0x1ff7), (0xfb00, 0xfb04), (0xfb13, 0xfb17)]

def changedByFolding : SpanTree Unit := runs [
  (0x00b5, 0x00b5), (0x00df, 0x00df), (0x0149, 0x0149), (0x017f, 0x017f), (0x0345, 0x0345),
  (0x03c2, 0x03c2), (0x03d0, 0x03d1), (0x03d5, 0x03d6), (0x03f0, 0x03f1), (0x03f5, 0x03f5),
  (0x0587, 0x0587), (0x13f8, 0x13fd), (0x1c80, 0x1c88), (0x1e9a, 0x1e9b), (0x1f80, 0x1f87),
  (0x1f90, 0x1f97), (0x1fa0, 0x1fa7), (0x1fb2, 0x1fb4), (0x1fb7, 0x1fb7), (0x1fc2, 0x1fc4),
  (0x1fc7, 0x1fc7), (0x1ff2, 0x1ff4), (0x1ff7, 0x1ff7), (0xab70, 0xabbf), (0xfb00, 0xfb06),
  (0xfb13, 0xfb17)]

def notXidStart : SpanTree Unit := runs [
  (0x037a, 0x037a), (0x0e33, 0x0e33), (0x0eb3, 0x0eb3), (0x309b, 0x309c), (0xfc5e, 0xfc63),
  (0xfdfa, 0xfdfb), (0xfe70, 0xfe70), (0xfe72, 0xfe72), (0xfe74, 0xfe74), (0xfe76, 0xfe76),
  (0xfe78, 0xfe78), (0xfe7a, 0xfe7a), (0xfe7c, 0xfe7c), (0xfe7e, 0xfe7e), (0xff9e, 0xff9f)]

def notXidContinue : SpanTree Unit := runs [
  (0x037a, 0x037a), (0x309b, 0x309c), (0xfc5e, 0xfc63), (0xfdfa, 0xfdfb), (0xfe70, 0xfe70),
  (0xfe72, 0xfe72), (0xfe74, 0xfe74), (0xfe76, 0xfe76), (0xfe78, 0xfe78), (0xfe7a, 0xfe7a),
  (0xfe7c, 0xfe7c), (0xfe7e, 0xfe7e)]

end ExcerptSearch.Unicode.PropertyList
