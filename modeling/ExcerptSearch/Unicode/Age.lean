import ExcerptSearch.Unicode.SpanTree

namespace ExcerptSearch.Unicode

-- The versions of the character set, as ten times the major number and the minor one.
def versions : List Nat :=
  [11, 20, 21, 30, 31, 32, 40, 41, 50, 51, 52, 60, 61, 62, 63, 70, 80, 90, 100, 110, 120, 121, 130,
   140, 150, 151, 160]

def ageStarts1 : List (Nat × Nat) := [
  (0x0000, 11), (0x01f6, 30), (0x01fa, 11), (0x0218, 30), (0x0220, 32), (0x0221, 40), (0x0222, 30),
  (0x0234, 40), (0x0237, 41), (0x0242, 50), (0x0250, 11), (0x02a9, 30), (0x02ae, 40), (0x02b0, 11),
  (0x02df, 30), (0x02e0, 11), (0x02ea, 30), (0x02ef, 40), (0x0300, 11), (0x0346, 30), (0x034f, 32),
  (0x0350, 40), (0x0358, 41), (0x035d, 40), (0x0360, 11), (0x0362, 30), (0x0363, 32), (0x0370, 51),
  (0x0374, 11), (0x0376, 51), (0x037a, 11), (0x037b, 50), (0x037e, 11), (0x037f, 70), (0x0384, 11),
  (0x03cf, 51), (0x03d0, 11), (0x03d7, 30), (0x03d8, 32), (0x03da, 11), (0x03db, 30), (0x03dc, 11),
  (0x03dd, 30), (0x03de, 11), (0x03df, 30), (0x03e0, 11), (0x03e1, 30), (0x03e2, 11), (0x03f4, 31),
  (0x03f6, 32), (0x03f7, 40), (0x03fc, 41), (0x0400, 30), (0x0401, 11), (0x040d, 30), (0x040e, 11),
  (0x0450, 30), (0x0451, 11), (0x045d, 30), (0x045e, 11), (0x0487, 51), (0x0488, 30), (0x048a, 32),
  (0x048c, 30), (0x0490, 11), (0x04c5, 32), (0x04c7, 11), (0x04c9, 32), (0x04cb, 11), (0x04cd, 32),
  (0x04cf, 50), (0x04d0, 11), (0x04ec, 30), (0x04ee, 11), (0x04f6, 41), (0x04f8, 11), (0x04fa, 50),
  (0x0500, 32), (0x0510, 50), (0x0514, 51), (0x0524, 52), (0x0526, 60), (0x0528, 70), (0x0531, 11),
  (0x0560, 110), (0x0561, 11), (0x0588, 110), (0x0589, 11), (0x058a, 30), (0x058d, 70),
  (0x058f, 61), (0x0591, 20), (0x05a2, 41), (0x05a3, 20), (0x05b0, 11), (0x05ba, 50), (0x05bb, 11),
  (0x05c4, 20), (0x05c5, 41), (0x05d0, 11), (0x05ef, 110), (0x05f0, 11), (0x0600, 40), (0x0604, 61),
  (0x0605, 70), (0x0606, 51), (0x060b, 41), (0x060c, 11), (0x060d, 40), (0x0616, 51), (0x061b, 11),
  (0x061c, 63), (0x061d, 140), (0x061e, 41), (0x061f, 11), (0x0620, 60), (0x0621, 11), (0x063b, 51),
  (0x0640, 11), (0x0653, 30), (0x0656, 40), (0x0659, 41), (0x065f, 60), (0x0660, 11), (0x066e, 32),
  (0x0670, 11), (0x06b8, 30), (0x06ba, 11), (0x06bf, 30), (0x06c0, 11), (0x06cf, 30), (0x06d0, 11),
  (0x06ee, 40), (0x06f0, 11), (0x06fa, 30), (0x06ff, 40), (0x0700, 30), (0x072d, 40), (0x0730, 30),
  (0x074d, 40), (0x0750, 41), (0x076e, 51), (0x0780, 30), (0x07b1, 32), (0x07c0, 50), (0x07fd, 110),
  (0x0800, 52), (0x0840, 60), (0x0860, 100), (0x0870, 140), (0x0897, 160), (0x0898, 140),
  (0x08a0, 61), (0x08a1, 70), (0x08a2, 61), (0x08ad, 70), (0x08b3, 80), (0x08b5, 140), (0x08b6, 90),
  (0x08be, 130), (0x08c8, 140), (0x08d3, 110), (0x08d4, 90), (0x08e3, 80), (0x08e4, 61),
  (0x08ff, 70), (0x0900, 52), (0x0901, 11), (0x0904, 40), (0x0905, 11), (0x093a, 60), (0x093c, 11),
  (0x094e, 52), (0x094f, 60), (0x0950, 11), (0x0955, 52), (0x0956, 60), (0x0958, 11), (0x0971, 51),
  (0x0973, 60)]

def ageStarts2 : List (Nat × Nat) := [
  (0x0978, 70), (0x0979, 52), (0x097b, 50), (0x097d, 41), (0x097e, 50), (0x0980, 70), (0x0981, 11),
  (0x09bd, 40), (0x09be, 11), (0x09ce, 41), (0x09d7, 11), (0x09fb, 52), (0x09fc, 100),
  (0x09fe, 110), (0x0a01, 40), (0x0a02, 11), (0x0a03, 40), (0x0a05, 11), (0x0a51, 51), (0x0a59, 11),
  (0x0a75, 51), (0x0a76, 110), (0x0a81, 11), (0x0a8c, 40), (0x0a8d, 11), (0x0ae1, 40), (0x0ae6, 11),
  (0x0af0, 61), (0x0af1, 40), (0x0af9, 80), (0x0afa, 100), (0x0b01, 11), (0x0b35, 40), (0x0b36, 11),
  (0x0b44, 51), (0x0b47, 11), (0x0b55, 130), (0x0b56, 11), (0x0b62, 51), (0x0b66, 11), (0x0b71, 40),
  (0x0b72, 60), (0x0b82, 11), (0x0bb6, 41), (0x0bb7, 11), (0x0bd0, 51), (0x0bd7, 11), (0x0be6, 41),
  (0x0be7, 11), (0x0bf3, 40), (0x0c00, 70), (0x0c01, 11), (0x0c04, 110), (0x0c05, 11), (0x0c34, 70),
  (0x0c35, 11), (0x0c3c, 140), (0x0c3d, 51), (0x0c3e, 11), (0x0c58, 51), (0x0c5a, 80),
  (0x0c5d, 140), (0x0c60, 11), (0x0c62, 51), (0x0c66, 11), (0x0c77, 120), (0x0c78, 51),
  (0x0c80, 90), (0x0c81, 70), (0x0c82, 11), (0x0c84, 110), (0x0c85, 11), (0x0cbc, 40), (0x0cbe, 11),
  (0x0cdd, 140), (0x0cde, 11), (0x0ce2, 50), (0x0ce6, 11), (0x0cf1, 50), (0x0cf3, 150),
  (0x0d00, 100), (0x0d01, 70), (0x0d02, 11), (0x0d04, 130), (0x0d05, 11), (0x0d29, 60),
  (0x0d2a, 11), (0x0d3a, 60), (0x0d3b, 100), (0x0d3d, 51), (0x0d3e, 11), (0x0d44, 51), (0x0d46, 11),
  (0x0d4e, 60), (0x0d4f, 90), (0x0d57, 11), (0x0d58, 90), (0x0d5f, 80), (0x0d60, 11), (0x0d62, 51),
  (0x0d66, 11), (0x0d70, 51), (0x0d76, 90), (0x0d79, 51), (0x0d81, 130), (0x0d82, 30), (0x0de6, 70),
  (0x0df2, 30), (0x0e01, 11), (0x0e86, 120), (0x0e87, 11), (0x0e89, 120), (0x0e8a, 11),
  (0x0e8c, 120), (0x0e8d, 11), (0x0e8e, 120), (0x0e94, 11), (0x0e98, 120), (0x0e99, 11),
  (0x0ea0, 120), (0x0ea1, 11), (0x0ea8, 120), (0x0eaa, 11), (0x0eac, 120), (0x0ead, 11),
  (0x0eba, 120), (0x0ebb, 11), (0x0ece, 150), (0x0ed0, 11), (0x0ede, 61), (0x0f00, 20),
  (0x0f6a, 30), (0x0f6b, 51), (0x0f71, 20), (0x0f8c, 60), (0x0f90, 20), (0x0f96, 30), (0x0f97, 20),
  (0x0fae, 30), (0x0fb1, 20), (0x0fb8, 30), (0x0fb9, 20), (0x0fba, 30), (0x0fce, 51), (0x0fcf, 30),
  (0x0fd0, 41), (0x0fd2, 51), (0x0fd5, 52), (0x0fd9, 60), (0x1000, 30), (0x1022, 51), (0x1023, 30),
  (0x1028, 51), (0x1029, 30), (0x102b, 51), (0x102c, 30), (0x1033, 51), (0x1036, 30), (0x103a, 51),
  (0x1040, 30), (0x105a, 51), (0x109a, 52), (0x109e, 51), (0x10a0, 11), (0x10c7, 61), (0x10d0, 11),
  (0x10f7, 32), (0x10f9, 41), (0x10fb, 11), (0x10fc, 41), (0x10fd, 61), (0x1100, 11), (0x115a, 52),
  (0x115f, 11), (0x11a3, 52), (0x11a8, 11), (0x11fa, 52), (0x1200, 30), (0x1207, 41), (0x1208, 30)]

def ageStarts3 : List (Nat × Nat) := [
  (0x1247, 41), (0x1248, 30), (0x1287, 41), (0x1288, 30), (0x12af, 41), (0x12b0, 30), (0x12cf, 41),
  (0x12d0, 30), (0x12ef, 41), (0x12f0, 30), (0x130f, 41), (0x1310, 30), (0x131f, 41), (0x1320, 30),
  (0x1347, 41), (0x1348, 30), (0x135d, 60), (0x135f, 41), (0x1361, 30), (0x1380, 41), (0x13a0, 30),
  (0x13f5, 80), (0x1400, 52), (0x1401, 30), (0x1677, 52), (0x1680, 30), (0x16f1, 70), (0x1700, 32),
  (0x170d, 140), (0x170e, 32), (0x1715, 140), (0x1720, 32), (0x1780, 30), (0x17dd, 40),
  (0x17e0, 30), (0x17f0, 40), (0x1800, 30), (0x180f, 140), (0x1810, 30), (0x1878, 110),
  (0x1880, 30), (0x18aa, 51), (0x18b0, 52), (0x1900, 40), (0x191d, 70), (0x1920, 40), (0x1980, 41),
  (0x19aa, 52), (0x19b0, 41), (0x19da, 52), (0x19de, 41), (0x19e0, 40), (0x1a00, 41), (0x1a20, 52),
  (0x1ab0, 70), (0x1abf, 130), (0x1ac1, 140), (0x1b00, 50), (0x1b4c, 140), (0x1b4e, 160),
  (0x1b50, 50), (0x1b7d, 140), (0x1b7f, 160), (0x1b80, 51), (0x1bab, 61), (0x1bae, 51),
  (0x1bba, 61), (0x1bc0, 60), (0x1c00, 51), (0x1c80, 90), (0x1c89, 160), (0x1c90, 110),
  (0x1cc0, 61), (0x1cd0, 52), (0x1cf3, 61), (0x1cf7, 100), (0x1cf8, 70), (0x1cfa, 120),
  (0x1d00, 40), (0x1d6c, 41), (0x1dc4, 50), (0x1dcb, 51), (0x1de7, 70), (0x1df6, 100),
  (0x1dfa, 140), (0x1dfb, 90), (0x1dfc, 60), (0x1dfd, 52), (0x1dfe, 50), (0x1e00, 11), (0x1e9b, 20),
  (0x1e9c, 51), (0x1ea0, 11), (0x1efa, 51), (0x1f00, 11), (0x202f, 30), (0x2030, 11), (0x2047, 32),
  (0x2048, 30), (0x204e, 32), (0x2053, 40), (0x2055, 41), (0x2057, 32), (0x2058, 41), (0x205f, 32),
  (0x2064, 51), (0x2066, 63), (0x206a, 11), (0x2071, 32), (0x2074, 11), (0x2090, 41), (0x2095, 60),
  (0x20a0, 11), (0x20ab, 20), (0x20ac, 21), (0x20ad, 30), (0x20b0, 32), (0x20b2, 41), (0x20b6, 52),
  (0x20b9, 60), (0x20ba, 62), (0x20bb, 70), (0x20be, 80), (0x20bf, 100), (0x20c0, 140),
  (0x20d0, 11), (0x20e2, 30), (0x20e4, 32), (0x20eb, 41), (0x20ec, 50), (0x20f0, 51), (0x2100, 11),
  (0x2139, 30), (0x213b, 40), (0x213c, 41), (0x213d, 32), (0x214c, 41), (0x214d, 50), (0x214f, 51),
  (0x2150, 52), (0x2153, 11), (0x2183, 30), (0x2184, 50), (0x2185, 51), (0x2189, 52), (0x218a, 80),
  (0x2190, 11), (0x21eb, 30), (0x21f4, 32), (0x2200, 11), (0x22f2, 32), (0x2300, 11), (0x2301, 30),
  (0x2302, 11), (0x237b, 30), (0x237c, 32), (0x237d, 30), (0x239b, 32), (0x23cf, 40), (0x23d1, 41),
  (0x23dc, 50), (0x23e8, 52), (0x23e9, 60), (0x23f4, 70), (0x23fb, 90), (0x23ff, 100), (0x2400, 11),
  (0x2425, 30), (0x2427, 160), (0x2440, 11), (0x24eb, 32), (0x24ff, 40), (0x2500, 11), (0x2596, 32),
  (0x25a0, 11), (0x25f0, 30), (0x25f8, 32), (0x2600, 11), (0x2614, 40), (0x2616, 32)]

def ageStarts4 : List (Nat × Nat) := [
  (0x2618, 41), (0x2619, 30), (0x261a, 11), (0x2670, 30), (0x2672, 32), (0x267e, 41), (0x2680, 32),
  (0x268a, 40), (0x2692, 41), (0x269d, 51), (0x269e, 52), (0x26a0, 40), (0x26a2, 41), (0x26b2, 50),
  (0x26b3, 51), (0x26bd, 52), (0x26c0, 51), (0x26c4, 52), (0x26ce, 60), (0x26cf, 52), (0x26e2, 60),
  (0x26e3, 52), (0x26e4, 60), (0x26e8, 52), (0x2700, 70), (0x2701, 11), (0x2705, 60), (0x2706, 11),
  (0x270a, 60), (0x270c, 11), (0x2728, 60), (0x2729, 11), (0x274c, 60), (0x274d, 11), (0x274e, 60),
  (0x274f, 11), (0x2753, 60), (0x2756, 11), (0x2757, 52), (0x2758, 11), (0x275f, 60), (0x2761, 11),
  (0x2768, 32), (0x2776, 11), (0x2795, 60), (0x2798, 11), (0x27b0, 60), (0x27b1, 11), (0x27bf, 60),
  (0x27c0, 41), (0x27c7, 50), (0x27cb, 61), (0x27cc, 51), (0x27cd, 61), (0x27ce, 60), (0x27d0, 32),
  (0x27ec, 51), (0x27f0, 32), (0x2800, 30), (0x2900, 32), (0x2b00, 40), (0x2b0e, 41), (0x2b14, 50),
  (0x2b1b, 51), (0x2b20, 50), (0x2b24, 51), (0x2b4d, 70), (0x2b50, 51), (0x2b55, 52), (0x2b5a, 70),
  (0x2b97, 130), (0x2b98, 70), (0x2bba, 110), (0x2bbd, 70), (0x2bc9, 120), (0x2bca, 70),
  (0x2bd2, 100), (0x2bd3, 110), (0x2bec, 80), (0x2bf0, 110), (0x2bff, 120), (0x2c00, 41),
  (0x2c2f, 140), (0x2c30, 41), (0x2c5f, 140), (0x2c60, 50), (0x2c6d, 51), (0x2c70, 52),
  (0x2c71, 51), (0x2c74, 50), (0x2c78, 51), (0x2c7e, 52), (0x2c80, 41), (0x2ceb, 52), (0x2cf2, 61),
  (0x2cf9, 41), (0x2d27, 61), (0x2d30, 41), (0x2d66, 61), (0x2d6f, 41), (0x2d70, 60), (0x2d80, 41),
  (0x2de0, 51), (0x2e00, 41), (0x2e18, 51), (0x2e1c, 41), (0x2e1e, 51), (0x2e31, 52), (0x2e32, 61),
  (0x2e3c, 70), (0x2e43, 90), (0x2e45, 100), (0x2e4a, 110), (0x2e4f, 120), (0x2e50, 130),
  (0x2e53, 140), (0x2e80, 30), (0x2ffc, 151), (0x3000, 11), (0x3038, 30), (0x303b, 32),
  (0x303e, 30), (0x303f, 11), (0x3095, 32), (0x3099, 11), (0x309f, 32), (0x30a1, 11), (0x30ff, 32),
  (0x3105, 11), (0x312d, 51), (0x312e, 100), (0x312f, 110), (0x3131, 11), (0x31a0, 30),
  (0x31b8, 60), (0x31bb, 130), (0x31c0, 41), (0x31d0, 51), (0x31e4, 160), (0x31ef, 151),
  (0x31f0, 32), (0x3200, 11), (0x321d, 40), (0x3220, 11), (0x3244, 52), (0x3250, 40), (0x3251, 32),
  (0x3260, 11), (0x327c, 40), (0x327e, 41), (0x327f, 11), (0x32b1, 32), (0x32c0, 11), (0x32cc, 40),
  (0x32d0, 11), (0x32ff, 121), (0x3300, 11), (0x3377, 40), (0x337b, 11), (0x33de, 40), (0x33e0, 11),
  (0x33ff, 40), (0x3400, 30), (0x4db6, 130), (0x4dc0, 40), (0x4e00, 11), (0x9fa6, 41), (0x9fbc, 51),
  (0x9fc4, 52), (0x9fcc, 61), (0x9fcd, 80), (0x9fd6, 100), (0x9feb, 110), (0x9ff0, 130),
  (0x9ffd, 140), (0xa000, 30), (0xa4a2, 32), (0xa4a4, 30), (0xa4b4, 32), (0xa4b5, 30)]

def ageStarts5 : List (Nat × Nat) := [
  (0xa4c1, 32), (0xa4c2, 30), (0xa4c5, 32), (0xa4c6, 30), (0xa4d0, 52), (0xa500, 51), (0xa660, 60),
  (0xa662, 51), (0xa674, 61), (0xa67c, 51), (0xa698, 70), (0xa69e, 80), (0xa69f, 61), (0xa6a0, 52),
  (0xa700, 41), (0xa717, 50), (0xa71b, 51), (0xa720, 50), (0xa722, 51), (0xa78d, 60), (0xa78f, 80),
  (0xa790, 60), (0xa792, 61), (0xa794, 70), (0xa7a0, 60), (0xa7aa, 61), (0xa7ab, 70), (0xa7ae, 90),
  (0xa7af, 110), (0xa7b0, 70), (0xa7b2, 80), (0xa7b8, 110), (0xa7ba, 120), (0xa7c0, 140),
  (0xa7c2, 120), (0xa7c7, 130), (0xa7cb, 160), (0xa7d0, 140), (0xa7da, 160), (0xa7f2, 140),
  (0xa7f5, 130), (0xa7f7, 70), (0xa7f8, 61), (0xa7fa, 60), (0xa7fb, 51), (0xa800, 41),
  (0xa82c, 130), (0xa830, 52), (0xa840, 50), (0xa880, 51), (0xa8c5, 90), (0xa8ce, 51), (0xa8e0, 52),
  (0xa8fc, 80), (0xa8fe, 110), (0xa900, 51), (0xa960, 52), (0xa9e0, 70), (0xaa00, 51), (0xaa60, 52),
  (0xaa7c, 70), (0xaa80, 52), (0xaae0, 61), (0xab01, 60), (0xab30, 70), (0xab60, 80), (0xab64, 70),
  (0xab66, 120), (0xab68, 130), (0xab70, 80), (0xabc0, 52), (0xac00, 20), (0xd7b0, 52),
  (0xe000, 11), (0xfa2e, 61), (0xfa30, 32), (0xfa6b, 52), (0xfa70, 41), (0xfb00, 11), (0xfb1d, 30),
  (0xfb1e, 11), (0xfbb2, 60), (0xfbc2, 140), (0xfbd3, 11), (0xfd40, 140), (0xfd50, 11),
  (0xfdcf, 140), (0xfdd0, 31), (0xfdf0, 11), (0xfdfc, 32), (0xfdfd, 40), (0xfdfe, 140),
  (0xfe00, 32), (0xfe10, 41), (0xfe20, 11), (0xfe24, 51), (0xfe27, 70), (0xfe2e, 80), (0xfe30, 11),
  (0xfe45, 32), (0xfe47, 40), (0xfe49, 11), (0xfe73, 32), (0xfe74, 11), (0xff5f, 32), (0xff61, 11),
  (0xfff9, 30), (0xfffc, 21), (0xfffd, 11), (0x10000, 40), (0x10140, 41), (0x1018b, 70),
  (0x1018d, 90), (0x10190, 51), (0x1019c, 130), (0x101a0, 70), (0x101d0, 51), (0x102e0, 70),
  (0x10300, 31), (0x1031f, 70), (0x10320, 31), (0x1032d, 100), (0x10330, 31), (0x10350, 70),
  (0x10380, 40), (0x103a0, 41), (0x10400, 31), (0x10426, 40), (0x10428, 31), (0x1044e, 40),
  (0x104b0, 90), (0x10500, 70), (0x10570, 140), (0x105c0, 160), (0x10600, 70), (0x10780, 140),
  (0x10800, 40), (0x10840, 52), (0x10860, 70), (0x108e0, 80), (0x10900, 50), (0x1091a, 52),
  (0x1091f, 50), (0x10920, 51), (0x10980, 61), (0x109bc, 80), (0x109be, 61), (0x109c0, 80),
  (0x10a00, 41), (0x10a34, 110), (0x10a38, 41), (0x10a48, 110), (0x10a50, 41), (0x10a60, 52),
  (0x10a80, 70), (0x10b00, 52), (0x10b80, 70), (0x10c00, 52), (0x10c80, 80), (0x10d00, 110),
  (0x10d40, 160), (0x10e60, 52), (0x10e80, 130), (0x10ec2, 160), (0x10efd, 150), (0x10f00, 110),
  (0x10f70, 140), (0x10fb0, 130), (0x10fe0, 120), (0x11000, 60), (0x11070, 140), (0x1107f, 70),
  (0x11080, 52), (0x110c2, 140), (0x110cd, 110), (0x110d0, 61), (0x11144, 110), (0x11147, 130),
  (0x11150, 70), (0x11180, 61)]

def ageStarts6 : List (Nat × Nat) := [
  (0x111c9, 80), (0x111cd, 70), (0x111ce, 130), (0x111d0, 61), (0x111da, 70), (0x111db, 80),
  (0x111e1, 70), (0x1123e, 90), (0x1123f, 150), (0x11280, 80), (0x112b0, 70), (0x11300, 80),
  (0x11301, 70), (0x1133b, 110), (0x1133c, 70), (0x11350, 80), (0x11357, 70), (0x11380, 160),
  (0x11400, 90), (0x1145a, 130), (0x1145b, 90), (0x1145e, 110), (0x1145f, 120), (0x11460, 130),
  (0x11480, 70), (0x115ca, 80), (0x11600, 70), (0x11660, 90), (0x11680, 61), (0x116b8, 120),
  (0x116b9, 140), (0x116c0, 61), (0x116d0, 160), (0x11700, 80), (0x1171a, 110), (0x1171d, 80),
  (0x11740, 140), (0x11800, 110), (0x118a0, 70), (0x11900, 130), (0x119a0, 120), (0x11a00, 100),
  (0x11a84, 120), (0x11a86, 100), (0x11a9d, 110), (0x11a9e, 100), (0x11ab0, 140), (0x11ac0, 70),
  (0x11b00, 150), (0x11bc0, 160), (0x11c00, 90), (0x11d00, 100), (0x11d60, 110), (0x11f00, 150),
  (0x11f5a, 160), (0x11fb0, 130), (0x11fc0, 120), (0x12000, 50), (0x1236f, 70), (0x12399, 80),
  (0x12400, 50), (0x12463, 70), (0x12470, 50), (0x12474, 70), (0x12480, 80), (0x12f90, 140),
  (0x13000, 52), (0x1342f, 150), (0x13430, 120), (0x13439, 150), (0x13460, 160), (0x14400, 80),
  (0x16100, 160), (0x16800, 60), (0x16a40, 70), (0x16a70, 140), (0x16ad0, 70), (0x16d40, 160),
  (0x16e40, 110), (0x16f00, 61), (0x16f45, 120), (0x16f50, 61), (0x16f7f, 120), (0x16f8f, 61),
  (0x16fe0, 90), (0x16fe1, 100), (0x16fe2, 120), (0x16fe4, 130), (0x17000, 90), (0x187ed, 110),
  (0x187f2, 120), (0x18800, 90), (0x18af3, 130), (0x18cff, 160), (0x18d00, 130), (0x1aff0, 140),
  (0x1b000, 60), (0x1b002, 100), (0x1b11f, 140), (0x1b132, 150), (0x1b150, 120), (0x1b155, 150),
  (0x1b164, 120), (0x1b170, 100), (0x1bc00, 70), (0x1cc00, 160), (0x1cf00, 140), (0x1d000, 31),
  (0x1d129, 51), (0x1d12a, 31), (0x1d1de, 80), (0x1d1e9, 140), (0x1d200, 41), (0x1d2c0, 150),
  (0x1d2e0, 110), (0x1d300, 40), (0x1d360, 50), (0x1d372, 110), (0x1d400, 31), (0x1d4c1, 40),
  (0x1d4c2, 31), (0x1d6a4, 41), (0x1d6a8, 31), (0x1d7ca, 50), (0x1d7ce, 31), (0x1d800, 80),
  (0x1df00, 140), (0x1df25, 150), (0x1e000, 90), (0x1e030, 150), (0x1e100, 120), (0x1e290, 140),
  (0x1e2c0, 120), (0x1e4d0, 150), (0x1e5d0, 160), (0x1e7e0, 140), (0x1e800, 70), (0x1e900, 90),
  (0x1e94b, 120), (0x1e950, 90), (0x1ec71, 110), (0x1ed01, 120), (0x1ee00, 61), (0x1f000, 51),
  (0x1f0a0, 60), (0x1f0bf, 70), (0x1f0c1, 60), (0x1f0e0, 70), (0x1f100, 52), (0x1f10b, 70),
  (0x1f10d, 130), (0x1f110, 52), (0x1f12f, 110), (0x1f130, 60), (0x1f131, 52), (0x1f132, 60),
  (0x1f13d, 52), (0x1f13e, 60), (0x1f13f, 52), (0x1f140, 60), (0x1f142, 52), (0x1f143, 60),
  (0x1f146, 52), (0x1f147, 60), (0x1f14a, 52), (0x1f14f, 60), (0x1f157, 52), (0x1f158, 60),
  (0x1f15f, 52), (0x1f160, 60), (0x1f16a, 61), (0x1f16c, 120), (0x1f16d, 130), (0x1f170, 60),
  (0x1f179, 52), (0x1f17a, 60), (0x1f17b, 52), (0x1f17d, 60), (0x1f17f, 52), (0x1f180, 60)]

def ageStarts7 : List (Nat × Nat) := [
  (0x1f18a, 52), (0x1f18e, 60), (0x1f190, 52), (0x1f191, 60), (0x1f19b, 90), (0x1f1ad, 130),
  (0x1f1e6, 60), (0x1f200, 52), (0x1f201, 60), (0x1f210, 52), (0x1f232, 60), (0x1f23b, 90),
  (0x1f240, 52), (0x1f250, 60), (0x1f260, 100), (0x1f300, 60), (0x1f321, 70), (0x1f32d, 80),
  (0x1f330, 60), (0x1f336, 70), (0x1f337, 60), (0x1f37d, 70), (0x1f37e, 80), (0x1f380, 60),
  (0x1f394, 70), (0x1f3a0, 60), (0x1f3c5, 70), (0x1f3c6, 60), (0x1f3cb, 70), (0x1f3cf, 80),
  (0x1f3d4, 70), (0x1f3e0, 60), (0x1f3f1, 70), (0x1f3f8, 80), (0x1f400, 60), (0x1f43f, 70),
  (0x1f440, 60), (0x1f441, 70), (0x1f442, 60), (0x1f4f8, 70), (0x1f4f9, 60), (0x1f4fd, 70),
  (0x1f4ff, 80), (0x1f500, 60), (0x1f53e, 70), (0x1f540, 61), (0x1f544, 70), (0x1f54b, 80),
  (0x1f550, 60), (0x1f568, 70), (0x1f57a, 90), (0x1f57b, 70), (0x1f5a4, 90), (0x1f5a5, 70),
  (0x1f5fb, 60), (0x1f600, 61), (0x1f601, 60), (0x1f611, 61), (0x1f612, 60), (0x1f615, 61),
  (0x1f616, 60), (0x1f617, 61), (0x1f618, 60), (0x1f619, 61), (0x1f61a, 60), (0x1f61b, 61),
  (0x1f61c, 60), (0x1f61f, 61), (0x1f620, 60), (0x1f626, 61), (0x1f628, 60), (0x1f62c, 61),
  (0x1f62d, 60), (0x1f62e, 61), (0x1f630, 60), (0x1f634, 61), (0x1f635, 60), (0x1f641, 70),
  (0x1f643, 80), (0x1f645, 60), (0x1f650, 70), (0x1f680, 60), (0x1f6c6, 70), (0x1f6d0, 80),
  (0x1f6d1, 90), (0x1f6d3, 100), (0x1f6d5, 120), (0x1f6d6, 130), (0x1f6dc, 150), (0x1f6dd, 140),
  (0x1f6e0, 70), (0x1f6f4, 90), (0x1f6f7, 100), (0x1f6f9, 110), (0x1f6fa, 120), (0x1f6fb, 130),
  (0x1f700, 60), (0x1f774, 150), (0x1f780, 70), (0x1f7d5, 110), (0x1f7d9, 150), (0x1f7e0, 120),
  (0x1f7f0, 140), (0x1f800, 70), (0x1f8b0, 130), (0x1f8b2, 160), (0x1f900, 100), (0x1f90c, 130),
  (0x1f90d, 120), (0x1f910, 80), (0x1f919, 90), (0x1f91f, 100), (0x1f920, 90), (0x1f928, 100),
  (0x1f930, 90), (0x1f931, 100), (0x1f933, 90), (0x1f93f, 120), (0x1f940, 90), (0x1f94c, 100),
  (0x1f94d, 110), (0x1f950, 90), (0x1f95f, 100), (0x1f96c, 110), (0x1f971, 120), (0x1f972, 130),
  (0x1f973, 110), (0x1f977, 130), (0x1f979, 140), (0x1f97a, 110), (0x1f97b, 120), (0x1f97c, 110),
  (0x1f980, 80), (0x1f985, 90), (0x1f992, 100), (0x1f998, 110), (0x1f9a3, 130), (0x1f9a5, 120),
  (0x1f9ab, 130), (0x1f9ae, 120), (0x1f9b0, 110), (0x1f9ba, 120), (0x1f9c0, 80), (0x1f9c1, 110),
  (0x1f9c3, 120), (0x1f9cb, 130), (0x1f9cc, 140), (0x1f9cd, 120), (0x1f9d0, 100), (0x1f9e7, 110),
  (0x1fa00, 120), (0x1fa60, 110), (0x1fa70, 120), (0x1fa74, 130), (0x1fa75, 150), (0x1fa78, 120),
  (0x1fa7b, 140), (0x1fa80, 120), (0x1fa83, 130), (0x1fa87, 150), (0x1fa89, 160), (0x1fa90, 120),
  (0x1fa96, 130), (0x1faa9, 140), (0x1faad, 150), (0x1fab0, 130), (0x1fab7, 140), (0x1fabb, 150),
  (0x1fabe, 160), (0x1fabf, 150), (0x1fac0, 130), (0x1fac3, 140), (0x1fac6, 160), (0x1face, 150),
  (0x1fad0, 130), (0x1fad7, 140), (0x1fada, 150), (0x1fadc, 160), (0x1fae0, 140), (0x1fae8, 150)]

def ageStarts8 : List (Nat × Nat) := [
  (0x1fae9, 160), (0x1faf0, 140), (0x1faf7, 150), (0x1fb00, 130), (0x1fbcb, 160), (0x1fbf0, 130),
  (0x1fffe, 20), (0x20000, 31), (0x2a6d7, 130), (0x2a6de, 140), (0x2a700, 52), (0x2b735, 140),
  (0x2b739, 150), (0x2b740, 60), (0x2b820, 80), (0x2ceb0, 100), (0x2ebf0, 151), (0x2f800, 31),
  (0x2fffe, 20), (0x30000, 130), (0x31350, 150), (0x3fffe, 20), (0xe0001, 31), (0xe0100, 40),
  (0xefffe, 20)]

-- Where the runs of characters that came with one version begin, whatever stands between them
-- unassigned.
def ageStarts : List (Nat × Nat) :=
  ageStarts1 ++ ageStarts2 ++ ageStarts3 ++ ageStarts4 ++ ageStarts5 ++ ageStarts6 ++ ageStarts7 ++
  ageStarts8

def ageTable : SpanTree Nat :=
  parts ageStarts

def age (c : Char) : Nat :=
  match ageTable.find? c.toNat with
  | some s => s.val
  | none   => 0

end ExcerptSearch.Unicode
