import ExcerptSearch.Unicode.Shift

namespace ExcerptSearch.Unicode

def lowerRows1 : List (Nat × Nat × Nat × Nat) := [
  (0x0041, 0x005a, 1, 0x0061), (0x00c0, 0x00d6, 1, 0x00e0), (0x00d8, 0x00de, 1, 0x00f8),
  (0x0100, 0x012e, 2, 0x0101), (0x0132, 0x0136, 2, 0x0133), (0x0139, 0x0147, 2, 0x013a),
  (0x014a, 0x0176, 2, 0x014b), (0x0178, 0x0178, 1, 0x00ff), (0x0179, 0x017d, 2, 0x017a),
  (0x0181, 0x0181, 1, 0x0253), (0x0182, 0x0184, 2, 0x0183), (0x0186, 0x0186, 1, 0x0254),
  (0x0187, 0x0187, 1, 0x0188), (0x0189, 0x018a, 1, 0x0256), (0x018b, 0x018b, 1, 0x018c),
  (0x018e, 0x018e, 1, 0x01dd), (0x018f, 0x018f, 1, 0x0259), (0x0190, 0x0190, 1, 0x025b),
  (0x0191, 0x0191, 1, 0x0192), (0x0193, 0x0193, 1, 0x0260), (0x0194, 0x0194, 1, 0x0263),
  (0x0196, 0x0196, 1, 0x0269), (0x0197, 0x0197, 1, 0x0268), (0x0198, 0x0198, 1, 0x0199),
  (0x019c, 0x019c, 1, 0x026f), (0x019d, 0x019d, 1, 0x0272), (0x019f, 0x019f, 1, 0x0275),
  (0x01a0, 0x01a4, 2, 0x01a1), (0x01a6, 0x01a6, 1, 0x0280), (0x01a7, 0x01a7, 1, 0x01a8),
  (0x01a9, 0x01a9, 1, 0x0283), (0x01ac, 0x01ac, 1, 0x01ad), (0x01ae, 0x01ae, 1, 0x0288),
  (0x01af, 0x01af, 1, 0x01b0), (0x01b1, 0x01b2, 1, 0x028a), (0x01b3, 0x01b5, 2, 0x01b4),
  (0x01b7, 0x01b7, 1, 0x0292), (0x01b8, 0x01b8, 1, 0x01b9), (0x01bc, 0x01bc, 1, 0x01bd),
  (0x01c4, 0x01c4, 1, 0x01c6), (0x01c5, 0x01c5, 1, 0x01c6), (0x01c7, 0x01c7, 1, 0x01c9),
  (0x01c8, 0x01c8, 1, 0x01c9), (0x01ca, 0x01ca, 1, 0x01cc), (0x01cb, 0x01db, 2, 0x01cc),
  (0x01de, 0x01ee, 2, 0x01df), (0x01f1, 0x01f1, 1, 0x01f3), (0x01f2, 0x01f4, 2, 0x01f3),
  (0x01f6, 0x01f6, 1, 0x0195), (0x01f7, 0x01f7, 1, 0x01bf), (0x01f8, 0x021e, 2, 0x01f9),
  (0x0220, 0x0220, 1, 0x019e), (0x0222, 0x0232, 2, 0x0223), (0x023a, 0x023a, 1, 0x2c65),
  (0x023b, 0x023b, 1, 0x023c), (0x023d, 0x023d, 1, 0x019a), (0x023e, 0x023e, 1, 0x2c66),
  (0x0241, 0x0241, 1, 0x0242), (0x0243, 0x0243, 1, 0x0180), (0x0244, 0x0244, 1, 0x0289),
  (0x0245, 0x0245, 1, 0x028c), (0x0246, 0x024e, 2, 0x0247), (0x0370, 0x0372, 2, 0x0371),
  (0x0376, 0x0376, 1, 0x0377), (0x037f, 0x037f, 1, 0x03f3), (0x0386, 0x0386, 1, 0x03ac),
  (0x0388, 0x038a, 1, 0x03ad), (0x038c, 0x038c, 1, 0x03cc), (0x038e, 0x038f, 1, 0x03cd),
  (0x0391, 0x03a1, 1, 0x03b1), (0x03a3, 0x03ab, 1, 0x03c3), (0x03cf, 0x03cf, 1, 0x03d7),
  (0x03d8, 0x03ee, 2, 0x03d9), (0x03f4, 0x03f4, 1, 0x03b8), (0x03f7, 0x03f7, 1, 0x03f8),
  (0x03f9, 0x03f9, 1, 0x03f2), (0x03fa, 0x03fa, 1, 0x03fb), (0x03fd, 0x03ff, 1, 0x037b),
  (0x0400, 0x040f, 1, 0x0450), (0x0410, 0x042f, 1, 0x0430), (0x0460, 0x0480, 2, 0x0461),
  (0x048a, 0x04be, 2, 0x048b), (0x04c0, 0x04c0, 1, 0x04cf), (0x04c1, 0x04cd, 2, 0x04c2),
  (0x04d0, 0x052e, 2, 0x04d1), (0x0531, 0x0556, 1, 0x0561), (0x10a0, 0x10c5, 1, 0x2d00),
  (0x10c7, 0x10c7, 1, 0x2d27), (0x10cd, 0x10cd, 1, 0x2d2d), (0x13a0, 0x13ef, 1, 0xab70),
  (0x13f0, 0x13f5, 1, 0x13f8), (0x1c89, 0x1c89, 1, 0x1c8a), (0x1c90, 0x1cba, 1, 0x10d0),
  (0x1cbd, 0x1cbf, 1, 0x10fd), (0x1e00, 0x1e94, 2, 0x1e01), (0x1e9e, 0x1e9e, 1, 0x00df),
  (0x1ea0, 0x1efe, 2, 0x1ea1), (0x1f08, 0x1f0f, 1, 0x1f00), (0x1f18, 0x1f1d, 1, 0x1f10),
  (0x1f28, 0x1f2f, 1, 0x1f20)]

def lowerRows2 : List (Nat × Nat × Nat × Nat) := [
  (0x1f38, 0x1f3f, 1, 0x1f30), (0x1f48, 0x1f4d, 1, 0x1f40), (0x1f59, 0x1f5f, 2, 0x1f51),
  (0x1f68, 0x1f6f, 1, 0x1f60), (0x1f88, 0x1f8f, 1, 0x1f80), (0x1f98, 0x1f9f, 1, 0x1f90),
  (0x1fa8, 0x1faf, 1, 0x1fa0), (0x1fb8, 0x1fb9, 1, 0x1fb0), (0x1fba, 0x1fbb, 1, 0x1f70),
  (0x1fbc, 0x1fbc, 1, 0x1fb3), (0x1fc8, 0x1fcb, 1, 0x1f72), (0x1fcc, 0x1fcc, 1, 0x1fc3),
  (0x1fd8, 0x1fd9, 1, 0x1fd0), (0x1fda, 0x1fdb, 1, 0x1f76), (0x1fe8, 0x1fe9, 1, 0x1fe0),
  (0x1fea, 0x1feb, 1, 0x1f7a), (0x1fec, 0x1fec, 1, 0x1fe5), (0x1ff8, 0x1ff9, 1, 0x1f78),
  (0x1ffa, 0x1ffb, 1, 0x1f7c), (0x1ffc, 0x1ffc, 1, 0x1ff3), (0x2126, 0x2126, 1, 0x03c9),
  (0x212a, 0x212a, 1, 0x006b), (0x212b, 0x212b, 1, 0x00e5), (0x2132, 0x2132, 1, 0x214e),
  (0x2160, 0x216f, 1, 0x2170), (0x2183, 0x2183, 1, 0x2184), (0x24b6, 0x24cf, 1, 0x24d0),
  (0x2c00, 0x2c2f, 1, 0x2c30), (0x2c60, 0x2c60, 1, 0x2c61), (0x2c62, 0x2c62, 1, 0x026b),
  (0x2c63, 0x2c63, 1, 0x1d7d), (0x2c64, 0x2c64, 1, 0x027d), (0x2c67, 0x2c6b, 2, 0x2c68),
  (0x2c6d, 0x2c6d, 1, 0x0251), (0x2c6e, 0x2c6e, 1, 0x0271), (0x2c6f, 0x2c6f, 1, 0x0250),
  (0x2c70, 0x2c70, 1, 0x0252), (0x2c72, 0x2c72, 1, 0x2c73), (0x2c75, 0x2c75, 1, 0x2c76),
  (0x2c7e, 0x2c7f, 1, 0x023f), (0x2c80, 0x2ce2, 2, 0x2c81), (0x2ceb, 0x2ced, 2, 0x2cec),
  (0x2cf2, 0x2cf2, 1, 0x2cf3), (0xa640, 0xa66c, 2, 0xa641), (0xa680, 0xa69a, 2, 0xa681),
  (0xa722, 0xa72e, 2, 0xa723), (0xa732, 0xa76e, 2, 0xa733), (0xa779, 0xa77b, 2, 0xa77a),
  (0xa77d, 0xa77d, 1, 0x1d79), (0xa77e, 0xa786, 2, 0xa77f), (0xa78b, 0xa78b, 1, 0xa78c),
  (0xa78d, 0xa78d, 1, 0x0265), (0xa790, 0xa792, 2, 0xa791), (0xa796, 0xa7a8, 2, 0xa797),
  (0xa7aa, 0xa7aa, 1, 0x0266), (0xa7ab, 0xa7ab, 1, 0x025c), (0xa7ac, 0xa7ac, 1, 0x0261),
  (0xa7ad, 0xa7ad, 1, 0x026c), (0xa7ae, 0xa7ae, 1, 0x026a), (0xa7b0, 0xa7b0, 1, 0x029e),
  (0xa7b1, 0xa7b1, 1, 0x0287), (0xa7b2, 0xa7b2, 1, 0x029d), (0xa7b3, 0xa7b3, 1, 0xab53),
  (0xa7b4, 0xa7c2, 2, 0xa7b5), (0xa7c4, 0xa7c4, 1, 0xa794), (0xa7c5, 0xa7c5, 1, 0x0282),
  (0xa7c6, 0xa7c6, 1, 0x1d8e), (0xa7c7, 0xa7c9, 2, 0xa7c8), (0xa7cb, 0xa7cb, 1, 0x0264),
  (0xa7cc, 0xa7da, 2, 0xa7cd), (0xa7dc, 0xa7dc, 1, 0x019b), (0xa7f5, 0xa7f5, 1, 0xa7f6),
  (0xff21, 0xff3a, 1, 0xff41), (0x10400, 0x10427, 1, 0x10428), (0x104b0, 0x104d3, 1, 0x104d8),
  (0x10570, 0x1057a, 1, 0x10597), (0x1057c, 0x1058a, 1, 0x105a3), (0x1058c, 0x10592, 1, 0x105b3),
  (0x10594, 0x10595, 1, 0x105bb), (0x10c80, 0x10cb2, 1, 0x10cc0), (0x10d50, 0x10d65, 1, 0x10d70),
  (0x118a0, 0x118bf, 1, 0x118c0), (0x16e40, 0x16e5f, 1, 0x16e60), (0x16ea0, 0x16eb8, 1, 0x16ebb),
  (0x1e900, 0x1e921, 1, 0x1e922)]

def lowerRows : List (Nat × Nat × Nat × Nat) :=
  lowerRows1 ++ lowerRows2

def lowerTable : SpanTree Shift :=
  shifts lowerRows

-- The lower-case form of `c`. One character has a form of two: the capital I with a dot above
-- becomes a small i and a combining dot.
def lower (c : Char) : List Char :=
  if c.toNat == 0x0130 then ['i', Char.ofNat 0x0307]
  else match shift? lowerTable c.toNat with
    | some k => [Char.ofNat k]
    | none   => [c]

end ExcerptSearch.Unicode
