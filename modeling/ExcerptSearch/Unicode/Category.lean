import ExcerptSearch.Unicode.SpanTree

namespace ExcerptSearch.Unicode

inductive Category where
  | lu | ll | lt | lm | lo
  | mn | mc | me
  | nd | nl | no
  | pc | pd | ps | pe | pi | pf | po
  | sm | sc | sk | so
  | zs | zl | zp
  | cc | cf | cs | co | cn
  deriving DecidableEq

def categoryStarts1 : List (Nat × List Category) := [
  (0x0000, [.cc]), (0x0020, [.zs]), (0x0021, [.po]), (0x0024, [.sc]), (0x0025, [.po]),
  (0x0028, [.ps]), (0x0029, [.pe]), (0x002a, [.po, .sm]), (0x002d, [.pd]), (0x002e, [.po]),
  (0x0030, [.nd]), (0x003a, [.po]), (0x003c, [.sm]), (0x003f, [.po]), (0x0041, [.lu]),
  (0x005b, [.ps]), (0x005c, [.po]), (0x005d, [.pe]), (0x005e, [.sk, .pc]), (0x0061, [.ll]),
  (0x007b, [.ps]), (0x007c, [.sm, .pe]), (0x007f, [.cc]), (0x00a0, [.zs]), (0x00a1, [.po]),
  (0x00a2, [.sc]), (0x00a6, [.so]), (0x00a7, [.po]), (0x00a8, [.sk]), (0x00a9, [.so]),
  (0x00aa, [.lo]), (0x00ab, [.pi]), (0x00ac, [.sm]), (0x00ad, [.cf]), (0x00ae, [.so, .sk]),
  (0x00b1, [.sm]), (0x00b2, [.no]), (0x00b4, [.sk]), (0x00b5, [.ll]), (0x00b6, [.po]),
  (0x00b8, [.sk]), (0x00b9, [.no]), (0x00ba, [.lo]), (0x00bb, [.pf]), (0x00bc, [.no]),
  (0x00bf, [.po]), (0x00c0, [.lu]), (0x00d7, [.sm]), (0x00d8, [.lu]), (0x00df, [.ll]),
  (0x00f7, [.sm]), (0x00f8, [.ll]), (0x0100, [.lu, .ll]), (0x0137, [.ll]), (0x0139, [.lu, .ll]),
  (0x0148, [.ll]), (0x014a, [.lu, .ll]), (0x0178, [.lu]), (0x017a, [.ll, .lu]), (0x017e, [.ll]),
  (0x0181, [.lu]), (0x0183, [.ll, .lu]), (0x0186, [.lu]), (0x0188, [.ll]), (0x0189, [.lu]),
  (0x018c, [.ll]), (0x018e, [.lu]), (0x0192, [.ll]), (0x0193, [.lu]), (0x0195, [.ll]),
  (0x0196, [.lu]), (0x0199, [.ll]), (0x019c, [.lu]), (0x019e, [.ll]), (0x019f, [.lu]),
  (0x01a1, [.ll, .lu]), (0x01a6, [.lu]), (0x01a8, [.ll]), (0x01a9, [.lu]), (0x01aa, [.ll]),
  (0x01ac, [.lu]), (0x01ad, [.ll]), (0x01ae, [.lu]), (0x01b0, [.ll]), (0x01b1, [.lu]),
  (0x01b4, [.ll, .lu]), (0x01b7, [.lu]), (0x01b9, [.ll]), (0x01bb, [.lo]), (0x01bc, [.lu]),
  (0x01bd, [.ll]), (0x01c0, [.lo]), (0x01c4, [.lu]), (0x01c5, [.lt]), (0x01c6, [.ll]),
  (0x01c7, [.lu]), (0x01c8, [.lt]), (0x01c9, [.ll]), (0x01ca, [.lu]), (0x01cb, [.lt]),
  (0x01cc, [.ll, .lu]), (0x01dc, [.ll]), (0x01de, [.lu, .ll]), (0x01ef, [.ll]), (0x01f1, [.lu]),
  (0x01f2, [.lt]), (0x01f3, [.ll, .lu]), (0x01f6, [.lu]), (0x01f9, [.ll, .lu]), (0x0233, [.ll]),
  (0x023a, [.lu]), (0x023c, [.ll]), (0x023d, [.lu]), (0x023f, [.ll]), (0x0241, [.lu]),
  (0x0242, [.ll]), (0x0243, [.lu]), (0x0247, [.ll, .lu]), (0x024f, [.ll]), (0x0294, [.lo]),
  (0x0295, [.ll]), (0x02b0, [.lm]), (0x02c2, [.sk]), (0x02c6, [.lm]), (0x02d2, [.sk]),
  (0x02e0, [.lm]), (0x02e5, [.sk]), (0x02ec, [.lm, .sk]), (0x02ef, [.sk]), (0x0300, [.mn]),
  (0x0370, [.lu, .ll]), (0x0374, [.lm]), (0x0375, [.sk]), (0x0376, [.lu]), (0x0377, [.ll]),
  (0x0378, [.cn]), (0x037a, [.lm]), (0x037b, [.ll]), (0x037e, [.po]), (0x037f, [.lu]),
  (0x0380, [.cn]), (0x0384, [.sk]), (0x0386, [.lu]), (0x0387, [.po]), (0x0388, [.lu]),
  (0x038b, [.cn, .lu]), (0x038e, [.lu]), (0x0390, [.ll]), (0x0391, [.lu]), (0x03a2, [.cn]),
  (0x03a3, [.lu]), (0x03ac, [.ll]), (0x03cf, [.lu]), (0x03d0, [.ll]), (0x03d2, [.lu]),
  (0x03d5, [.ll]), (0x03d8, [.lu, .ll]), (0x03ef, [.ll]), (0x03f4, [.lu]), (0x03f5, [.ll]),
  (0x03f6, [.sm]), (0x03f7, [.lu]), (0x03f8, [.ll]), (0x03f9, [.lu]), (0x03fb, [.ll]),
  (0x03fd, [.lu]), (0x0430, [.ll]), (0x0460, [.lu, .ll]), (0x0482, [.so]), (0x0483, [.mn]),
  (0x0488, [.me]), (0x048a, [.lu, .ll]), (0x04c0, [.lu]), (0x04c2, [.ll, .lu]), (0x04ce, [.ll]),
  (0x04d0, [.lu, .ll]), (0x0530, [.cn]), (0x0531, [.lu]), (0x0557, [.cn]), (0x0559, [.lm])]

def categoryStarts2 : List (Nat × List Category) := [
  (0x055a, [.po]), (0x0560, [.ll]), (0x0589, [.po]), (0x058a, [.pd]), (0x058b, [.cn]),
  (0x058d, [.so]), (0x058f, [.sc]), (0x0590, [.cn]), (0x0591, [.mn]), (0x05be, [.pd]),
  (0x05bf, [.mn]), (0x05c0, [.po]), (0x05c1, [.mn]), (0x05c3, [.po]), (0x05c4, [.mn]),
  (0x05c6, [.po]), (0x05c7, [.mn]), (0x05c8, [.cn]), (0x05d0, [.lo]), (0x05eb, [.cn]),
  (0x05ef, [.lo]), (0x05f3, [.po]), (0x05f5, [.cn]), (0x0600, [.cf]), (0x0606, [.sm]),
  (0x0609, [.po]), (0x060b, [.sc]), (0x060c, [.po]), (0x060e, [.so]), (0x0610, [.mn]),
  (0x061b, [.po]), (0x061c, [.cf]), (0x061d, [.po]), (0x0620, [.lo]), (0x0640, [.lm]),
  (0x0641, [.lo]), (0x064b, [.mn]), (0x0660, [.nd]), (0x066a, [.po]), (0x066e, [.lo]),
  (0x0670, [.mn]), (0x0671, [.lo]), (0x06d4, [.po]), (0x06d5, [.lo]), (0x06d6, [.mn]),
  (0x06dd, [.cf]), (0x06de, [.so]), (0x06df, [.mn]), (0x06e5, [.lm]), (0x06e7, [.mn]),
  (0x06e9, [.so]), (0x06ea, [.mn]), (0x06ee, [.lo]), (0x06f0, [.nd]), (0x06fa, [.lo]),
  (0x06fd, [.so]), (0x06ff, [.lo]), (0x0700, [.po]), (0x070e, [.cn]), (0x070f, [.cf]),
  (0x0710, [.lo]), (0x0711, [.mn]), (0x0712, [.lo]), (0x0730, [.mn]), (0x074b, [.cn]),
  (0x074d, [.lo]), (0x07a6, [.mn]), (0x07b1, [.lo]), (0x07b2, [.cn]), (0x07c0, [.nd]),
  (0x07ca, [.lo]), (0x07eb, [.mn]), (0x07f4, [.lm]), (0x07f6, [.so]), (0x07f7, [.po]),
  (0x07fa, [.lm]), (0x07fb, [.cn]), (0x07fd, [.mn]), (0x07fe, [.sc]), (0x0800, [.lo]),
  (0x0816, [.mn]), (0x081a, [.lm]), (0x081b, [.mn]), (0x0824, [.lm]), (0x0825, [.mn]),
  (0x0828, [.lm]), (0x0829, [.mn]), (0x082e, [.cn]), (0x0830, [.po]), (0x083f, [.cn]),
  (0x0840, [.lo]), (0x0859, [.mn]), (0x085c, [.cn]), (0x085e, [.po]), (0x085f, [.cn]),
  (0x0860, [.lo]), (0x086b, [.cn]), (0x0870, [.lo]), (0x0888, [.sk]), (0x0889, [.lo]),
  (0x088f, [.cn]), (0x0890, [.cf]), (0x0892, [.cn]), (0x0897, [.mn]), (0x08a0, [.lo]),
  (0x08c9, [.lm]), (0x08ca, [.mn]), (0x08e2, [.cf]), (0x08e3, [.mn]), (0x0903, [.mc]),
  (0x0904, [.lo]), (0x093a, [.mn, .mc]), (0x093d, [.lo]), (0x093e, [.mc]), (0x0941, [.mn]),
  (0x0949, [.mc]), (0x094d, [.mn]), (0x094e, [.mc]), (0x0950, [.lo]), (0x0951, [.mn]),
  (0x0958, [.lo]), (0x0962, [.mn]), (0x0964, [.po]), (0x0966, [.nd]), (0x0970, [.po]),
  (0x0971, [.lm]), (0x0972, [.lo]), (0x0981, [.mn]), (0x0982, [.mc]), (0x0984, [.cn]),
  (0x0985, [.lo]), (0x098d, [.cn]), (0x098f, [.lo]), (0x0991, [.cn]), (0x0993, [.lo]),
  (0x09a9, [.cn]), (0x09aa, [.lo]), (0x09b1, [.cn]), (0x09b2, [.lo]), (0x09b3, [.cn]),
  (0x09b6, [.lo]), (0x09ba, [.cn]), (0x09bc, [.mn]), (0x09bd, [.lo]), (0x09be, [.mc]),
  (0x09c1, [.mn]), (0x09c5, [.cn]), (0x09c7, [.mc]), (0x09c9, [.cn]), (0x09cb, [.mc]),
  (0x09cd, [.mn]), (0x09ce, [.lo]), (0x09cf, [.cn]), (0x09d7, [.mc]), (0x09d8, [.cn]),
  (0x09dc, [.lo]), (0x09de, [.cn]), (0x09df, [.lo]), (0x09e2, [.mn]), (0x09e4, [.cn]),
  (0x09e6, [.nd]), (0x09f0, [.lo]), (0x09f2, [.sc]), (0x09f4, [.no]), (0x09fa, [.so]),
  (0x09fb, [.sc]), (0x09fc, [.lo]), (0x09fd, [.po]), (0x09fe, [.mn]), (0x09ff, [.cn]),
  (0x0a01, [.mn]), (0x0a03, [.mc]), (0x0a04, [.cn]), (0x0a05, [.lo]), (0x0a0b, [.cn]),
  (0x0a0f, [.lo]), (0x0a11, [.cn]), (0x0a13, [.lo]), (0x0a29, [.cn]), (0x0a2a, [.lo])]

def categoryStarts3 : List (Nat × List Category) := [
  (0x0a31, [.cn]), (0x0a32, [.lo]), (0x0a34, [.cn]), (0x0a35, [.lo]), (0x0a37, [.cn]),
  (0x0a38, [.lo]), (0x0a3a, [.cn]), (0x0a3c, [.mn]), (0x0a3d, [.cn]), (0x0a3e, [.mc]),
  (0x0a41, [.mn]), (0x0a43, [.cn]), (0x0a47, [.mn]), (0x0a49, [.cn]), (0x0a4b, [.mn]),
  (0x0a4e, [.cn]), (0x0a51, [.mn]), (0x0a52, [.cn]), (0x0a59, [.lo]), (0x0a5d, [.cn]),
  (0x0a5e, [.lo]), (0x0a5f, [.cn]), (0x0a66, [.nd]), (0x0a70, [.mn]), (0x0a72, [.lo]),
  (0x0a75, [.mn]), (0x0a76, [.po]), (0x0a77, [.cn]), (0x0a81, [.mn]), (0x0a83, [.mc]),
  (0x0a84, [.cn]), (0x0a85, [.lo]), (0x0a8e, [.cn]), (0x0a8f, [.lo]), (0x0a92, [.cn]),
  (0x0a93, [.lo]), (0x0aa9, [.cn]), (0x0aaa, [.lo]), (0x0ab1, [.cn]), (0x0ab2, [.lo]),
  (0x0ab4, [.cn]), (0x0ab5, [.lo]), (0x0aba, [.cn]), (0x0abc, [.mn]), (0x0abd, [.lo]),
  (0x0abe, [.mc]), (0x0ac1, [.mn]), (0x0ac6, [.cn]), (0x0ac7, [.mn]), (0x0ac9, [.mc]),
  (0x0aca, [.cn]), (0x0acb, [.mc]), (0x0acd, [.mn]), (0x0ace, [.cn]), (0x0ad0, [.lo]),
  (0x0ad1, [.cn]), (0x0ae0, [.lo]), (0x0ae2, [.mn]), (0x0ae4, [.cn]), (0x0ae6, [.nd]),
  (0x0af0, [.po]), (0x0af1, [.sc]), (0x0af2, [.cn]), (0x0af9, [.lo]), (0x0afa, [.mn]),
  (0x0b00, [.cn]), (0x0b01, [.mn]), (0x0b02, [.mc]), (0x0b04, [.cn]), (0x0b05, [.lo]),
  (0x0b0d, [.cn]), (0x0b0f, [.lo]), (0x0b11, [.cn]), (0x0b13, [.lo]), (0x0b29, [.cn]),
  (0x0b2a, [.lo]), (0x0b31, [.cn]), (0x0b32, [.lo]), (0x0b34, [.cn]), (0x0b35, [.lo]),
  (0x0b3a, [.cn]), (0x0b3c, [.mn]), (0x0b3d, [.lo]), (0x0b3e, [.mc, .mn]), (0x0b41, [.mn]),
  (0x0b45, [.cn]), (0x0b47, [.mc]), (0x0b49, [.cn]), (0x0b4b, [.mc]), (0x0b4d, [.mn]),
  (0x0b4e, [.cn]), (0x0b55, [.mn]), (0x0b57, [.mc]), (0x0b58, [.cn]), (0x0b5c, [.lo]),
  (0x0b5e, [.cn]), (0x0b5f, [.lo]), (0x0b62, [.mn]), (0x0b64, [.cn]), (0x0b66, [.nd]),
  (0x0b70, [.so]), (0x0b71, [.lo]), (0x0b72, [.no]), (0x0b78, [.cn]), (0x0b82, [.mn]),
  (0x0b83, [.lo]), (0x0b84, [.cn]), (0x0b85, [.lo]), (0x0b8b, [.cn]), (0x0b8e, [.lo]),
  (0x0b91, [.cn]), (0x0b92, [.lo]), (0x0b96, [.cn]), (0x0b99, [.lo]), (0x0b9b, [.cn, .lo]),
  (0x0b9e, [.lo]), (0x0ba0, [.cn]), (0x0ba3, [.lo]), (0x0ba5, [.cn]), (0x0ba8, [.lo]),
  (0x0bab, [.cn]), (0x0bae, [.lo]), (0x0bba, [.cn]), (0x0bbe, [.mc]), (0x0bc0, [.mn]),
  (0x0bc1, [.mc]), (0x0bc3, [.cn]), (0x0bc6, [.mc]), (0x0bc9, [.cn]), (0x0bca, [.mc]),
  (0x0bcd, [.mn]), (0x0bce, [.cn]), (0x0bd0, [.lo]), (0x0bd1, [.cn]), (0x0bd7, [.mc]),
  (0x0bd8, [.cn]), (0x0be6, [.nd]), (0x0bf0, [.no]), (0x0bf3, [.so]), (0x0bf9, [.sc]),
  (0x0bfa, [.so]), (0x0bfb, [.cn]), (0x0c00, [.mn]), (0x0c01, [.mc]), (0x0c04, [.mn]),
  (0x0c05, [.lo]), (0x0c0d, [.cn]), (0x0c0e, [.lo]), (0x0c11, [.cn]), (0x0c12, [.lo]),
  (0x0c29, [.cn]), (0x0c2a, [.lo]), (0x0c3a, [.cn]), (0x0c3c, [.mn]), (0x0c3d, [.lo]),
  (0x0c3e, [.mn]), (0x0c41, [.mc]), (0x0c45, [.cn]), (0x0c46, [.mn]), (0x0c49, [.cn]),
  (0x0c4a, [.mn]), (0x0c4e, [.cn]), (0x0c55, [.mn]), (0x0c57, [.cn]), (0x0c58, [.lo]),
  (0x0c5b, [.cn]), (0x0c5d, [.lo]), (0x0c5e, [.cn]), (0x0c60, [.lo]), (0x0c62, [.mn]),
  (0x0c64, [.cn]), (0x0c66, [.nd]), (0x0c70, [.cn]), (0x0c77, [.po]), (0x0c78, [.no]),
  (0x0c7f, [.so]), (0x0c80, [.lo]), (0x0c81, [.mn]), (0x0c82, [.mc]), (0x0c84, [.po])]

def categoryStarts4 : List (Nat × List Category) := [
  (0x0c85, [.lo]), (0x0c8d, [.cn]), (0x0c8e, [.lo]), (0x0c91, [.cn]), (0x0c92, [.lo]),
  (0x0ca9, [.cn]), (0x0caa, [.lo]), (0x0cb4, [.cn]), (0x0cb5, [.lo]), (0x0cba, [.cn]),
  (0x0cbc, [.mn]), (0x0cbd, [.lo]), (0x0cbe, [.mc]), (0x0cbf, [.mn]), (0x0cc0, [.mc]),
  (0x0cc5, [.cn]), (0x0cc6, [.mn]), (0x0cc7, [.mc]), (0x0cc9, [.cn]), (0x0cca, [.mc]),
  (0x0ccc, [.mn]), (0x0cce, [.cn]), (0x0cd5, [.mc]), (0x0cd7, [.cn]), (0x0cdd, [.lo]),
  (0x0cdf, [.cn]), (0x0ce0, [.lo]), (0x0ce2, [.mn]), (0x0ce4, [.cn]), (0x0ce6, [.nd]),
  (0x0cf0, [.cn]), (0x0cf1, [.lo]), (0x0cf3, [.mc]), (0x0cf4, [.cn]), (0x0d00, [.mn]),
  (0x0d02, [.mc]), (0x0d04, [.lo]), (0x0d0d, [.cn]), (0x0d0e, [.lo]), (0x0d11, [.cn]),
  (0x0d12, [.lo]), (0x0d3b, [.mn]), (0x0d3d, [.lo]), (0x0d3e, [.mc]), (0x0d41, [.mn]),
  (0x0d45, [.cn]), (0x0d46, [.mc]), (0x0d49, [.cn]), (0x0d4a, [.mc]), (0x0d4d, [.mn]),
  (0x0d4e, [.lo]), (0x0d4f, [.so]), (0x0d50, [.cn]), (0x0d54, [.lo]), (0x0d57, [.mc]),
  (0x0d58, [.no]), (0x0d5f, [.lo]), (0x0d62, [.mn]), (0x0d64, [.cn]), (0x0d66, [.nd]),
  (0x0d70, [.no]), (0x0d79, [.so]), (0x0d7a, [.lo]), (0x0d80, [.cn]), (0x0d81, [.mn]),
  (0x0d82, [.mc]), (0x0d84, [.cn]), (0x0d85, [.lo]), (0x0d97, [.cn]), (0x0d9a, [.lo]),
  (0x0db2, [.cn]), (0x0db3, [.lo]), (0x0dbc, [.cn]), (0x0dbd, [.lo]), (0x0dbe, [.cn]),
  (0x0dc0, [.lo]), (0x0dc7, [.cn]), (0x0dca, [.mn]), (0x0dcb, [.cn]), (0x0dcf, [.mc]),
  (0x0dd2, [.mn]), (0x0dd5, [.cn, .mn]), (0x0dd8, [.mc]), (0x0de0, [.cn]), (0x0de6, [.nd]),
  (0x0df0, [.cn]), (0x0df2, [.mc]), (0x0df4, [.po]), (0x0df5, [.cn]), (0x0e01, [.lo]),
  (0x0e31, [.mn]), (0x0e32, [.lo]), (0x0e34, [.mn]), (0x0e3b, [.cn]), (0x0e3f, [.sc]),
  (0x0e40, [.lo]), (0x0e46, [.lm]), (0x0e47, [.mn]), (0x0e4f, [.po]), (0x0e50, [.nd]),
  (0x0e5a, [.po]), (0x0e5c, [.cn]), (0x0e81, [.lo]), (0x0e83, [.cn, .lo]), (0x0e86, [.lo]),
  (0x0e8b, [.cn]), (0x0e8c, [.lo]), (0x0ea4, [.cn, .lo]), (0x0ea7, [.lo]), (0x0eb1, [.mn]),
  (0x0eb2, [.lo]), (0x0eb4, [.mn]), (0x0ebd, [.lo]), (0x0ebe, [.cn]), (0x0ec0, [.lo]),
  (0x0ec5, [.cn, .lm]), (0x0ec8, [.mn]), (0x0ecf, [.cn]), (0x0ed0, [.nd]), (0x0eda, [.cn]),
  (0x0edc, [.lo]), (0x0ee0, [.cn]), (0x0f00, [.lo]), (0x0f01, [.so]), (0x0f04, [.po]),
  (0x0f13, [.so]), (0x0f14, [.po]), (0x0f15, [.so]), (0x0f18, [.mn]), (0x0f1a, [.so]),
  (0x0f20, [.nd]), (0x0f2a, [.no]), (0x0f34, [.so, .mn]), (0x0f3a, [.ps, .pe]), (0x0f3e, [.mc]),
  (0x0f40, [.lo]), (0x0f48, [.cn]), (0x0f49, [.lo]), (0x0f6d, [.cn]), (0x0f71, [.mn]),
  (0x0f7f, [.mc]), (0x0f80, [.mn]), (0x0f85, [.po]), (0x0f86, [.mn]), (0x0f88, [.lo]),
  (0x0f8d, [.mn]), (0x0f98, [.cn]), (0x0f99, [.mn]), (0x0fbd, [.cn]), (0x0fbe, [.so]),
  (0x0fc6, [.mn]), (0x0fc7, [.so]), (0x0fcd, [.cn]), (0x0fce, [.so]), (0x0fd0, [.po]),
  (0x0fd5, [.so]), (0x0fd9, [.po]), (0x0fdb, [.cn]), (0x1000, [.lo]), (0x102b, [.mc]),
  (0x102d, [.mn]), (0x1031, [.mc]), (0x1032, [.mn]), (0x1038, [.mc]), (0x1039, [.mn]),
  (0x103b, [.mc]), (0x103d, [.mn]), (0x103f, [.lo]), (0x1040, [.nd]), (0x104a, [.po]),
  (0x1050, [.lo]), (0x1056, [.mc]), (0x1058, [.mn]), (0x105a, [.lo]), (0x105e, [.mn]),
  (0x1061, [.lo]), (0x1062, [.mc]), (0x1065, [.lo]), (0x1067, [.mc]), (0x106e, [.lo])]

def categoryStarts5 : List (Nat × List Category) := [
  (0x1071, [.mn]), (0x1075, [.lo]), (0x1082, [.mn]), (0x1083, [.mc]), (0x1085, [.mn]),
  (0x1087, [.mc]), (0x108d, [.mn]), (0x108e, [.lo]), (0x108f, [.mc]), (0x1090, [.nd]),
  (0x109a, [.mc]), (0x109d, [.mn]), (0x109e, [.so]), (0x10a0, [.lu]), (0x10c6, [.cn]),
  (0x10c7, [.lu]), (0x10c8, [.cn]), (0x10cd, [.lu]), (0x10ce, [.cn]), (0x10d0, [.ll]),
  (0x10fb, [.po]), (0x10fc, [.lm]), (0x10fd, [.ll]), (0x1100, [.lo]), (0x1249, [.cn]),
  (0x124a, [.lo]), (0x124e, [.cn]), (0x1250, [.lo]), (0x1257, [.cn, .lo]), (0x125a, [.lo]),
  (0x125e, [.cn]), (0x1260, [.lo]), (0x1289, [.cn]), (0x128a, [.lo]), (0x128e, [.cn]),
  (0x1290, [.lo]), (0x12b1, [.cn]), (0x12b2, [.lo]), (0x12b6, [.cn]), (0x12b8, [.lo]),
  (0x12bf, [.cn, .lo]), (0x12c2, [.lo]), (0x12c6, [.cn]), (0x12c8, [.lo]), (0x12d7, [.cn]),
  (0x12d8, [.lo]), (0x1311, [.cn]), (0x1312, [.lo]), (0x1316, [.cn]), (0x1318, [.lo]),
  (0x135b, [.cn]), (0x135d, [.mn]), (0x1360, [.po]), (0x1369, [.no]), (0x137d, [.cn]),
  (0x1380, [.lo]), (0x1390, [.so]), (0x139a, [.cn]), (0x13a0, [.lu]), (0x13f6, [.cn]),
  (0x13f8, [.ll]), (0x13fe, [.cn]), (0x1400, [.pd]), (0x1401, [.lo]), (0x166d, [.so]),
  (0x166e, [.po]), (0x166f, [.lo]), (0x1680, [.zs]), (0x1681, [.lo]), (0x169b, [.ps]),
  (0x169c, [.pe]), (0x169d, [.cn]), (0x16a0, [.lo]), (0x16eb, [.po]), (0x16ee, [.nl]),
  (0x16f1, [.lo]), (0x16f9, [.cn]), (0x1700, [.lo]), (0x1712, [.mn]), (0x1715, [.mc]),
  (0x1716, [.cn]), (0x171f, [.lo]), (0x1732, [.mn]), (0x1734, [.mc]), (0x1735, [.po]),
  (0x1737, [.cn]), (0x1740, [.lo]), (0x1752, [.mn]), (0x1754, [.cn]), (0x1760, [.lo]),
  (0x176d, [.cn]), (0x176e, [.lo]), (0x1771, [.cn]), (0x1772, [.mn]), (0x1774, [.cn]),
  (0x1780, [.lo]), (0x17b4, [.mn]), (0x17b6, [.mc]), (0x17b7, [.mn]), (0x17be, [.mc]),
  (0x17c6, [.mn]), (0x17c7, [.mc]), (0x17c9, [.mn]), (0x17d4, [.po]), (0x17d7, [.lm]),
  (0x17d8, [.po]), (0x17db, [.sc]), (0x17dc, [.lo]), (0x17dd, [.mn]), (0x17de, [.cn]),
  (0x17e0, [.nd]), (0x17ea, [.cn]), (0x17f0, [.no]), (0x17fa, [.cn]), (0x1800, [.po]),
  (0x1806, [.pd]), (0x1807, [.po]), (0x180b, [.mn]), (0x180e, [.cf]), (0x180f, [.mn]),
  (0x1810, [.nd]), (0x181a, [.cn]), (0x1820, [.lo]), (0x1843, [.lm]), (0x1844, [.lo]),
  (0x1879, [.cn]), (0x1880, [.lo]), (0x1885, [.mn]), (0x1887, [.lo]), (0x18a9, [.mn]),
  (0x18aa, [.lo]), (0x18ab, [.cn]), (0x18b0, [.lo]), (0x18f6, [.cn]), (0x1900, [.lo]),
  (0x191f, [.cn]), (0x1920, [.mn]), (0x1923, [.mc]), (0x1927, [.mn]), (0x1929, [.mc]),
  (0x192c, [.cn]), (0x1930, [.mc]), (0x1932, [.mn]), (0x1933, [.mc]), (0x1939, [.mn]),
  (0x193c, [.cn]), (0x1940, [.so]), (0x1941, [.cn]), (0x1944, [.po]), (0x1946, [.nd]),
  (0x1950, [.lo]), (0x196e, [.cn]), (0x1970, [.lo]), (0x1975, [.cn]), (0x1980, [.lo]),
  (0x19ac, [.cn]), (0x19b0, [.lo]), (0x19ca, [.cn]), (0x19d0, [.nd]), (0x19da, [.no]),
  (0x19db, [.cn]), (0x19de, [.so]), (0x1a00, [.lo]), (0x1a17, [.mn]), (0x1a19, [.mc]),
  (0x1a1b, [.mn]), (0x1a1c, [.cn]), (0x1a1e, [.po]), (0x1a20, [.lo]), (0x1a55, [.mc, .mn]),
  (0x1a58, [.mn]), (0x1a5f, [.cn]), (0x1a60, [.mn, .mc]), (0x1a63, [.mc]), (0x1a65, [.mn]),
  (0x1a6d, [.mc]), (0x1a73, [.mn]), (0x1a7d, [.cn]), (0x1a7f, [.mn]), (0x1a80, [.nd])]

def categoryStarts6 : List (Nat × List Category) := [
  (0x1a8a, [.cn]), (0x1a90, [.nd]), (0x1a9a, [.cn]), (0x1aa0, [.po]), (0x1aa7, [.lm]),
  (0x1aa8, [.po]), (0x1aae, [.cn]), (0x1ab0, [.mn]), (0x1abe, [.me]), (0x1abf, [.mn]),
  (0x1acf, [.cn]), (0x1b00, [.mn]), (0x1b04, [.mc]), (0x1b05, [.lo]), (0x1b34, [.mn]),
  (0x1b35, [.mc]), (0x1b36, [.mn]), (0x1b3b, [.mc]), (0x1b3c, [.mn]), (0x1b3d, [.mc]),
  (0x1b42, [.mn]), (0x1b43, [.mc]), (0x1b45, [.lo]), (0x1b4d, [.cn]), (0x1b4e, [.po]),
  (0x1b50, [.nd]), (0x1b5a, [.po]), (0x1b61, [.so]), (0x1b6b, [.mn]), (0x1b74, [.so]),
  (0x1b7d, [.po]), (0x1b80, [.mn]), (0x1b82, [.mc]), (0x1b83, [.lo]), (0x1ba1, [.mc]),
  (0x1ba2, [.mn]), (0x1ba6, [.mc]), (0x1ba8, [.mn]), (0x1baa, [.mc]), (0x1bab, [.mn]),
  (0x1bae, [.lo]), (0x1bb0, [.nd]), (0x1bba, [.lo]), (0x1be6, [.mn]), (0x1be7, [.mc]),
  (0x1be8, [.mn]), (0x1bea, [.mc]), (0x1bed, [.mn]), (0x1bee, [.mc]), (0x1bef, [.mn]),
  (0x1bf2, [.mc]), (0x1bf4, [.cn]), (0x1bfc, [.po]), (0x1c00, [.lo]), (0x1c24, [.mc]),
  (0x1c2c, [.mn]), (0x1c34, [.mc]), (0x1c36, [.mn]), (0x1c38, [.cn]), (0x1c3b, [.po]),
  (0x1c40, [.nd]), (0x1c4a, [.cn]), (0x1c4d, [.lo]), (0x1c50, [.nd]), (0x1c5a, [.lo]),
  (0x1c78, [.lm]), (0x1c7e, [.po]), (0x1c80, [.ll]), (0x1c89, [.lu]), (0x1c8a, [.ll]),
  (0x1c8b, [.cn]), (0x1c90, [.lu]), (0x1cbb, [.cn]), (0x1cbd, [.lu]), (0x1cc0, [.po]),
  (0x1cc8, [.cn]), (0x1cd0, [.mn]), (0x1cd3, [.po]), (0x1cd4, [.mn]), (0x1ce1, [.mc]),
  (0x1ce2, [.mn]), (0x1ce9, [.lo]), (0x1ced, [.mn]), (0x1cee, [.lo]), (0x1cf4, [.mn]),
  (0x1cf5, [.lo]), (0x1cf7, [.mc]), (0x1cf8, [.mn]), (0x1cfa, [.lo]), (0x1cfb, [.cn]),
  (0x1d00, [.ll]), (0x1d2c, [.lm]), (0x1d6b, [.ll]), (0x1d78, [.lm]), (0x1d79, [.ll]),
  (0x1d9b, [.lm]), (0x1dc0, [.mn]), (0x1e00, [.lu, .ll]), (0x1e95, [.ll]), (0x1e9e, [.lu, .ll]),
  (0x1eff, [.ll]), (0x1f08, [.lu]), (0x1f10, [.ll]), (0x1f16, [.cn]), (0x1f18, [.lu]),
  (0x1f1e, [.cn]), (0x1f20, [.ll]), (0x1f28, [.lu]), (0x1f30, [.ll]), (0x1f38, [.lu]),
  (0x1f40, [.ll]), (0x1f46, [.cn]), (0x1f48, [.lu]), (0x1f4e, [.cn]), (0x1f50, [.ll]),
  (0x1f58, [.cn, .lu]), (0x1f60, [.ll]), (0x1f68, [.lu]), (0x1f70, [.ll]), (0x1f7e, [.cn]),
  (0x1f80, [.ll]), (0x1f88, [.lt]), (0x1f90, [.ll]), (0x1f98, [.lt]), (0x1fa0, [.ll]),
  (0x1fa8, [.lt]), (0x1fb0, [.ll]), (0x1fb5, [.cn]), (0x1fb6, [.ll]), (0x1fb8, [.lu]),
  (0x1fbc, [.lt]), (0x1fbd, [.sk]), (0x1fbe, [.ll]), (0x1fbf, [.sk]), (0x1fc2, [.ll]),
  (0x1fc5, [.cn]), (0x1fc6, [.ll]), (0x1fc8, [.lu]), (0x1fcc, [.lt]), (0x1fcd, [.sk]),
  (0x1fd0, [.ll]), (0x1fd4, [.cn]), (0x1fd6, [.ll]), (0x1fd8, [.lu]), (0x1fdc, [.cn]),
  (0x1fdd, [.sk]), (0x1fe0, [.ll]), (0x1fe8, [.lu]), (0x1fed, [.sk]), (0x1ff0, [.cn]),
  (0x1ff2, [.ll]), (0x1ff5, [.cn]), (0x1ff6, [.ll]), (0x1ff8, [.lu]), (0x1ffc, [.lt]),
  (0x1ffd, [.sk]), (0x1fff, [.cn]), (0x2000, [.zs]), (0x200b, [.cf]), (0x2010, [.pd]),
  (0x2016, [.po]), (0x2018, [.pi]), (0x2019, [.pf]), (0x201a, [.ps]), (0x201b, [.pi]),
  (0x201d, [.pf]), (0x201e, [.ps]), (0x201f, [.pi]), (0x2020, [.po]), (0x2028, [.zl]),
  (0x2029, [.zp]), (0x202a, [.cf]), (0x202f, [.zs]), (0x2030, [.po]), (0x2039, [.pi]),
  (0x203a, [.pf]), (0x203b, [.po]), (0x203f, [.pc]), (0x2041, [.po]), (0x2044, [.sm])]

def categoryStarts7 : List (Nat × List Category) := [
  (0x2045, [.ps]), (0x2046, [.pe]), (0x2047, [.po]), (0x2052, [.sm]), (0x2053, [.po]),
  (0x2054, [.pc]), (0x2055, [.po]), (0x205f, [.zs]), (0x2060, [.cf]), (0x2065, [.cn]),
  (0x2066, [.cf]), (0x2070, [.no]), (0x2071, [.lm]), (0x2072, [.cn]), (0x2074, [.no]),
  (0x207a, [.sm]), (0x207d, [.ps]), (0x207e, [.pe]), (0x207f, [.lm]), (0x2080, [.no]),
  (0x208a, [.sm]), (0x208d, [.ps]), (0x208e, [.pe]), (0x208f, [.cn]), (0x2090, [.lm]),
  (0x209d, [.cn]), (0x20a0, [.sc]), (0x20c1, [.cn]), (0x20d0, [.mn]), (0x20dd, [.me]),
  (0x20e1, [.mn]), (0x20e2, [.me]), (0x20e5, [.mn]), (0x20f1, [.cn]), (0x2100, [.so]),
  (0x2102, [.lu]), (0x2103, [.so]), (0x2107, [.lu]), (0x2108, [.so]), (0x210a, [.ll]),
  (0x210b, [.lu]), (0x210e, [.ll]), (0x2110, [.lu]), (0x2113, [.ll]), (0x2114, [.so]),
  (0x2115, [.lu]), (0x2116, [.so]), (0x2118, [.sm]), (0x2119, [.lu]), (0x211e, [.so]),
  (0x2124, [.lu, .so]), (0x212a, [.lu]), (0x212e, [.so]), (0x212f, [.ll]), (0x2130, [.lu]),
  (0x2134, [.ll]), (0x2135, [.lo]), (0x2139, [.ll]), (0x213a, [.so]), (0x213c, [.ll]),
  (0x213e, [.lu]), (0x2140, [.sm]), (0x2145, [.lu]), (0x2146, [.ll]), (0x214a, [.so]),
  (0x214b, [.sm]), (0x214c, [.so]), (0x214e, [.ll]), (0x214f, [.so]), (0x2150, [.no]),
  (0x2160, [.nl]), (0x2183, [.lu]), (0x2184, [.ll]), (0x2185, [.nl]), (0x2189, [.no]),
  (0x218a, [.so]), (0x218c, [.cn]), (0x2190, [.sm]), (0x2195, [.so]), (0x219a, [.sm]),
  (0x219c, [.so]), (0x21a0, [.sm]), (0x21a1, [.so]), (0x21a3, [.sm]), (0x21a4, [.so]),
  (0x21a6, [.sm]), (0x21a7, [.so]), (0x21ae, [.sm]), (0x21af, [.so]), (0x21ce, [.sm]),
  (0x21d0, [.so]), (0x21d2, [.sm, .so]), (0x21d5, [.so]), (0x21f4, [.sm]), (0x2300, [.so]),
  (0x2308, [.ps, .pe]), (0x230c, [.so]), (0x2320, [.sm]), (0x2322, [.so]), (0x2329, [.ps]),
  (0x232a, [.pe]), (0x232b, [.so]), (0x237c, [.sm]), (0x237d, [.so]), (0x239b, [.sm]),
  (0x23b4, [.so]), (0x23dc, [.sm]), (0x23e2, [.so]), (0x242a, [.cn]), (0x2440, [.so]),
  (0x244b, [.cn]), (0x2460, [.no]), (0x249c, [.so]), (0x24ea, [.no]), (0x2500, [.so]),
  (0x25b7, [.sm]), (0x25b8, [.so]), (0x25c1, [.sm]), (0x25c2, [.so]), (0x25f8, [.sm]),
  (0x2600, [.so]), (0x266f, [.sm]), (0x2670, [.so]), (0x2768, [.ps, .pe]), (0x2776, [.no]),
  (0x2794, [.so]), (0x27c0, [.sm]), (0x27c5, [.ps]), (0x27c6, [.pe]), (0x27c7, [.sm]),
  (0x27e6, [.ps, .pe]), (0x27f0, [.sm]), (0x2800, [.so]), (0x2900, [.sm]), (0x2983, [.ps, .pe]),
  (0x2999, [.sm]), (0x29d8, [.ps, .pe]), (0x29dc, [.sm]), (0x29fc, [.ps]), (0x29fd, [.pe]),
  (0x29fe, [.sm]), (0x2b00, [.so]), (0x2b30, [.sm]), (0x2b45, [.so]), (0x2b47, [.sm]),
  (0x2b4d, [.so]), (0x2b74, [.cn]), (0x2b76, [.so]), (0x2b96, [.cn]), (0x2b97, [.so]),
  (0x2c00, [.lu]), (0x2c30, [.ll]), (0x2c60, [.lu]), (0x2c61, [.ll]), (0x2c62, [.lu]),
  (0x2c65, [.ll]), (0x2c67, [.lu, .ll]), (0x2c6d, [.lu]), (0x2c71, [.ll]), (0x2c72, [.lu]),
  (0x2c73, [.ll]), (0x2c75, [.lu]), (0x2c76, [.ll]), (0x2c7c, [.lm]), (0x2c7e, [.lu]),
  (0x2c81, [.ll, .lu]), (0x2ce3, [.ll]), (0x2ce5, [.so]), (0x2ceb, [.lu, .ll]), (0x2cef, [.mn]),
  (0x2cf2, [.lu]), (0x2cf3, [.ll]), (0x2cf4, [.cn]), (0x2cf9, [.po]), (0x2cfd, [.no]),
  (0x2cfe, [.po]), (0x2d00, [.ll]), (0x2d26, [.cn]), (0x2d27, [.ll]), (0x2d28, [.cn])]

def categoryStarts8 : List (Nat × List Category) := [
  (0x2d2d, [.ll]), (0x2d2e, [.cn]), (0x2d30, [.lo]), (0x2d68, [.cn]), (0x2d6f, [.lm]),
  (0x2d70, [.po]), (0x2d71, [.cn]), (0x2d7f, [.mn]), (0x2d80, [.lo]), (0x2d97, [.cn]),
  (0x2da0, [.lo]), (0x2da7, [.cn]), (0x2da8, [.lo]), (0x2daf, [.cn]), (0x2db0, [.lo]),
  (0x2db7, [.cn]), (0x2db8, [.lo]), (0x2dbf, [.cn]), (0x2dc0, [.lo]), (0x2dc7, [.cn]),
  (0x2dc8, [.lo]), (0x2dcf, [.cn]), (0x2dd0, [.lo]), (0x2dd7, [.cn]), (0x2dd8, [.lo]),
  (0x2ddf, [.cn]), (0x2de0, [.mn]), (0x2e00, [.po]), (0x2e02, [.pi, .pf]), (0x2e06, [.po]),
  (0x2e09, [.pi]), (0x2e0a, [.pf]), (0x2e0b, [.po]), (0x2e0c, [.pi]), (0x2e0d, [.pf]),
  (0x2e0e, [.po]), (0x2e17, [.pd]), (0x2e18, [.po]), (0x2e1a, [.pd]), (0x2e1b, [.po]),
  (0x2e1c, [.pi]), (0x2e1d, [.pf]), (0x2e1e, [.po]), (0x2e20, [.pi]), (0x2e21, [.pf]),
  (0x2e22, [.ps, .pe]), (0x2e2a, [.po]), (0x2e2f, [.lm]), (0x2e30, [.po]), (0x2e3a, [.pd]),
  (0x2e3c, [.po]), (0x2e40, [.pd]), (0x2e41, [.po]), (0x2e42, [.ps]), (0x2e43, [.po]),
  (0x2e50, [.so]), (0x2e52, [.po]), (0x2e55, [.ps, .pe]), (0x2e5d, [.pd]), (0x2e5e, [.cn]),
  (0x2e80, [.so]), (0x2e9a, [.cn]), (0x2e9b, [.so]), (0x2ef4, [.cn]), (0x2f00, [.so]),
  (0x2fd6, [.cn]), (0x2ff0, [.so]), (0x3000, [.zs]), (0x3001, [.po]), (0x3004, [.so]),
  (0x3005, [.lm]), (0x3006, [.lo]), (0x3007, [.nl]), (0x3008, [.ps, .pe]), (0x3012, [.so]),
  (0x3014, [.ps, .pe]), (0x301c, [.pd]), (0x301d, [.ps]), (0x301e, [.pe]), (0x3020, [.so]),
  (0x3021, [.nl]), (0x302a, [.mn]), (0x302e, [.mc]), (0x3030, [.pd]), (0x3031, [.lm]),
  (0x3036, [.so]), (0x3038, [.nl]), (0x303b, [.lm]), (0x303c, [.lo]), (0x303d, [.po]),
  (0x303e, [.so]), (0x3040, [.cn]), (0x3041, [.lo]), (0x3097, [.cn]), (0x3099, [.mn]),
  (0x309b, [.sk]), (0x309d, [.lm]), (0x309f, [.lo]), (0x30a0, [.pd]), (0x30a1, [.lo]),
  (0x30fb, [.po]), (0x30fc, [.lm]), (0x30ff, [.lo]), (0x3100, [.cn]), (0x3105, [.lo]),
  (0x3130, [.cn]), (0x3131, [.lo]), (0x318f, [.cn]), (0x3190, [.so]), (0x3192, [.no]),
  (0x3196, [.so]), (0x31a0, [.lo]), (0x31c0, [.so]), (0x31e6, [.cn]), (0x31ef, [.so]),
  (0x31f0, [.lo]), (0x3200, [.so]), (0x321f, [.cn]), (0x3220, [.no]), (0x322a, [.so]),
  (0x3248, [.no]), (0x3250, [.so]), (0x3251, [.no]), (0x3260, [.so]), (0x3280, [.no]),
  (0x328a, [.so]), (0x32b1, [.no]), (0x32c0, [.so]), (0x3400, [.lo]), (0x4dc0, [.so]),
  (0x4e00, [.lo]), (0xa015, [.lm]), (0xa016, [.lo]), (0xa48d, [.cn]), (0xa490, [.so]),
  (0xa4c7, [.cn]), (0xa4d0, [.lo]), (0xa4f8, [.lm]), (0xa4fe, [.po]), (0xa500, [.lo]),
  (0xa60c, [.lm]), (0xa60d, [.po]), (0xa610, [.lo]), (0xa620, [.nd]), (0xa62a, [.lo]),
  (0xa62c, [.cn]), (0xa640, [.lu, .ll]), (0xa66e, [.lo]), (0xa66f, [.mn]), (0xa670, [.me]),
  (0xa673, [.po]), (0xa674, [.mn]), (0xa67e, [.po]), (0xa67f, [.lm]), (0xa680, [.lu, .ll]),
  (0xa69c, [.lm]), (0xa69e, [.mn]), (0xa6a0, [.lo]), (0xa6e6, [.nl]), (0xa6f0, [.mn]),
  (0xa6f2, [.po]), (0xa6f8, [.cn]), (0xa700, [.sk]), (0xa717, [.lm]), (0xa720, [.sk]),
  (0xa722, [.lu, .ll]), (0xa72f, [.ll]), (0xa732, [.lu, .ll]), (0xa770, [.lm]), (0xa771, [.ll]),
  (0xa779, [.lu, .ll]), (0xa77d, [.lu]), (0xa77f, [.ll, .lu]), (0xa788, [.lm]), (0xa789, [.sk]),
  (0xa78b, [.lu, .ll]), (0xa78f, [.lo]), (0xa790, [.lu, .ll]), (0xa793, [.ll]),
  (0xa796, [.lu, .ll])]

def categoryStarts9 : List (Nat × List Category) := [
  (0xa7aa, [.lu]), (0xa7af, [.ll]), (0xa7b0, [.lu]), (0xa7b5, [.ll, .lu]), (0xa7c4, [.lu]),
  (0xa7c8, [.ll, .lu]), (0xa7cb, [.lu]), (0xa7cd, [.ll]), (0xa7ce, [.cn]), (0xa7d0, [.lu]),
  (0xa7d1, [.ll, .cn]), (0xa7d6, [.lu, .ll]), (0xa7dd, [.cn]), (0xa7f2, [.lm]), (0xa7f5, [.lu]),
  (0xa7f6, [.ll]), (0xa7f7, [.lo]), (0xa7f8, [.lm]), (0xa7fa, [.ll]), (0xa7fb, [.lo]),
  (0xa802, [.mn]), (0xa803, [.lo]), (0xa806, [.mn]), (0xa807, [.lo]), (0xa80b, [.mn]),
  (0xa80c, [.lo]), (0xa823, [.mc]), (0xa825, [.mn]), (0xa827, [.mc]), (0xa828, [.so]),
  (0xa82c, [.mn]), (0xa82d, [.cn]), (0xa830, [.no]), (0xa836, [.so]), (0xa838, [.sc]),
  (0xa839, [.so]), (0xa83a, [.cn]), (0xa840, [.lo]), (0xa874, [.po]), (0xa878, [.cn]),
  (0xa880, [.mc]), (0xa882, [.lo]), (0xa8b4, [.mc]), (0xa8c4, [.mn]), (0xa8c6, [.cn]),
  (0xa8ce, [.po]), (0xa8d0, [.nd]), (0xa8da, [.cn]), (0xa8e0, [.mn]), (0xa8f2, [.lo]),
  (0xa8f8, [.po]), (0xa8fb, [.lo]), (0xa8fc, [.po]), (0xa8fd, [.lo]), (0xa8ff, [.mn]),
  (0xa900, [.nd]), (0xa90a, [.lo]), (0xa926, [.mn]), (0xa92e, [.po]), (0xa930, [.lo]),
  (0xa947, [.mn]), (0xa952, [.mc]), (0xa954, [.cn]), (0xa95f, [.po]), (0xa960, [.lo]),
  (0xa97d, [.cn]), (0xa980, [.mn]), (0xa983, [.mc]), (0xa984, [.lo]), (0xa9b3, [.mn]),
  (0xa9b4, [.mc]), (0xa9b6, [.mn]), (0xa9ba, [.mc]), (0xa9bc, [.mn]), (0xa9be, [.mc]),
  (0xa9c1, [.po]), (0xa9ce, [.cn]), (0xa9cf, [.lm]), (0xa9d0, [.nd]), (0xa9da, [.cn]),
  (0xa9de, [.po]), (0xa9e0, [.lo]), (0xa9e5, [.mn]), (0xa9e6, [.lm]), (0xa9e7, [.lo]),
  (0xa9f0, [.nd]), (0xa9fa, [.lo]), (0xa9ff, [.cn]), (0xaa00, [.lo]), (0xaa29, [.mn]),
  (0xaa2f, [.mc]), (0xaa31, [.mn]), (0xaa33, [.mc]), (0xaa35, [.mn]), (0xaa37, [.cn]),
  (0xaa40, [.lo]), (0xaa43, [.mn]), (0xaa44, [.lo]), (0xaa4c, [.mn]), (0xaa4d, [.mc]),
  (0xaa4e, [.cn]), (0xaa50, [.nd]), (0xaa5a, [.cn]), (0xaa5c, [.po]), (0xaa60, [.lo]),
  (0xaa70, [.lm]), (0xaa71, [.lo]), (0xaa77, [.so]), (0xaa7a, [.lo]), (0xaa7b, [.mc, .mn]),
  (0xaa7e, [.lo]), (0xaab0, [.mn]), (0xaab1, [.lo]), (0xaab2, [.mn]), (0xaab5, [.lo]),
  (0xaab7, [.mn]), (0xaab9, [.lo]), (0xaabe, [.mn]), (0xaac0, [.lo, .mn]), (0xaac3, [.cn]),
  (0xaadb, [.lo]), (0xaadd, [.lm]), (0xaade, [.po]), (0xaae0, [.lo]), (0xaaeb, [.mc]),
  (0xaaec, [.mn]), (0xaaee, [.mc]), (0xaaf0, [.po]), (0xaaf2, [.lo]), (0xaaf3, [.lm]),
  (0xaaf5, [.mc]), (0xaaf6, [.mn]), (0xaaf7, [.cn]), (0xab01, [.lo]), (0xab07, [.cn]),
  (0xab09, [.lo]), (0xab0f, [.cn]), (0xab11, [.lo]), (0xab17, [.cn]), (0xab20, [.lo]),
  (0xab27, [.cn]), (0xab28, [.lo]), (0xab2f, [.cn]), (0xab30, [.ll]), (0xab5b, [.sk]),
  (0xab5c, [.lm]), (0xab60, [.ll]), (0xab69, [.lm]), (0xab6a, [.sk]), (0xab6c, [.cn]),
  (0xab70, [.ll]), (0xabc0, [.lo]), (0xabe3, [.mc]), (0xabe5, [.mn]), (0xabe6, [.mc]),
  (0xabe8, [.mn]), (0xabe9, [.mc]), (0xabeb, [.po]), (0xabec, [.mc]), (0xabed, [.mn]),
  (0xabee, [.cn]), (0xabf0, [.nd]), (0xabfa, [.cn]), (0xac00, [.lo]), (0xd7a4, [.cn]),
  (0xd7b0, [.lo]), (0xd7c7, [.cn]), (0xd7cb, [.lo]), (0xd7fc, [.cn]), (0xd800, [.cs]),
  (0xe000, [.co]), (0xf900, [.lo]), (0xfa6e, [.cn]), (0xfa70, [.lo]), (0xfada, [.cn]),
  (0xfb00, [.ll]), (0xfb07, [.cn]), (0xfb13, [.ll]), (0xfb18, [.cn]), (0xfb1d, [.lo])]

def categoryStarts10 : List (Nat × List Category) := [
  (0xfb1e, [.mn]), (0xfb1f, [.lo]), (0xfb29, [.sm]), (0xfb2a, [.lo]), (0xfb37, [.cn]),
  (0xfb38, [.lo]), (0xfb3d, [.cn, .lo]), (0xfb40, [.lo]), (0xfb42, [.cn]), (0xfb43, [.lo]),
  (0xfb45, [.cn]), (0xfb46, [.lo]), (0xfbb2, [.sk]), (0xfbc3, [.cn]), (0xfbd3, [.lo]),
  (0xfd3e, [.pe]), (0xfd3f, [.ps]), (0xfd40, [.so]), (0xfd50, [.lo]), (0xfd90, [.cn]),
  (0xfd92, [.lo]), (0xfdc8, [.cn]), (0xfdcf, [.so]), (0xfdd0, [.cn]), (0xfdf0, [.lo]),
  (0xfdfc, [.sc]), (0xfdfd, [.so]), (0xfe00, [.mn]), (0xfe10, [.po]), (0xfe17, [.ps]),
  (0xfe18, [.pe]), (0xfe19, [.po]), (0xfe1a, [.cn]), (0xfe20, [.mn]), (0xfe30, [.po]),
  (0xfe31, [.pd]), (0xfe33, [.pc]), (0xfe35, [.ps, .pe]), (0xfe45, [.po]), (0xfe47, [.ps]),
  (0xfe48, [.pe]), (0xfe49, [.po]), (0xfe4d, [.pc]), (0xfe50, [.po]), (0xfe53, [.cn]),
  (0xfe54, [.po]), (0xfe58, [.pd]), (0xfe59, [.ps, .pe]), (0xfe5f, [.po]), (0xfe62, [.sm]),
  (0xfe63, [.pd]), (0xfe64, [.sm]), (0xfe67, [.cn]), (0xfe68, [.po]), (0xfe69, [.sc]),
  (0xfe6a, [.po]), (0xfe6c, [.cn]), (0xfe70, [.lo]), (0xfe75, [.cn]), (0xfe76, [.lo]),
  (0xfefd, [.cn]), (0xfeff, [.cf]), (0xff00, [.cn]), (0xff01, [.po]), (0xff04, [.sc]),
  (0xff05, [.po]), (0xff08, [.ps]), (0xff09, [.pe]), (0xff0a, [.po, .sm]), (0xff0d, [.pd]),
  (0xff0e, [.po]), (0xff10, [.nd]), (0xff1a, [.po]), (0xff1c, [.sm]), (0xff1f, [.po]),
  (0xff21, [.lu]), (0xff3b, [.ps]), (0xff3c, [.po]), (0xff3d, [.pe]), (0xff3e, [.sk, .pc]),
  (0xff41, [.ll]), (0xff5b, [.ps]), (0xff5c, [.sm, .pe]), (0xff5f, [.ps]), (0xff60, [.pe]),
  (0xff61, [.po]), (0xff62, [.ps]), (0xff63, [.pe]), (0xff64, [.po]), (0xff66, [.lo]),
  (0xff70, [.lm]), (0xff71, [.lo]), (0xff9e, [.lm]), (0xffa0, [.lo]), (0xffbf, [.cn]),
  (0xffc2, [.lo]), (0xffc8, [.cn]), (0xffca, [.lo]), (0xffd0, [.cn]), (0xffd2, [.lo]),
  (0xffd8, [.cn]), (0xffda, [.lo]), (0xffdd, [.cn]), (0xffe0, [.sc]), (0xffe2, [.sm]),
  (0xffe3, [.sk]), (0xffe4, [.so]), (0xffe5, [.sc]), (0xffe7, [.cn]), (0xffe8, [.so]),
  (0xffe9, [.sm]), (0xffed, [.so]), (0xffef, [.cn]), (0xfff9, [.cf]), (0xfffc, [.so]),
  (0xfffe, [.cn]), (0x10000, [.lo]), (0x1000c, [.cn]), (0x1000d, [.lo]), (0x10027, [.cn]),
  (0x10028, [.lo]), (0x1003b, [.cn]), (0x1003c, [.lo]), (0x1003e, [.cn]), (0x1003f, [.lo]),
  (0x1004e, [.cn]), (0x10050, [.lo]), (0x1005e, [.cn]), (0x10080, [.lo]), (0x100fb, [.cn]),
  (0x10100, [.po]), (0x10103, [.cn]), (0x10107, [.no]), (0x10134, [.cn]), (0x10137, [.so]),
  (0x10140, [.nl]), (0x10175, [.no]), (0x10179, [.so]), (0x1018a, [.no]), (0x1018c, [.so]),
  (0x1018f, [.cn]), (0x10190, [.so]), (0x1019d, [.cn]), (0x101a0, [.so]), (0x101a1, [.cn]),
  (0x101d0, [.so]), (0x101fd, [.mn]), (0x101fe, [.cn]), (0x10280, [.lo]), (0x1029d, [.cn]),
  (0x102a0, [.lo]), (0x102d1, [.cn]), (0x102e0, [.mn]), (0x102e1, [.no]), (0x102fc, [.cn]),
  (0x10300, [.lo]), (0x10320, [.no]), (0x10324, [.cn]), (0x1032d, [.lo]), (0x10341, [.nl]),
  (0x10342, [.lo]), (0x1034a, [.nl]), (0x1034b, [.cn]), (0x10350, [.lo]), (0x10376, [.mn]),
  (0x1037b, [.cn]), (0x10380, [.lo]), (0x1039e, [.cn]), (0x1039f, [.po]), (0x103a0, [.lo]),
  (0x103c4, [.cn]), (0x103c8, [.lo]), (0x103d0, [.po]), (0x103d1, [.nl]), (0x103d6, [.cn]),
  (0x10400, [.lu]), (0x10428, [.ll]), (0x10450, [.lo]), (0x1049e, [.cn]), (0x104a0, [.nd])]

def categoryStarts11 : List (Nat × List Category) := [
  (0x104aa, [.cn]), (0x104b0, [.lu]), (0x104d4, [.cn]), (0x104d8, [.ll]), (0x104fc, [.cn]),
  (0x10500, [.lo]), (0x10528, [.cn]), (0x10530, [.lo]), (0x10564, [.cn]), (0x1056f, [.po]),
  (0x10570, [.lu]), (0x1057b, [.cn]), (0x1057c, [.lu]), (0x1058b, [.cn]), (0x1058c, [.lu]),
  (0x10593, [.cn]), (0x10594, [.lu]), (0x10596, [.cn]), (0x10597, [.ll]), (0x105a2, [.cn]),
  (0x105a3, [.ll]), (0x105b2, [.cn]), (0x105b3, [.ll]), (0x105ba, [.cn]), (0x105bb, [.ll]),
  (0x105bd, [.cn]), (0x105c0, [.lo]), (0x105f4, [.cn]), (0x10600, [.lo]), (0x10737, [.cn]),
  (0x10740, [.lo]), (0x10756, [.cn]), (0x10760, [.lo]), (0x10768, [.cn]), (0x10780, [.lm]),
  (0x10786, [.cn]), (0x10787, [.lm]), (0x107b1, [.cn]), (0x107b2, [.lm]), (0x107bb, [.cn]),
  (0x10800, [.lo]), (0x10806, [.cn]), (0x10808, [.lo]), (0x10809, [.cn]), (0x1080a, [.lo]),
  (0x10836, [.cn]), (0x10837, [.lo]), (0x10839, [.cn]), (0x1083c, [.lo]), (0x1083d, [.cn]),
  (0x1083f, [.lo]), (0x10856, [.cn]), (0x10857, [.po]), (0x10858, [.no]), (0x10860, [.lo]),
  (0x10877, [.so]), (0x10879, [.no]), (0x10880, [.lo]), (0x1089f, [.cn]), (0x108a7, [.no]),
  (0x108b0, [.cn]), (0x108e0, [.lo]), (0x108f3, [.cn]), (0x108f4, [.lo]), (0x108f6, [.cn]),
  (0x108fb, [.no]), (0x10900, [.lo]), (0x10916, [.no]), (0x1091c, [.cn]), (0x1091f, [.po]),
  (0x10920, [.lo]), (0x1093a, [.cn]), (0x1093f, [.po]), (0x10940, [.cn]), (0x10980, [.lo]),
  (0x109b8, [.cn]), (0x109bc, [.no]), (0x109be, [.lo]), (0x109c0, [.no]), (0x109d0, [.cn]),
  (0x109d2, [.no]), (0x10a00, [.lo]), (0x10a01, [.mn]), (0x10a04, [.cn]), (0x10a05, [.mn]),
  (0x10a07, [.cn]), (0x10a0c, [.mn]), (0x10a10, [.lo]), (0x10a14, [.cn]), (0x10a15, [.lo]),
  (0x10a18, [.cn]), (0x10a19, [.lo]), (0x10a36, [.cn]), (0x10a38, [.mn]), (0x10a3b, [.cn]),
  (0x10a3f, [.mn]), (0x10a40, [.no]), (0x10a49, [.cn]), (0x10a50, [.po]), (0x10a59, [.cn]),
  (0x10a60, [.lo]), (0x10a7d, [.no]), (0x10a7f, [.po]), (0x10a80, [.lo]), (0x10a9d, [.no]),
  (0x10aa0, [.cn]), (0x10ac0, [.lo]), (0x10ac8, [.so]), (0x10ac9, [.lo]), (0x10ae5, [.mn]),
  (0x10ae7, [.cn]), (0x10aeb, [.no]), (0x10af0, [.po]), (0x10af7, [.cn]), (0x10b00, [.lo]),
  (0x10b36, [.cn]), (0x10b39, [.po]), (0x10b40, [.lo]), (0x10b56, [.cn]), (0x10b58, [.no]),
  (0x10b60, [.lo]), (0x10b73, [.cn]), (0x10b78, [.no]), (0x10b80, [.lo]), (0x10b92, [.cn]),
  (0x10b99, [.po]), (0x10b9d, [.cn]), (0x10ba9, [.no]), (0x10bb0, [.cn]), (0x10c00, [.lo]),
  (0x10c49, [.cn]), (0x10c80, [.lu]), (0x10cb3, [.cn]), (0x10cc0, [.ll]), (0x10cf3, [.cn]),
  (0x10cfa, [.no]), (0x10d00, [.lo]), (0x10d24, [.mn]), (0x10d28, [.cn]), (0x10d30, [.nd]),
  (0x10d3a, [.cn]), (0x10d40, [.nd]), (0x10d4a, [.lo]), (0x10d4e, [.lm]), (0x10d4f, [.lo]),
  (0x10d50, [.lu]), (0x10d66, [.cn]), (0x10d69, [.mn]), (0x10d6e, [.pd]), (0x10d6f, [.lm]),
  (0x10d70, [.ll]), (0x10d86, [.cn]), (0x10d8e, [.sm]), (0x10d90, [.cn]), (0x10e60, [.no]),
  (0x10e7f, [.cn]), (0x10e80, [.lo]), (0x10eaa, [.cn]), (0x10eab, [.mn]), (0x10ead, [.pd]),
  (0x10eae, [.cn]), (0x10eb0, [.lo]), (0x10eb2, [.cn]), (0x10ec2, [.lo]), (0x10ec5, [.cn]),
  (0x10efc, [.mn]), (0x10f00, [.lo]), (0x10f1d, [.no]), (0x10f27, [.lo]), (0x10f28, [.cn]),
  (0x10f30, [.lo]), (0x10f46, [.mn]), (0x10f51, [.no]), (0x10f55, [.po]), (0x10f5a, [.cn]),
  (0x10f70, [.lo]), (0x10f82, [.mn]), (0x10f86, [.po]), (0x10f8a, [.cn]), (0x10fb0, [.lo])]

def categoryStarts12 : List (Nat × List Category) := [
  (0x10fc5, [.no]), (0x10fcc, [.cn]), (0x10fe0, [.lo]), (0x10ff7, [.cn]), (0x11000, [.mc, .mn]),
  (0x11003, [.lo]), (0x11038, [.mn]), (0x11047, [.po]), (0x1104e, [.cn]), (0x11052, [.no]),
  (0x11066, [.nd]), (0x11070, [.mn]), (0x11071, [.lo]), (0x11073, [.mn]), (0x11075, [.lo]),
  (0x11076, [.cn]), (0x1107f, [.mn]), (0x11082, [.mc]), (0x11083, [.lo]), (0x110b0, [.mc]),
  (0x110b3, [.mn]), (0x110b7, [.mc]), (0x110b9, [.mn]), (0x110bb, [.po]), (0x110bd, [.cf]),
  (0x110be, [.po]), (0x110c2, [.mn]), (0x110c3, [.cn]), (0x110cd, [.cf]), (0x110ce, [.cn]),
  (0x110d0, [.lo]), (0x110e9, [.cn]), (0x110f0, [.nd]), (0x110fa, [.cn]), (0x11100, [.mn]),
  (0x11103, [.lo]), (0x11127, [.mn]), (0x1112c, [.mc]), (0x1112d, [.mn]), (0x11135, [.cn]),
  (0x11136, [.nd]), (0x11140, [.po]), (0x11144, [.lo]), (0x11145, [.mc]), (0x11147, [.lo]),
  (0x11148, [.cn]), (0x11150, [.lo]), (0x11173, [.mn]), (0x11174, [.po]), (0x11176, [.lo]),
  (0x11177, [.cn]), (0x11180, [.mn]), (0x11182, [.mc]), (0x11183, [.lo]), (0x111b3, [.mc]),
  (0x111b6, [.mn]), (0x111bf, [.mc]), (0x111c1, [.lo]), (0x111c5, [.po]), (0x111c9, [.mn]),
  (0x111cd, [.po]), (0x111ce, [.mc]), (0x111cf, [.mn]), (0x111d0, [.nd]), (0x111da, [.lo, .po]),
  (0x111dd, [.po]), (0x111e0, [.cn]), (0x111e1, [.no]), (0x111f5, [.cn]), (0x11200, [.lo]),
  (0x11212, [.cn]), (0x11213, [.lo]), (0x1122c, [.mc]), (0x1122f, [.mn]), (0x11232, [.mc]),
  (0x11234, [.mn]), (0x11235, [.mc]), (0x11236, [.mn]), (0x11238, [.po]), (0x1123e, [.mn]),
  (0x1123f, [.lo]), (0x11241, [.mn]), (0x11242, [.cn]), (0x11280, [.lo]), (0x11287, [.cn, .lo]),
  (0x1128a, [.lo]), (0x1128e, [.cn]), (0x1128f, [.lo]), (0x1129e, [.cn]), (0x1129f, [.lo]),
  (0x112a9, [.po]), (0x112aa, [.cn]), (0x112b0, [.lo]), (0x112df, [.mn]), (0x112e0, [.mc]),
  (0x112e3, [.mn]), (0x112eb, [.cn]), (0x112f0, [.nd]), (0x112fa, [.cn]), (0x11300, [.mn]),
  (0x11302, [.mc]), (0x11304, [.cn]), (0x11305, [.lo]), (0x1130d, [.cn]), (0x1130f, [.lo]),
  (0x11311, [.cn]), (0x11313, [.lo]), (0x11329, [.cn]), (0x1132a, [.lo]), (0x11331, [.cn]),
  (0x11332, [.lo]), (0x11334, [.cn]), (0x11335, [.lo]), (0x1133a, [.cn]), (0x1133b, [.mn]),
  (0x1133d, [.lo]), (0x1133e, [.mc]), (0x11340, [.mn]), (0x11341, [.mc]), (0x11345, [.cn]),
  (0x11347, [.mc]), (0x11349, [.cn]), (0x1134b, [.mc]), (0x1134e, [.cn]), (0x11350, [.lo]),
  (0x11351, [.cn]), (0x11357, [.mc]), (0x11358, [.cn]), (0x1135d, [.lo]), (0x11362, [.mc]),
  (0x11364, [.cn]), (0x11366, [.mn]), (0x1136d, [.cn]), (0x11370, [.mn]), (0x11375, [.cn]),
  (0x11380, [.lo]), (0x1138a, [.cn]), (0x1138b, [.lo]), (0x1138c, [.cn]), (0x1138e, [.lo]),
  (0x1138f, [.cn]), (0x11390, [.lo]), (0x113b6, [.cn]), (0x113b7, [.lo]), (0x113b8, [.mc]),
  (0x113bb, [.mn]), (0x113c1, [.cn]), (0x113c2, [.mc]), (0x113c3, [.cn]), (0x113c5, [.mc]),
  (0x113c6, [.cn]), (0x113c7, [.mc]), (0x113cb, [.cn]), (0x113cc, [.mc]), (0x113ce, [.mn, .mc]),
  (0x113d1, [.lo, .mn]), (0x113d4, [.po]), (0x113d6, [.cn]), (0x113d7, [.po]), (0x113d9, [.cn]),
  (0x113e1, [.mn]), (0x113e3, [.cn]), (0x11400, [.lo]), (0x11435, [.mc]), (0x11438, [.mn]),
  (0x11440, [.mc]), (0x11442, [.mn]), (0x11445, [.mc]), (0x11446, [.mn]), (0x11447, [.lo]),
  (0x1144b, [.po]), (0x11450, [.nd]), (0x1145a, [.po]), (0x1145c, [.cn]), (0x1145d, [.po]),
  (0x1145e, [.mn]), (0x1145f, [.lo]), (0x11462, [.cn]), (0x11480, [.lo]), (0x114b0, [.mc])]

def categoryStarts13 : List (Nat × List Category) := [
  (0x114b3, [.mn]), (0x114b9, [.mc]), (0x114ba, [.mn]), (0x114bb, [.mc]), (0x114bf, [.mn]),
  (0x114c1, [.mc]), (0x114c2, [.mn]), (0x114c4, [.lo]), (0x114c6, [.po]), (0x114c7, [.lo]),
  (0x114c8, [.cn]), (0x114d0, [.nd]), (0x114da, [.cn]), (0x11580, [.lo]), (0x115af, [.mc]),
  (0x115b2, [.mn]), (0x115b6, [.cn]), (0x115b8, [.mc]), (0x115bc, [.mn]), (0x115be, [.mc]),
  (0x115bf, [.mn]), (0x115c1, [.po]), (0x115d8, [.lo]), (0x115dc, [.mn]), (0x115de, [.cn]),
  (0x11600, [.lo]), (0x11630, [.mc]), (0x11633, [.mn]), (0x1163b, [.mc]), (0x1163d, [.mn]),
  (0x1163e, [.mc]), (0x1163f, [.mn]), (0x11641, [.po]), (0x11644, [.lo]), (0x11645, [.cn]),
  (0x11650, [.nd]), (0x1165a, [.cn]), (0x11660, [.po]), (0x1166d, [.cn]), (0x11680, [.lo]),
  (0x116ab, [.mn, .mc]), (0x116ae, [.mc]), (0x116b0, [.mn]), (0x116b6, [.mc]), (0x116b7, [.mn]),
  (0x116b8, [.lo]), (0x116b9, [.po]), (0x116ba, [.cn]), (0x116c0, [.nd]), (0x116ca, [.cn]),
  (0x116d0, [.nd]), (0x116e4, [.cn]), (0x11700, [.lo]), (0x1171b, [.cn]), (0x1171d, [.mn, .mc]),
  (0x11720, [.mc]), (0x11722, [.mn]), (0x11726, [.mc]), (0x11727, [.mn]), (0x1172c, [.cn]),
  (0x11730, [.nd]), (0x1173a, [.no]), (0x1173c, [.po]), (0x1173f, [.so]), (0x11740, [.lo]),
  (0x11747, [.cn]), (0x11800, [.lo]), (0x1182c, [.mc]), (0x1182f, [.mn]), (0x11838, [.mc]),
  (0x11839, [.mn]), (0x1183b, [.po]), (0x1183c, [.cn]), (0x118a0, [.lu]), (0x118c0, [.ll]),
  (0x118e0, [.nd]), (0x118ea, [.no]), (0x118f3, [.cn]), (0x118ff, [.lo]), (0x11907, [.cn]),
  (0x11909, [.lo]), (0x1190a, [.cn]), (0x1190c, [.lo]), (0x11914, [.cn]), (0x11915, [.lo]),
  (0x11917, [.cn]), (0x11918, [.lo]), (0x11930, [.mc]), (0x11936, [.cn]), (0x11937, [.mc]),
  (0x11939, [.cn]), (0x1193b, [.mn]), (0x1193d, [.mc]), (0x1193e, [.mn]), (0x1193f, [.lo, .mc]),
  (0x11943, [.mn]), (0x11944, [.po]), (0x11947, [.cn]), (0x11950, [.nd]), (0x1195a, [.cn]),
  (0x119a0, [.lo]), (0x119a8, [.cn]), (0x119aa, [.lo]), (0x119d1, [.mc]), (0x119d4, [.mn]),
  (0x119d8, [.cn]), (0x119da, [.mn]), (0x119dc, [.mc]), (0x119e0, [.mn]), (0x119e1, [.lo, .po]),
  (0x119e4, [.mc]), (0x119e5, [.cn]), (0x11a00, [.lo]), (0x11a01, [.mn]), (0x11a0b, [.lo]),
  (0x11a33, [.mn]), (0x11a39, [.mc]), (0x11a3a, [.lo]), (0x11a3b, [.mn]), (0x11a3f, [.po]),
  (0x11a47, [.mn]), (0x11a48, [.cn]), (0x11a50, [.lo]), (0x11a51, [.mn]), (0x11a57, [.mc]),
  (0x11a59, [.mn]), (0x11a5c, [.lo]), (0x11a8a, [.mn]), (0x11a97, [.mc]), (0x11a98, [.mn]),
  (0x11a9a, [.po]), (0x11a9d, [.lo]), (0x11a9e, [.po]), (0x11aa3, [.cn]), (0x11ab0, [.lo]),
  (0x11af9, [.cn]), (0x11b00, [.po]), (0x11b0a, [.cn]), (0x11bc0, [.lo]), (0x11be1, [.po]),
  (0x11be2, [.cn]), (0x11bf0, [.nd]), (0x11bfa, [.cn]), (0x11c00, [.lo]), (0x11c09, [.cn]),
  (0x11c0a, [.lo]), (0x11c2f, [.mc]), (0x11c30, [.mn]), (0x11c37, [.cn]), (0x11c38, [.mn]),
  (0x11c3e, [.mc]), (0x11c3f, [.mn]), (0x11c40, [.lo]), (0x11c41, [.po]), (0x11c46, [.cn]),
  (0x11c50, [.nd]), (0x11c5a, [.no]), (0x11c6d, [.cn]), (0x11c70, [.po]), (0x11c72, [.lo]),
  (0x11c90, [.cn]), (0x11c92, [.mn]), (0x11ca8, [.cn]), (0x11ca9, [.mc]), (0x11caa, [.mn]),
  (0x11cb1, [.mc]), (0x11cb2, [.mn]), (0x11cb4, [.mc]), (0x11cb5, [.mn]), (0x11cb7, [.cn]),
  (0x11d00, [.lo]), (0x11d07, [.cn]), (0x11d08, [.lo]), (0x11d0a, [.cn]), (0x11d0b, [.lo]),
  (0x11d31, [.mn]), (0x11d37, [.cn]), (0x11d3a, [.mn]), (0x11d3b, [.cn]), (0x11d3c, [.mn])]

def categoryStarts14 : List (Nat × List Category) := [
  (0x11d3e, [.cn]), (0x11d3f, [.mn]), (0x11d46, [.lo]), (0x11d47, [.mn]), (0x11d48, [.cn]),
  (0x11d50, [.nd]), (0x11d5a, [.cn]), (0x11d60, [.lo]), (0x11d66, [.cn]), (0x11d67, [.lo]),
  (0x11d69, [.cn]), (0x11d6a, [.lo]), (0x11d8a, [.mc]), (0x11d8f, [.cn]), (0x11d90, [.mn]),
  (0x11d92, [.cn]), (0x11d93, [.mc]), (0x11d95, [.mn, .mc]), (0x11d98, [.lo]), (0x11d99, [.cn]),
  (0x11da0, [.nd]), (0x11daa, [.cn]), (0x11ee0, [.lo]), (0x11ef3, [.mn]), (0x11ef5, [.mc]),
  (0x11ef7, [.po]), (0x11ef9, [.cn]), (0x11f00, [.mn]), (0x11f02, [.lo]), (0x11f03, [.mc]),
  (0x11f04, [.lo]), (0x11f11, [.cn]), (0x11f12, [.lo]), (0x11f34, [.mc]), (0x11f36, [.mn]),
  (0x11f3b, [.cn]), (0x11f3e, [.mc]), (0x11f40, [.mn, .mc]), (0x11f43, [.po]), (0x11f50, [.nd]),
  (0x11f5a, [.mn]), (0x11f5b, [.cn]), (0x11fb0, [.lo]), (0x11fb1, [.cn]), (0x11fc0, [.no]),
  (0x11fd5, [.so]), (0x11fdd, [.sc]), (0x11fe1, [.so]), (0x11ff2, [.cn]), (0x11fff, [.po]),
  (0x12000, [.lo]), (0x1239a, [.cn]), (0x12400, [.nl]), (0x1246f, [.cn]), (0x12470, [.po]),
  (0x12475, [.cn]), (0x12480, [.lo]), (0x12544, [.cn]), (0x12f90, [.lo]), (0x12ff1, [.po]),
  (0x12ff3, [.cn]), (0x13000, [.lo]), (0x13430, [.cf]), (0x13440, [.mn]), (0x13441, [.lo]),
  (0x13447, [.mn]), (0x13456, [.cn]), (0x13460, [.lo]), (0x143fb, [.cn]), (0x14400, [.lo]),
  (0x14647, [.cn]), (0x16100, [.lo]), (0x1611e, [.mn]), (0x1612a, [.mc]), (0x1612d, [.mn]),
  (0x16130, [.nd]), (0x1613a, [.cn]), (0x16800, [.lo]), (0x16a39, [.cn]), (0x16a40, [.lo]),
  (0x16a5f, [.cn]), (0x16a60, [.nd]), (0x16a6a, [.cn]), (0x16a6e, [.po]), (0x16a70, [.lo]),
  (0x16abf, [.cn]), (0x16ac0, [.nd]), (0x16aca, [.cn]), (0x16ad0, [.lo]), (0x16aee, [.cn]),
  (0x16af0, [.mn]), (0x16af5, [.po]), (0x16af6, [.cn]), (0x16b00, [.lo]), (0x16b30, [.mn]),
  (0x16b37, [.po]), (0x16b3c, [.so]), (0x16b40, [.lm]), (0x16b44, [.po]), (0x16b45, [.so]),
  (0x16b46, [.cn]), (0x16b50, [.nd]), (0x16b5a, [.cn]), (0x16b5b, [.no]), (0x16b62, [.cn]),
  (0x16b63, [.lo]), (0x16b78, [.cn]), (0x16b7d, [.lo]), (0x16b90, [.cn]), (0x16d40, [.lm]),
  (0x16d43, [.lo]), (0x16d6b, [.lm]), (0x16d6d, [.po]), (0x16d70, [.nd]), (0x16d7a, [.cn]),
  (0x16e40, [.lu]), (0x16e60, [.ll]), (0x16e80, [.no]), (0x16e97, [.po]), (0x16e9b, [.cn]),
  (0x16f00, [.lo]), (0x16f4b, [.cn]), (0x16f4f, [.mn]), (0x16f50, [.lo]), (0x16f51, [.mc]),
  (0x16f88, [.cn]), (0x16f8f, [.mn]), (0x16f93, [.lm]), (0x16fa0, [.cn]), (0x16fe0, [.lm]),
  (0x16fe2, [.po]), (0x16fe3, [.lm]), (0x16fe4, [.mn]), (0x16fe5, [.cn]), (0x16ff0, [.mc]),
  (0x16ff2, [.cn]), (0x17000, [.lo]), (0x187f8, [.cn]), (0x18800, [.lo]), (0x18cd6, [.cn]),
  (0x18cff, [.lo]), (0x18d09, [.cn]), (0x1aff0, [.lm]), (0x1aff4, [.cn]), (0x1aff5, [.lm]),
  (0x1affc, [.cn]), (0x1affd, [.lm]), (0x1afff, [.cn]), (0x1b000, [.lo]), (0x1b123, [.cn]),
  (0x1b132, [.lo]), (0x1b133, [.cn]), (0x1b150, [.lo]), (0x1b153, [.cn]), (0x1b155, [.lo]),
  (0x1b156, [.cn]), (0x1b164, [.lo]), (0x1b168, [.cn]), (0x1b170, [.lo]), (0x1b2fc, [.cn]),
  (0x1bc00, [.lo]), (0x1bc6b, [.cn]), (0x1bc70, [.lo]), (0x1bc7d, [.cn]), (0x1bc80, [.lo]),
  (0x1bc89, [.cn]), (0x1bc90, [.lo]), (0x1bc9a, [.cn]), (0x1bc9c, [.so]), (0x1bc9d, [.mn]),
  (0x1bc9f, [.po]), (0x1bca0, [.cf]), (0x1bca4, [.cn]), (0x1cc00, [.so]), (0x1ccf0, [.nd]),
  (0x1ccfa, [.cn]), (0x1cd00, [.so]), (0x1ceb4, [.cn]), (0x1cf00, [.mn]), (0x1cf2e, [.cn])]

def categoryStarts15 : List (Nat × List Category) := [
  (0x1cf30, [.mn]), (0x1cf47, [.cn]), (0x1cf50, [.so]), (0x1cfc4, [.cn]), (0x1d000, [.so]),
  (0x1d0f6, [.cn]), (0x1d100, [.so]), (0x1d127, [.cn]), (0x1d129, [.so]), (0x1d165, [.mc]),
  (0x1d167, [.mn]), (0x1d16a, [.so]), (0x1d16d, [.mc]), (0x1d173, [.cf]), (0x1d17b, [.mn]),
  (0x1d183, [.so]), (0x1d185, [.mn]), (0x1d18c, [.so]), (0x1d1aa, [.mn]), (0x1d1ae, [.so]),
  (0x1d1eb, [.cn]), (0x1d200, [.so]), (0x1d242, [.mn]), (0x1d245, [.so]), (0x1d246, [.cn]),
  (0x1d2c0, [.no]), (0x1d2d4, [.cn]), (0x1d2e0, [.no]), (0x1d2f4, [.cn]), (0x1d300, [.so]),
  (0x1d357, [.cn]), (0x1d360, [.no]), (0x1d379, [.cn]), (0x1d400, [.lu]), (0x1d41a, [.ll]),
  (0x1d434, [.lu]), (0x1d44e, [.ll]), (0x1d455, [.cn]), (0x1d456, [.ll]), (0x1d468, [.lu]),
  (0x1d482, [.ll]), (0x1d49c, [.lu]), (0x1d49d, [.cn]), (0x1d49e, [.lu]), (0x1d4a0, [.cn]),
  (0x1d4a2, [.lu]), (0x1d4a3, [.cn]), (0x1d4a5, [.lu]), (0x1d4a7, [.cn]), (0x1d4a9, [.lu]),
  (0x1d4ad, [.cn]), (0x1d4ae, [.lu]), (0x1d4b6, [.ll]), (0x1d4ba, [.cn, .ll]), (0x1d4bd, [.ll]),
  (0x1d4c4, [.cn]), (0x1d4c5, [.ll]), (0x1d4d0, [.lu]), (0x1d4ea, [.ll]), (0x1d504, [.lu]),
  (0x1d506, [.cn]), (0x1d507, [.lu]), (0x1d50b, [.cn]), (0x1d50d, [.lu]), (0x1d515, [.cn]),
  (0x1d516, [.lu]), (0x1d51d, [.cn]), (0x1d51e, [.ll]), (0x1d538, [.lu]), (0x1d53a, [.cn]),
  (0x1d53b, [.lu]), (0x1d53f, [.cn]), (0x1d540, [.lu]), (0x1d545, [.cn]), (0x1d546, [.lu]),
  (0x1d547, [.cn]), (0x1d54a, [.lu]), (0x1d551, [.cn]), (0x1d552, [.ll]), (0x1d56c, [.lu]),
  (0x1d586, [.ll]), (0x1d5a0, [.lu]), (0x1d5ba, [.ll]), (0x1d5d4, [.lu]), (0x1d5ee, [.ll]),
  (0x1d608, [.lu]), (0x1d622, [.ll]), (0x1d63c, [.lu]), (0x1d656, [.ll]), (0x1d670, [.lu]),
  (0x1d68a, [.ll]), (0x1d6a6, [.cn]), (0x1d6a8, [.lu]), (0x1d6c1, [.sm]), (0x1d6c2, [.ll]),
  (0x1d6db, [.sm]), (0x1d6dc, [.ll]), (0x1d6e2, [.lu]), (0x1d6fb, [.sm]), (0x1d6fc, [.ll]),
  (0x1d715, [.sm]), (0x1d716, [.ll]), (0x1d71c, [.lu]), (0x1d735, [.sm]), (0x1d736, [.ll]),
  (0x1d74f, [.sm]), (0x1d750, [.ll]), (0x1d756, [.lu]), (0x1d76f, [.sm]), (0x1d770, [.ll]),
  (0x1d789, [.sm]), (0x1d78a, [.ll]), (0x1d790, [.lu]), (0x1d7a9, [.sm]), (0x1d7aa, [.ll]),
  (0x1d7c3, [.sm]), (0x1d7c4, [.ll]), (0x1d7ca, [.lu]), (0x1d7cb, [.ll]), (0x1d7cc, [.cn]),
  (0x1d7ce, [.nd]), (0x1d800, [.so]), (0x1da00, [.mn]), (0x1da37, [.so]), (0x1da3b, [.mn]),
  (0x1da6d, [.so]), (0x1da75, [.mn]), (0x1da76, [.so]), (0x1da84, [.mn]), (0x1da85, [.so]),
  (0x1da87, [.po]), (0x1da8c, [.cn]), (0x1da9b, [.mn]), (0x1daa0, [.cn]), (0x1daa1, [.mn]),
  (0x1dab0, [.cn]), (0x1df00, [.ll]), (0x1df0a, [.lo]), (0x1df0b, [.ll]), (0x1df1f, [.cn]),
  (0x1df25, [.ll]), (0x1df2b, [.cn]), (0x1e000, [.mn]), (0x1e007, [.cn]), (0x1e008, [.mn]),
  (0x1e019, [.cn]), (0x1e01b, [.mn]), (0x1e022, [.cn]), (0x1e023, [.mn]), (0x1e025, [.cn]),
  (0x1e026, [.mn]), (0x1e02b, [.cn]), (0x1e030, [.lm]), (0x1e06e, [.cn]), (0x1e08f, [.mn]),
  (0x1e090, [.cn]), (0x1e100, [.lo]), (0x1e12d, [.cn]), (0x1e130, [.mn]), (0x1e137, [.lm]),
  (0x1e13e, [.cn]), (0x1e140, [.nd]), (0x1e14a, [.cn]), (0x1e14e, [.lo]), (0x1e14f, [.so]),
  (0x1e150, [.cn]), (0x1e290, [.lo]), (0x1e2ae, [.mn]), (0x1e2af, [.cn]), (0x1e2c0, [.lo]),
  (0x1e2ec, [.mn]), (0x1e2f0, [.nd]), (0x1e2fa, [.cn]), (0x1e2ff, [.sc]), (0x1e300, [.cn]),
  (0x1e4d0, [.lo]), (0x1e4eb, [.lm]), (0x1e4ec, [.mn]), (0x1e4f0, [.nd]), (0x1e4fa, [.cn])]

def categoryStarts16 : List (Nat × List Category) := [
  (0x1e5d0, [.lo]), (0x1e5ee, [.mn]), (0x1e5f0, [.lo]), (0x1e5f1, [.nd]), (0x1e5fb, [.cn]),
  (0x1e5ff, [.po]), (0x1e600, [.cn]), (0x1e7e0, [.lo]), (0x1e7e7, [.cn]), (0x1e7e8, [.lo]),
  (0x1e7ec, [.cn]), (0x1e7ed, [.lo]), (0x1e7ef, [.cn]), (0x1e7f0, [.lo]), (0x1e7ff, [.cn]),
  (0x1e800, [.lo]), (0x1e8c5, [.cn]), (0x1e8c7, [.no]), (0x1e8d0, [.mn]), (0x1e8d7, [.cn]),
  (0x1e900, [.lu]), (0x1e922, [.ll]), (0x1e944, [.mn]), (0x1e94b, [.lm]), (0x1e94c, [.cn]),
  (0x1e950, [.nd]), (0x1e95a, [.cn]), (0x1e95e, [.po]), (0x1e960, [.cn]), (0x1ec71, [.no]),
  (0x1ecac, [.so]), (0x1ecad, [.no]), (0x1ecb0, [.sc]), (0x1ecb1, [.no]), (0x1ecb5, [.cn]),
  (0x1ed01, [.no]), (0x1ed2e, [.so]), (0x1ed2f, [.no]), (0x1ed3e, [.cn]), (0x1ee00, [.lo]),
  (0x1ee04, [.cn]), (0x1ee05, [.lo]), (0x1ee20, [.cn]), (0x1ee21, [.lo]), (0x1ee23, [.cn]),
  (0x1ee24, [.lo]), (0x1ee25, [.cn]), (0x1ee27, [.lo]), (0x1ee28, [.cn]), (0x1ee29, [.lo]),
  (0x1ee33, [.cn]), (0x1ee34, [.lo]), (0x1ee38, [.cn, .lo]), (0x1ee3c, [.cn]), (0x1ee42, [.lo]),
  (0x1ee43, [.cn]), (0x1ee47, [.lo, .cn]), (0x1ee4d, [.lo]), (0x1ee50, [.cn]), (0x1ee51, [.lo]),
  (0x1ee53, [.cn]), (0x1ee54, [.lo]), (0x1ee55, [.cn]), (0x1ee57, [.lo, .cn]), (0x1ee61, [.lo]),
  (0x1ee63, [.cn]), (0x1ee64, [.lo]), (0x1ee65, [.cn]), (0x1ee67, [.lo]), (0x1ee6b, [.cn]),
  (0x1ee6c, [.lo]), (0x1ee73, [.cn]), (0x1ee74, [.lo]), (0x1ee78, [.cn]), (0x1ee79, [.lo]),
  (0x1ee7d, [.cn, .lo]), (0x1ee80, [.lo]), (0x1ee8a, [.cn]), (0x1ee8b, [.lo]), (0x1ee9c, [.cn]),
  (0x1eea1, [.lo]), (0x1eea4, [.cn]), (0x1eea5, [.lo]), (0x1eeaa, [.cn]), (0x1eeab, [.lo]),
  (0x1eebc, [.cn]), (0x1eef0, [.sm]), (0x1eef2, [.cn]), (0x1f000, [.so]), (0x1f02c, [.cn]),
  (0x1f030, [.so]), (0x1f094, [.cn]), (0x1f0a0, [.so]), (0x1f0af, [.cn]), (0x1f0b1, [.so]),
  (0x1f0c0, [.cn]), (0x1f0c1, [.so]), (0x1f0d0, [.cn]), (0x1f0d1, [.so]), (0x1f0f6, [.cn]),
  (0x1f100, [.no]), (0x1f10d, [.so]), (0x1f1ae, [.cn]), (0x1f1e6, [.so]), (0x1f203, [.cn]),
  (0x1f210, [.so]), (0x1f23c, [.cn]), (0x1f240, [.so]), (0x1f249, [.cn]), (0x1f250, [.so]),
  (0x1f252, [.cn]), (0x1f260, [.so]), (0x1f266, [.cn]), (0x1f300, [.so]), (0x1f3fb, [.sk]),
  (0x1f400, [.so]), (0x1f6d8, [.cn]), (0x1f6dc, [.so]), (0x1f6ed, [.cn]), (0x1f6f0, [.so]),
  (0x1f6fd, [.cn]), (0x1f700, [.so]), (0x1f777, [.cn]), (0x1f77b, [.so]), (0x1f7da, [.cn]),
  (0x1f7e0, [.so]), (0x1f7ec, [.cn]), (0x1f7f0, [.so]), (0x1f7f1, [.cn]), (0x1f800, [.so]),
  (0x1f80c, [.cn]), (0x1f810, [.so]), (0x1f848, [.cn]), (0x1f850, [.so]), (0x1f85a, [.cn]),
  (0x1f860, [.so]), (0x1f888, [.cn]), (0x1f890, [.so]), (0x1f8ae, [.cn]), (0x1f8b0, [.so]),
  (0x1f8bc, [.cn]), (0x1f8c0, [.so]), (0x1f8c2, [.cn]), (0x1f900, [.so]), (0x1fa54, [.cn]),
  (0x1fa60, [.so]), (0x1fa6e, [.cn]), (0x1fa70, [.so]), (0x1fa7d, [.cn]), (0x1fa80, [.so]),
  (0x1fa8a, [.cn]), (0x1fa8f, [.so]), (0x1fac7, [.cn]), (0x1face, [.so]), (0x1fadd, [.cn]),
  (0x1fadf, [.so]), (0x1faea, [.cn]), (0x1faf0, [.so]), (0x1faf9, [.cn]), (0x1fb00, [.so]),
  (0x1fb93, [.cn]), (0x1fb94, [.so]), (0x1fbf0, [.nd]), (0x1fbfa, [.cn]), (0x20000, [.lo]),
  (0x2a6e0, [.cn]), (0x2a700, [.lo]), (0x2b73a, [.cn]), (0x2b740, [.lo]), (0x2b81e, [.cn]),
  (0x2b820, [.lo]), (0x2cea2, [.cn]), (0x2ceb0, [.lo]), (0x2ebe1, [.cn]), (0x2ebf0, [.lo]),
  (0x2ee5e, [.cn]), (0x2f800, [.lo]), (0x2fa1e, [.cn]), (0x30000, [.lo]), (0x3134b, [.cn])]

def categoryStarts17 : List (Nat × List Category) := [
  (0x31350, [.lo]), (0x323b0, [.cn]), (0xe0001, [.cf]), (0xe0002, [.cn]), (0xe0020, [.cf]),
  (0xe0080, [.cn]), (0xe0100, [.mn]), (0xe01f0, [.cn]), (0xf0000, [.co]), (0xffffe, [.cn]),
  (0x100000, [.co]), (0x10fffe, [.cn])]

-- Where the runs of characters of one category begin. In a run with two categories they alternate,
-- as capital and small letters do.
def categoryStarts : List (Nat × List Category) :=
  categoryStarts1 ++ categoryStarts2 ++ categoryStarts3 ++ categoryStarts4 ++ categoryStarts5 ++
  categoryStarts6 ++ categoryStarts7 ++ categoryStarts8 ++ categoryStarts9 ++ categoryStarts10 ++
  categoryStarts11 ++ categoryStarts12 ++ categoryStarts13 ++ categoryStarts14 ++ categoryStarts15 ++
  categoryStarts16 ++ categoryStarts17

def categoryTable : SpanTree (List Category) :=
  parts categoryStarts

def category (c : Char) : Category :=
  match categoryTable.find? c.toNat with
  | some s => s.val.getD ((c.toNat - s.lo) % s.val.length) .cn
  | none   => .cn

namespace Category

def letters : List Category :=
  [lu, ll, lt, lm, lo]

def marks : List Category :=
  [mn, mc, me]

def numbers : List Category :=
  [nd, nl, no]

def punctuation : List Category :=
  [pc, pd, ps, pe, pi, pf, po]

def symbols : List Category :=
  [sm, sc, sk, so]

def separators : List Category :=
  [zs, zl, zp]

def others : List Category :=
  [cc, cf, cs, co, cn]

def names : List (List Category × List String) := [
  (letters, ["l", "letter"]),
  ([lu, ll, lt], ["lc", "casedletter"]),
  (marks, ["m", "mark", "combiningmark"]),
  (numbers, ["n", "number"]),
  (punctuation, ["p", "punct", "punctuation"]),
  (symbols, ["s", "symbol"]),
  (separators, ["z", "separator"]),
  (others, ["c", "other"]),
  ([lu], ["lu", "uppercaseletter"]),
  ([ll], ["ll", "lowercaseletter"]),
  ([lt], ["lt", "titlecaseletter"]),
  ([lm], ["lm", "modifierletter"]),
  ([lo], ["lo", "otherletter"]),
  ([mn], ["mn", "nonspacingmark"]),
  ([mc], ["mc", "spacingmark"]),
  ([me], ["me", "enclosingmark"]),
  ([nd], ["nd", "digit", "decimalnumber"]),
  ([nl], ["nl", "letternumber"]),
  ([no], ["no", "othernumber"]),
  ([pc], ["pc", "connectorpunctuation"]),
  ([pd], ["pd", "dashpunctuation"]),
  ([ps], ["ps", "openpunctuation"]),
  ([pe], ["pe", "closepunctuation"]),
  ([pi], ["pi", "initialpunctuation"]),
  ([pf], ["pf", "finalpunctuation"]),
  ([po], ["po", "otherpunctuation"]),
  ([sm], ["sm", "mathsymbol"]),
  ([sc], ["sc", "currencysymbol"]),
  ([sk], ["sk", "modifiersymbol"]),
  ([so], ["so", "othersymbol"]),
  ([zs], ["zs", "spaceseparator"]),
  ([zl], ["zl", "lineseparator"]),
  ([zp], ["zp", "paragraphseparator"]),
  ([cc], ["cc", "cntrl", "control"]),
  ([cf], ["cf", "format"]),
  ([co], ["co", "privateuse"]),
  ([cn], ["cn", "unassigned"])]

end Category
end ExcerptSearch.Unicode
