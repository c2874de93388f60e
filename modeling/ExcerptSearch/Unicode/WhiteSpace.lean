namespace ExcerptSearch.Unicode

def isWhiteSpace (c : Char) : Bool :=
  let k := c.toNat
  (0x0009 ≤ k && k ≤ 0x000d) ||
  k == 0x0020 ||
  k == 0x0085 ||
  k == 0x00a0 ||
  k == 0x1680 ||
  (0x2000 ≤ k && k ≤ 0x200a) ||
  (0x2028 ≤ k && k ≤ 0x2029) ||
  k == 0x202f ||
  k == 0x205f ||
  k == 0x3000

end ExcerptSearch.Unicode
