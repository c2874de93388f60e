import ExcerptSearch.Text

namespace ExcerptSearch

-- The number `digits * 10 ^ exponent`.
structure Decimal where
  digits   : Nat
  exponent : Int
  deriving DecidableEq

namespace Decimal

def floatLimit : Nat :=
  (Nat.pow 2 54 - 1) * Nat.pow 2 970

-- Is the number too large for a finite floating-point number? Only where the number of digits does
-- not tell is it computed.
def exceedsFloat (d : Decimal) : Bool :=
  let size := (Nat.toDigits 10 d.digits).length + d.exponent
  if d.digits = 0 || size < 300 then false
  else if 400 < size then true
  else floatLimit * Nat.pow 10 (-d.exponent).toNat ≤ d.digits * Nat.pow 10 d.exponent.toNat

end Decimal
end ExcerptSearch
