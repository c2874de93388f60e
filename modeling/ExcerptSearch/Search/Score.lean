namespace ExcerptSearch

class Score (α : Type) extends Add α, Mul α, Div α, NatCast α where
  isZero     : α → Bool
  isPositive : α → Bool
  -- The total order by which results are ranked.
  atMost     : α → α → Bool

namespace Score

variable {α : Type} [Score α]

def half : α :=
  ((1 : Nat) : α) / ((2 : Nat) : α)

def sum (l : List α) : α :=
  l.foldl (· + ·) ((0 : Nat) : α)

-- The place of a floating-point number in the total order of its bits, negative numbers first.
def floatRank (x : Float) : Nat :=
  let bits := x.toBits.toNat
  if bits < Nat.pow 2 63 then bits + Nat.pow 2 63 else Nat.pow 2 64 - 1 - bits

instance : Score Float where
  natCast    := Float.ofNat
  isZero x   := x == 0.0
  isPositive x := decide (0.0 < x)
  atMost x y := decide (floatRank x ≤ floatRank y)

instance : Score Rat where
  natCast    := fun n => (n : Rat)
  isZero x   := decide (x = 0)
  isPositive x := decide (0 < x)
  atMost x y := decide (x ≤ y)

end Score
end ExcerptSearch
