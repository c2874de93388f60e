import ExcerptSearch.Unicode.SpanTree

namespace ExcerptSearch.Unicode

structure Shift where
  step   : Nat
  target : Nat

-- The spans of rows `(lo, hi, step, target)`: `lo` goes to `target`, `lo + step` to `target +
-- step`, and so on up to `hi`.
def shifts (rows : List (Nat × Nat × Nat × Nat)) : SpanTree Shift :=
  .ofList (rows.map fun (lo, hi, step, target) => ⟨lo, hi, step, target⟩)

def shift? (table : SpanTree Shift) (k : Nat) : Option Nat :=
  (table.find? k).bind fun s =>
    if (k - s.lo) % s.val.step == 0 then some (k - s.lo + s.val.target) else none

end ExcerptSearch.Unicode
