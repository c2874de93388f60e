import ExcerptSearch.Decimal.Basic

namespace ExcerptSearch.Decimal

-- A fraction of natural numbers with the limits between which decimals read back as it. All three
-- have one denominator.
structure Target where
  low         : Nat
  value       : Nat
  high        : Nat
  denominator : Nat
  -- Do the limits themselves read back?
  closed      : Bool

-- The target for `mantissa * 2 ^ exponent`. Below a power of two the neighbour is only half as far.
def Target.ofBinary (mantissa : Nat) (exponent : Int) (powerOfTwo : Bool) : Target :=
  let up   := Nat.pow 2 (exponent - 2).toNat
  let down := Nat.pow 2 (2 - exponent).toNat
  { low := (4 * mantissa - if powerOfTwo then 1 else 2) * up
    value := 4 * mantissa * up
    high := (4 * mantissa + 2) * up
    denominator := down
    closed := decide (mantissa % 2 = 0) }

def Target.ofBits (bits : Nat) : Target :=
  let biased : Nat := bits / Nat.pow 2 52 % 2048
  let fraction     := bits % Nat.pow 2 52
  if biased == 0 then ofBinary fraction (-1074) false
  else ofBinary (Nat.pow 2 52 + fraction) ((biased : Int) - 1075) (fraction == 0 && 1 < biased)

namespace Target

def admits (t : Target) (d : Decimal) : Bool :=
  let n := d.digits * Nat.pow 10 d.exponent.toNat * t.denominator
  let s := Nat.pow 10 (-d.exponent).toNat
  if t.closed then t.low * s ≤ n && n ≤ t.high * s else t.low * s < n && n < t.high * s

def distance (t : Target) (d : Decimal) : Nat :=
  let n := d.digits * Nat.pow 10 d.exponent.toNat * t.denominator
  let s := t.value * Nat.pow 10 (-d.exponent).toNat
  if n ≤ s then s - n else n - s

def magnitude (t : Target) : Int :=
  if t.denominator ≤ t.value then (Nat.toDigits 10 (t.value / t.denominator)).length
  else -(zeros 400 t.value : Int)
where
  zeros : Nat → Nat → Nat
    | 0, _        => 0
    | fuel + 1, n => if t.denominator ≤ 10 * n then 0 else 1 + zeros fuel (10 * n)

-- The decimals with a given last place next to the target, the nearer first; of two that are
-- equally near, the even one.
def neighbours (t : Target) (exponent : Int) : List Decimal :=
  let below := t.value * Nat.pow 10 (-exponent).toNat / (t.denominator * Nat.pow 10 exponent.toNat)
  let lo : Decimal := ⟨below, exponent⟩
  let hi : Decimal := ⟨below + 1, exponent⟩
  let a := t.distance lo
  let b := t.distance hi
  if a < b || (a == b && below % 2 == 0) then [lo, hi] else [hi, lo]

def shortest (t : Target) : Decimal :=
  let grid (n : Nat) := t.neighbours (t.magnitude - 1 - n)
  ((List.range 17).findSome? fun n => (grid n).find? t.admits).getD ⟨0, 0⟩

end Target

def trimmed (d : Decimal) : Decimal :=
  go 400 d
where
  go : Nat → Decimal → Decimal
    | 0, d        => d
    | fuel + 1, d =>
      if d.digits % 10 == 0 && d.digits != 0 then go fuel ⟨d.digits / 10, d.exponent + 1⟩ else d

-- A positive decimal in writing, with at least one digit on either side of the point; in scientific
-- notation from `10 ^ 16` on and below `10 ^ -5`.
def print (d : Decimal) : Text :=
  let ds    := Text.ofNat d.digits
  let point := (ds.length : Int) + d.exponent
  if 0 ≤ d.exponent && point ≤ 16 then
    ds ++ List.replicate d.exponent.toNat '0' ++ ['.', '0']
  else if 0 < point && point ≤ 16 then ds.take point.toNat ++ ['.'] ++ ds.drop point.toNat
  else if -5 < point && point ≤ 0 then
    ['0', '.'] ++ List.replicate (-point).toNat '0' ++ ds
  else
    let e := point - 1
    ds.take 1 ++ (if ds.length ≤ 1 then [] else '.' :: ds.drop 1) ++ ['e'] ++
      (if e < 0 then ['-'] else []) ++ Text.ofNat e.natAbs

def ofFloat? (x : Float) : Option Text :=
  let bits := x.toBits.toNat
  let sign := if Nat.pow 2 63 ≤ bits then ['-'] else []
  let size := bits % Nat.pow 2 63
  if 2047 ≤ size / Nat.pow 2 52 then none
  else if size == 0 then some (sign ++ ['0', '.', '0'])
  else some (sign ++ (Target.ofBits size).shortest.trimmed.print)

end ExcerptSearch.Decimal
