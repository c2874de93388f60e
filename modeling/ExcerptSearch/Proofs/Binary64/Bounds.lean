import ExcerptSearch.Proofs.Binary64.Arithmetic

namespace ExcerptSearch.Binary64

open Float.Model Float.Model.UnpackedFloat

section Unpacked

variable {j k l : Int} {n : Nat} {x y : Float}

def unpacked (x : Float) : UnpackedFloat :=
  x.toModel.unpack

theorem canonical_unpacked (x : Float) : Canonical (unpacked x) :=
  canonical_unpack _

theorem unpacked_one :
    unpacked (Float.ofBits 0x3FF0000000000000) = .finite .positive (2 ^ 52) (-52) (by decide) :=
  rfl

theorem normalize_natCast (hn : 0 < n) :
    normalize Format.binary64 n 0 .positive = round Format.binary64 .positive n 0 := by
  have hcompare : compare (n : Int) 0 = .gt := Int.compare_eq_gt.mpr (Int.natCast_pos.mpr hn)
  simp only [UnpackedFloat.normalize, hcompare, Int.toNat_natCast]

theorem ofNat_small (hn : 0 < n) (h : n < 2 ^ 53) : Float.ofNat n =
    .ofModel (.pack (round Format.binary64 .positive n 0)) * Float.ofBits 0x3FF0000000000000 := by
  have hmul : Float.ofNat n = n.toUInt64.toFloat * Float.ofBits 0x3FF0000000000000 :=
    dif_pos ⟨h, by decide⟩
  have hmod : n.toUInt64.toNat = n :=
    UInt64.toNat_ofNat_of_lt' (Nat.lt_trans h (by decide))
  rw [hmul, UInt64.toFloat, Float.Model.ofUInt64, UnpackedFloat.ofUInt64,
    UnpackedFloat.ofNat, UnpackedFloat.ofInt, hmod,
    normalize_natCast hn]

theorem ofNat_large (h : 2 ^ 53 ≤ n) : Float.ofNat n =
    .ofModel (.pack (roundWithAccuracy Format.binary64 .positive (n <<< 53) (-53) .exact)) := by
  have hn : n ≠ 0 := by omega
  have hmodel : Float.ofNat n = .ofModel (Float.Model.ofScientific n 0) :=
    dif_neg fun hsmall => absurd hsmall.1 (by omega)
  have hsafe : ¬(0 : Int) < -((2 : Int) ^ 11 + n.log2) := by omega
  rw [hmodel, Float.Model.ofScientific, UnpackedFloat.ofScientific, dif_neg hn, if_neg (by decide),
    if_neg hsafe, if_pos (by decide)]
  simp [mul_finite, Format.mantissaBits]

section Bounds

theorem add_atLeast_left (hx : AtLeast k (unpacked x)) (hy : NonNeg (unpacked y))
    (hk : -1074 ≤ k) : AtLeast k (unpacked (x + y)) :=
  (atLeast_add_right hx hy hk).stored
    (canonical_add hx.nonNeg hy (canonical_unpacked x) (canonical_unpacked y))

theorem add_atLeast_right (hx : NonNeg (unpacked x)) (hy : AtLeast k (unpacked y))
    (hk : -1074 ≤ k) : AtLeast k (unpacked (x + y)) :=
  (atLeast_add_left hy hx hk).stored
    (canonical_add hx hy.nonNeg (canonical_unpacked x) (canonical_unpacked y))

theorem add_below (hx : Below k (unpacked x)) (hy : Below k (unpacked y)) (hk : -1075 ≤ k)
    (hk' : k ≤ 1022) : Below (k + 2) (unpacked (x + y)) :=
  (below_add hx hy hk).stored
    (canonical_add hx.nonNeg hy.nonNeg (canonical_unpacked x) (canonical_unpacked y)) (by omega)

theorem add_below_small (hx : Below k (unpacked x)) (hy : Below (k - 54) (unpacked y))
    (hk : -1021 ≤ k) (hk' : k ≤ 1024) : Below k (unpacked (x + y)) :=
  (below_add_small hx hy (canonical_unpacked x) hk).stored
    (canonical_add hx.nonNeg hy.nonNeg (canonical_unpacked x) (canonical_unpacked y)) hk'

theorem mul_atLeast (hx : AtLeast j (unpacked x)) (hy : AtLeast k (unpacked y))
    (hjk : -1074 ≤ j + k) : AtLeast (j + k) (unpacked (x * y)) :=
  (atLeast_mul hx hy hjk).stored
    (canonical_mul hx.nonNeg hy.nonNeg (canonical_unpacked x) (canonical_unpacked y))

theorem mul_below (hx : Below j (unpacked x)) (hy : Below k (unpacked y)) (hjk : -1074 ≤ j + k)
    (hjk' : j + k ≤ 1023) : Below (j + k + 1) (unpacked (x * y)) :=
  (below_mul hx hy hjk).stored
    (canonical_mul hx.nonNeg hy.nonNeg (canonical_unpacked x) (canonical_unpacked y)) (by omega)

theorem div_below (hx : Below j (unpacked x)) (hy : AtLeast k (unpacked y)) (hjk : -1073 ≤ j - k)
    (hjk' : j - k ≤ 1023) : Below (j - k + 1) (unpacked (x / y)) :=
  (below_div hx hy hjk).stored (canonical_div hx.nonNeg hy.nonNeg) (by omega)

theorem div_atLeast {m : Nat} {e : Int} {hm : 0 < m} (hx : AtLeast j (unpacked x))
    (hy : unpacked y = .finite .positive m e hm) (hk : m.log2 + e < k) (hjk : -1074 ≤ j - k) :
    AtLeast (j - k) (unpacked (x / y)) := by
  have hdiv := atLeast_div hm hx hk hjk
  rw [← hy] at hdiv
  exact hdiv.stored (canonical_div hx.nonNeg (hy ▸ .finite hm))

end Bounds

section Natural

theorem atLeast_ofNat (hn : 0 < n) (hk : -1074 ≤ k) (h : k ≤ n.log2) :
    AtLeast k (unpacked (Float.ofNat n)) := by
  by_cases hsmall : n < 2 ^ 53
  case pos =>
    have hround : AtLeast k (unpacked (.ofModel (.pack (round Format.binary64 .positive n 0)))) :=
      (atLeast_round hn hk (by omega)).stored (canonical_round hn)
    have hone : AtLeast 0 (unpacked (Float.ofBits 0x3FF0000000000000)) :=
      unpacked_one ▸ .finite _ (by decide)
    rw [ofNat_small hn hsmall]
    exact (mul_atLeast hround hone (by omega)).mono (by omega)
  case neg =>
    have hpos := shiftLeft_pos hn 53
    have hlog := log2_shiftLeft hn 53
    rw [ofNat_large (Nat.le_of_not_lt hsmall)]
    generalize n <<< 53 = m at *
    have hround : AtLeast k (roundWithAccuracy Format.binary64 .positive m (-53) .exact) :=
      atLeast_roundWithAccuracy hpos hk (by omega)
    exact hround.stored (canonical_roundWithAccuracy (.inl (by omega)))

theorem unpacked_zero : unpacked (Float.ofNat 0) = .zero .positive :=
  rfl

theorem below_zero : Below k (unpacked (Float.ofNat 0)) :=
  unpacked_zero ▸ .zero

theorem below_ofNat {i : Nat} (h : n < 2 ^ i) (hi : i ≤ 1000) :
    Below (i + 3) (unpacked (Float.ofNat n)) := by
  by_cases hzero : n = 0
  case pos => exact hzero ▸ below_zero
  case neg =>
    have hn := Nat.pos_of_ne_zero hzero
    have hlog := (Nat.log2_lt hzero).mpr h
    by_cases hsmall : n < 2 ^ 53
    case pos =>
      have hround :
          Below (i + 1) (unpacked (.ofModel (.pack (round Format.binary64 .positive n 0)))) :=
        (below_round hn (by omega) (by omega)).stored (canonical_round hn) (by omega)
      have hone : Below 1 (unpacked (Float.ofBits 0x3FF0000000000000)) :=
        unpacked_one ▸ .finite _ (by decide)
      rw [ofNat_small hn hsmall]
      exact (mul_below hround hone (by omega) (by omega)).mono (by omega)
    case neg =>
      have hlog' := log2_shiftLeft hn 53
      rw [ofNat_large (Nat.le_of_not_lt hsmall)]
      generalize n <<< 53 = m at *
      have hround : Below (i + 1) (roundWithAccuracy Format.binary64 .positive m (-53) .exact) :=
        below_roundWithAccuracy (by omega) (by omega)
      exact (hround.stored (canonical_roundWithAccuracy (.inl (by omega))) (by omega)).mono
        (by omega)

end Natural

section Infinity

theorem pos_of_atLeast (h : AtLeast k (unpacked x)) : 0 < x := by
  have hlt : (unpacked (Float.ofNat 0)).lt (unpacked x) = true := by
    rw [unpacked_zero]
    generalize unpacked x = u at *
    cases h <;> rfl
  exact decide_eq_true hlt

theorem atLeast_of_ne_zero (h : Below k (unpacked x)) (hx : (x == 0.0) = false) :
    AtLeast (-1074) (unpacked x) := by
  have hbeq : (unpacked x).beq (unpacked 0.0) = false := hx
  have hzero : unpacked 0.0 = .zero .positive := rfl
  have hcanonical := canonical_unpacked x
  rw [hzero] at hbeq
  generalize unpacked x = u at *
  cases h with
  | zero => exact nomatch hbeq
  | finite hm =>
    have ⟨_, hmin, _⟩ := hcanonical
    exact .finite hm (by omega)

theorem isFinite_of_below (h : Below k (unpacked x)) : x.isFinite = true := by
  show (unpacked x).isFinite = true
  generalize unpacked x = u at *
  cases h <;> rfl

theorem not_isFinite_of_infinite (h : unpacked x = .infinity .positive) : x.isFinite = false := by
  show (unpacked x).isFinite = false
  exact h ▸ rfl

theorem add_infinite_left (hx : unpacked x = .infinity .positive) (hy : NonNeg (unpacked y)) :
    unpacked (x + y) = .infinity .positive := by
  show (Float.Model.pack (add _ (unpacked x) (unpacked y))).unpack = _
  rw [hx]
  generalize unpacked y = u at *
  cases hy <;> exact unpack_pack_infinity .positive

theorem add_infinite_right (hx : NonNeg (unpacked x)) (hy : unpacked y = .infinity .positive) :
    unpacked (x + y) = .infinity .positive := by
  show (Float.Model.pack (add _ (unpacked x) (unpacked y))).unpack = _
  rw [hy]
  generalize unpacked x = u at *
  cases hx <;> exact unpack_pack_infinity .positive

theorem mul_infinite_right (hx : AtLeast k (unpacked x)) (hy : unpacked y = .infinity .positive) :
    unpacked (x * y) = .infinity .positive := by
  show (Float.Model.pack (mul _ (unpacked x) (unpacked y))).unpack = _
  rw [hy]
  generalize unpacked x = u at *
  cases hx <;> exact unpack_pack_infinity .positive

end Infinity

end Unpacked

end ExcerptSearch.Binary64
