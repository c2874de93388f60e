import ExcerptSearch.Search.Score
import Mathlib

namespace ExcerptSearch.Binary64

open Float.Model Float.Model.UnpackedFloat

variable {em : ExtendedMantissa} {m n r : Nat} {e k t : Int} {a : Accuracy} {s : Sign}
  {x : UnpackedFloat}

def target (m : Nat) (e : Int) : Int :=
  max (m.log2 + e - 52) (-1074)

theorem targetExponent_eq (m : Nat) (e : Int) :
    Format.binary64.targetExponent (totalExponent m e) = target m e := by
  simp only [Format.targetExponent, totalExponent, Format.mantissaBits, Format.minExponent, target]
  omega

section Shift

theorem shiftRight_succ (em : ExtendedMantissa) (n : Nat) :
    em >>> (n + 1) = (em >>> n).shiftRightOne :=
  rfl

theorem mantissa_shiftRight (em : ExtendedMantissa) (n : Nat) :
    (em >>> n).mantissa = em.mantissa / 2 ^ n := by
  induction n with
  | zero => exact (Nat.div_one _).symm
  | succ n ih =>
    have hone : (em >>> (n + 1)).mantissa = (em >>> n).mantissa / 2 := rfl
    rw [hone, ih, Nat.div_div_eq_div_mul, Nat.pow_succ]

theorem mantissa_le_roundedMantissa (em : ExtendedMantissa) :
    em.mantissa ≤ em.roundedMantissa := by
  unfold ExtendedMantissa.roundedMantissa Accuracy.roundToNearestEven
  split <;> omega

theorem roundedMantissa_le (em : ExtendedMantissa) :
    em.roundedMantissa ≤ em.mantissa + 1 := by
  unfold ExtendedMantissa.roundedMantissa Accuracy.roundToNearestEven
  split <;> omega

theorem roundedMantissa_shiftRight_le (em : ExtendedMantissa) (n : Nat) :
    (em >>> (n + 1)).roundedMantissa ≤ (em.mantissa / 2 ^ n + 1) / 2 := by
  have hbit : (em >>> (n + 1)).roundedMantissa ≤
      (em >>> n).mantissa / 2 + (em >>> n).mantissa % 2 := by
    rw [shiftRight_succ]
    generalize em >>> n = em
    have ⟨m, b, c⟩ := em
    cases Nat.mod_two_eq_zero_or_one m with
    | inl h =>
      cases b <;> cases c <;> simp [ExtendedMantissa.shiftRightOne, h,
        ExtendedMantissa.roundedMantissa, ExtendedMantissa.accuracy, Accuracy.roundToNearestEven]
    | inr h =>
      cases b <;> cases c <;> simp [ExtendedMantissa.shiftRightOne, h,
        ExtendedMantissa.roundedMantissa, ExtendedMantissa.accuracy, Accuracy.roundToNearestEven]
      omega
  rw [mantissa_shiftRight] at hbit
  omega

theorem mantissa_ofMantissaAndAccuracy (m : Nat) (a : Accuracy) :
    (ExtendedMantissa.ofMantissaAndAccuracy m a).mantissa = m := by
  unfold ExtendedMantissa.ofMantissaAndAccuracy
  split <;> rfl

def excess (m : Nat) (e : Int) : Nat :=
  (target m e - e).toNat

theorem shiftToTargetExponent_eq (m : Nat) (e : Int) (a : Accuracy) :
    shiftToTargetExponent Format.binary64 m e a =
      (ExtendedMantissa.ofMantissaAndAccuracy m a >>> excess m e, e + excess m e) := by
  rw [shiftToTargetExponent, targetExponent_eq]
  rfl

theorem excess_eq_zero (hm : m < 2 ^ 53) (he : -1074 ≤ e) : excess m e = 0 := by
  have hlog : m.log2 ≤ 52 := by
    cases m with
    | zero => decide
    | succ m => exact Nat.le_of_lt_succ ((Nat.log2_lt (Nat.succ_ne_zero m)).mpr hm)
  simp only [excess, target]
  omega

theorem excess_two_pow (he : -1074 ≤ e) : excess (2 ^ 53) e = 1 := by
  simp only [excess, target, Nat.log2_two_pow]
  omega

end Shift

section Round

inductive Rounded (s : Sign) (t : Int) : Nat → UnpackedFloat → Prop
  | zero : Rounded s t 0 (.zero s)
  | finite {r : Nat} (hr : 0 < r) : r < 2 ^ 53 → Rounded s t r (.finite s r t hr)
  | carry : Rounded s t (2 ^ 53) (.finite s (2 ^ 52) (t + 1) (by decide))

theorem log2_le_add_excess (m : Nat) (e : Int) : m.log2 ≤ 52 + excess m e := by
  simp only [excess, target]
  omega

theorem neg_le_add_excess (m : Nat) (e : Int) : -1074 ≤ e + excess m e := by
  simp only [excess, target]
  omega

theorem div_excess_lt (m : Nat) (e : Int) : m / 2 ^ excess m e < 2 ^ 53 := by
  rw [Nat.div_lt_iff_lt_mul (Nat.two_pow_pos _), ← Nat.pow_add]
  have hlog := log2_le_add_excess m e
  exact Nat.lt_of_lt_of_le Nat.lt_log2_self (Nat.pow_le_pow_right (by decide) (by omega))

-- The number with a rounded mantissa, after the last bit of one that is too long is dropped.
def settle (s : Sign) (r : Nat) (t : Int) : UnpackedFloat :=
  let (em, e) := shiftToTargetExponent Format.binary64 r t .exact
  if h : em.mantissa = 0 then .zero s else .finite s em.mantissa e (Nat.pos_of_ne_zero h)

theorem rounded_settle (hr : r ≤ 2 ^ 53) (ht : -1074 ≤ t) : Rounded s t r (settle s r t) := by
  simp only [settle, shiftToTargetExponent_eq, mantissa_shiftRight, mantissa_ofMantissaAndAccuracy]
  by_cases hlt : r < 2 ^ 53
  case pos =>
    simp only [excess_eq_zero hlt ht, Nat.pow_zero, Nat.div_one]
    split
    case isTrue h => exact h ▸ .zero
    case isFalse h => simpa using .finite (Nat.pos_of_ne_zero h) hlt
  case neg =>
    obtain rfl : r = 2 ^ 53 := by omega
    simp only [excess_two_pow ht]
    exact .carry

theorem rounded_roundWithAccuracy (s : Sign) (m : Nat) (e : Int) (a : Accuracy) :
    Rounded s (e + excess m e)
      (ExtendedMantissa.ofMantissaAndAccuracy m a >>> excess m e).roundedMantissa
      (roundWithAccuracy Format.binary64 s m e a) := by
  have hround : roundWithAccuracy Format.binary64 s m e a = settle s
      (ExtendedMantissa.ofMantissaAndAccuracy m a >>> excess m e).roundedMantissa
      (e + excess m e) := by
    simp only [roundWithAccuracy, settle, shiftToTargetExponent_eq]
  have hle := roundedMantissa_le (ExtendedMantissa.ofMantissaAndAccuracy m a >>> excess m e)
  rw [mantissa_shiftRight, mantissa_ofMantissaAndAccuracy] at hle
  have hlt := div_excess_lt m e
  rw [hround]
  exact rounded_settle (by omega) (neg_le_add_excess m e)

end Round

section Size

-- The form in which a number is stored.
def Canonical : UnpackedFloat → Prop
  | .finite _ m e _ => m < 2 ^ 53 ∧ -1074 ≤ e ∧ (2 ^ 52 ≤ m ∨ e = -1074)
  | _               => True

inductive AtLeast (k : Int) : UnpackedFloat → Prop
  | infinity : AtLeast k (.infinity .positive)
  | finite {m : Nat} {e : Int} (hm : 0 < m) : k ≤ m.log2 + e → AtLeast k (.finite .positive m e hm)

inductive Below (k : Int) : UnpackedFloat → Prop
  | zero : Below k (.zero .positive)
  | finite {m : Nat} {e : Int} (hm : 0 < m) : m.log2 + e < k → Below k (.finite .positive m e hm)

theorem Rounded.canonical (h : Rounded s t r x) (ht : -1074 ≤ t) (hr : 2 ^ 52 ≤ r ∨ t = -1074) :
    Canonical x := by
  cases h with
  | zero => trivial
  | finite _ hlt => exact ⟨hlt, ht, hr⟩
  | carry => exact ⟨by decide, by omega, .inl (Nat.le_refl _)⟩

theorem Rounded.atLeast (h : Rounded .positive t r x) (hr : 0 < r) (hk : k ≤ r.log2 + t) :
    AtLeast k x := by
  cases h with
  | zero => exact absurd hr (Nat.lt_irrefl 0)
  | finite hpos => exact .finite hpos hk
  | carry =>
    rw [Nat.log2_two_pow] at hk
    exact .finite _ (by rw [Nat.log2_two_pow]; omega)

theorem Rounded.below (h : Rounded .positive t r x) (hk : 0 < r → r.log2 + t < k) : Below k x := by
  cases h with
  | zero => exact .zero
  | finite hpos => exact .finite hpos (hk hpos)
  | carry =>
    have hk := hk (by decide)
    rw [Nat.log2_two_pow] at hk
    exact .finite _ (by rw [Nat.log2_two_pow]; omega)

theorem div_le_roundedMantissa (m n : Nat) (a : Accuracy) :
    m / 2 ^ n ≤ (ExtendedMantissa.ofMantissaAndAccuracy m a >>> n).roundedMantissa := by
  have hle := mantissa_le_roundedMantissa (ExtendedMantissa.ofMantissaAndAccuracy m a >>> n)
  rwa [mantissa_shiftRight, mantissa_ofMantissaAndAccuracy] at hle

theorem roundedMantissa_le_div (m n : Nat) (a : Accuracy) :
    (ExtendedMantissa.ofMantissaAndAccuracy m a >>> n).roundedMantissa ≤ m / 2 ^ n + 1 := by
  have hle := roundedMantissa_le (ExtendedMantissa.ofMantissaAndAccuracy m a >>> n)
  rwa [mantissa_shiftRight, mantissa_ofMantissaAndAccuracy] at hle

theorem two_pow_le_div (hm : 0 < m) (hn : n ≤ m.log2) : 2 ^ (m.log2 - n) ≤ m / 2 ^ n := by
  rw [Nat.le_div_iff_mul_le (Nat.two_pow_pos n), ← Nat.pow_add, Nat.sub_add_cancel hn]
  exact Nat.log2_self_le hm.ne'

theorem div_two_pow_lt (m n : Nat) : m / 2 ^ n < 2 ^ (m.log2 + 1 - n) := by
  rw [Nat.div_lt_iff_lt_mul (Nat.two_pow_pos n), ← Nat.pow_add]
  exact Nat.lt_of_lt_of_le Nat.lt_log2_self (Nat.pow_le_pow_right (by decide) (by omega))

theorem canonical_roundWithAccuracy (h : 52 ≤ m.log2 ∨ e ≤ -1074) :
    Canonical (roundWithAccuracy Format.binary64 s m e a) := by
  refine (rounded_roundWithAccuracy s m e a).canonical (neg_le_add_excess m e) ?_
  by_cases ht : e + excess m e = -1074
  case pos => exact .inr ht
  case neg =>
    have hn : excess m e + 52 = m.log2 := by
      simp only [excess, target] at ht ⊢
      omega
    have hm : 0 < m := by
      cases m with
      | zero => exact absurd hn (by simp)
      | succ m => exact Nat.succ_pos m
    have hpow := two_pow_le_div hm (show excess m e ≤ m.log2 by omega)
    have hsub : m.log2 - excess m e = 52 := by omega
    rw [hsub] at hpow
    exact .inl (Nat.le_trans hpow (div_le_roundedMantissa m _ a))

theorem atLeast_roundWithAccuracy (hm : 0 < m) (hk : -1074 ≤ k) (h : k ≤ m.log2 + e) :
    AtLeast k (roundWithAccuracy Format.binary64 .positive m e a) := by
  have hn : excess m e ≤ m.log2 := by
    simp only [excess, target]
    omega
  have hr := Nat.le_trans (two_pow_le_div hm hn) (div_le_roundedMantissa m _ a)
  have hpos := Nat.lt_of_lt_of_le (Nat.two_pow_pos _) hr
  refine (rounded_roundWithAccuracy .positive m e a).atLeast hpos ?_
  have hlog := (Nat.le_log2 hpos.ne').mpr hr
  omega

theorem below_roundWithAccuracy (hk : -1074 ≤ k) (h : m.log2 + e < k) :
    Below (k + 1) (roundWithAccuracy Format.binary64 .positive m e a) := by
  refine (rounded_roundWithAccuracy .positive m e a).below fun hpos => ?_
  have hr := Nat.le_trans (roundedMantissa_le_div m _ a) (div_two_pow_lt m (excess m e))
  generalize (ExtendedMantissa.ofMantissaAndAccuracy m a >>> excess m e).roundedMantissa = r at *
  have hlog : r.log2 ≤ m.log2 + 1 - excess m e := by
    have hlt : r < 2 ^ (m.log2 + 1 - excess m e + 1) :=
      Nat.lt_of_le_of_lt hr (Nat.pow_lt_pow_right (by decide) (Nat.lt_succ_self _))
    exact Nat.le_of_lt_succ ((Nat.log2_lt hpos.ne').mpr hlt)
  simp only [excess, target] at hlog ⊢
  omega

-- What is below the middle of the last two numbers below a power of two is rounded down.
theorem below_roundWithAccuracy_of_lt (hm : 0 < m) (hk : -1021 ≤ k) (he : e + n = k - 54)
    (h : m < (2 ^ 54 - 1) * 2 ^ n) :
    Below k (roundWithAccuracy Format.binary64 .positive m e a) := by
  have hlog : m.log2 < n + 54 := by
    refine (Nat.log2_lt hm.ne').mpr (Nat.lt_of_lt_of_le h ?_)
    rw [Nat.pow_add, Nat.mul_comm]
    exact Nat.mul_le_mul_left _ (by decide)
  by_cases hsmall : m.log2 + e < k - 1
  case pos => simpa using below_roundWithAccuracy (a := a) (by omega) hsmall
  case neg =>
    have hexcess : excess m e = n + 1 := by
      simp only [excess, target]
      omega
    have hrounded := rounded_roundWithAccuracy .positive m e a
    rw [hexcess] at hrounded
    refine hrounded.below fun hpos => ?_
    have hr := roundedMantissa_shiftRight_le (ExtendedMantissa.ofMantissaAndAccuracy m a) n
    rw [mantissa_ofMantissaAndAccuracy] at hr
    have hdiv : m / 2 ^ n < 2 ^ 54 - 1 := (Nat.div_lt_iff_lt_mul (Nat.two_pow_pos n)).mpr h
    have hr53 := (Nat.log2_lt hpos.ne').mpr (show _ < 2 ^ 53 by omega)
    omega

end Size

section Decrease

theorem shiftLeft_pos (hm : 0 < m) (n : Nat) : 0 < m <<< n := by
  rw [Nat.shiftLeft_eq]
  exact Nat.mul_pos hm (Nat.two_pow_pos n)

theorem log2_shiftLeft (hm : 0 < m) (n : Nat) : (m <<< n).log2 = m.log2 + n := by
  induction n with
  | zero => rfl
  | succ n ih =>
    rw [Nat.shiftLeft_succ, Nat.log2_two_mul (shiftLeft_pos hm n).ne', ih, Nat.add_assoc]

def lack (m : Nat) (e : Int) : Nat :=
  (e - target m e).toNat

theorem round_eq (s : Sign) (m : Nat) (e : Int) : round Format.binary64 s m e =
    roundWithAccuracy Format.binary64 s (m <<< lack m e) (e - lack m e) .exact := by
  simp only [UnpackedFloat.round, targetExponent_eq]
  rfl

theorem canonical_round (hm : 0 < m) : Canonical (round Format.binary64 s m e) := by
  rw [round_eq]
  refine canonical_roundWithAccuracy ?_
  rw [log2_shiftLeft hm]
  simp only [lack, target]
  omega

theorem atLeast_round (hm : 0 < m) (hk : -1074 ≤ k) (h : k ≤ m.log2 + e) :
    AtLeast k (round Format.binary64 .positive m e) := by
  rw [round_eq]
  refine atLeast_roundWithAccuracy (shiftLeft_pos hm _) hk ?_
  rw [log2_shiftLeft hm]
  omega

theorem below_round (hm : 0 < m) (hk : -1074 ≤ k) (h : m.log2 + e < k) :
    Below (k + 1) (round Format.binary64 .positive m e) := by
  rw [round_eq]
  refine below_roundWithAccuracy hk ?_
  rw [log2_shiftLeft hm]
  omega

theorem below_round_of_lt (hm : 0 < m) (hk : -1021 ≤ k) (he : e + n = k - 54)
    (h : m < (2 ^ 54 - 1) * 2 ^ n) : Below k (round Format.binary64 .positive m e) := by
  rw [round_eq]
  refine below_roundWithAccuracy_of_lt (n := n + lack m e) (shiftLeft_pos hm _) hk (by omega) ?_
  rw [Nat.shiftLeft_eq, Nat.pow_add, ← Nat.mul_assoc]
  exact Nat.mul_lt_mul_of_pos_right h (Nat.two_pow_pos _)

end Decrease

section Pack

theorem toNat_one_append (c : BitVec 52) : (1#1 ++ c).toNat = 2 ^ 52 + c.toNat := by
  rw [BitVec.toNat_append, ← Nat.shiftLeft_add_eq_or_of_lt c.isLt]
  rfl

theorem unpack_normal {b : BitVec 11} {c : BitVec 52} (hmax : b ≠ -1#11) (hzero : b ≠ 0#11) :
    unpack Format.binary64 (packComponents Format.binary64 s b c) =
      .finite s (2 ^ 52 + c.toNat) (b.toNat - 1075) (by omega) := by
  simp only [UnpackedFloat.unpack, unpackMantissa_packComponents, unpackExponent_packComponents,
    unpackSign_packComponents, Sign.ofBitVec_toBitVec, hmax, hzero, if_false]
  simp only [toNat_one_append]
  rfl

theorem unpack_subnormal {c : BitVec 52} (hc : 0 < c.toNat) :
    unpack Format.binary64 (packComponents Format.binary64 s 0#11 c) =
      .finite s c.toNat (-1074) hc := by
  have hzero : c ≠ 0#52 := by
    rintro rfl
    exact Nat.lt_irrefl 0 hc
  simp only [UnpackedFloat.unpack, unpackMantissa_packComponents, unpackExponent_packComponents,
    unpackSign_packComponents, Sign.ofBitVec_toBitVec]
  simp [hzero]
  rfl

theorem canonical_unpack (x : BitVec Format.binary64.numBits) :
    Canonical (UnpackedFloat.unpack Format.binary64 x) := by
  have hm : (unpackMantissa x).toNat < 2 ^ 52 := BitVec.isLt _
  unfold UnpackedFloat.unpack
  dsimp only
  split
  case isTrue => split <;> trivial
  case isFalse =>
    split
    case isTrue hzero =>
      split
      case isTrue => trivial
      case isFalse =>
        simp only [Canonical, hzero, Format.exponentBias]
        exact ⟨Nat.lt_trans hm (by decide), by decide, .inr (by decide)⟩
    case isFalse hzero =>
      have hb : (unpackExponent x).toNat ≠ 0 := fun h => hzero (BitVec.eq_of_toNat_eq h)
      have hone : (1#1 ++ unpackMantissa x).toNat = 2 ^ 52 + (unpackMantissa x).toNat :=
        toNat_one_append _
      simp only [Canonical, hone, Format.exponentBias]
      omega

theorem unpack_pack_zero (s : Sign) : (Float.Model.pack (.zero s)).unpack = .zero s := by
  cases s <;> rfl

theorem unpack_pack_infinity (s : Sign) :
    (Float.Model.pack (.infinity s)).unpack = .infinity s := by
  cases s <;> rfl

theorem unpack_pack_large (hm : 0 < m) (he : 971 < e) :
    (Float.Model.pack (.finite s m e hm)).unpack = .infinity s := by
  have hpack : UnpackedFloat.pack Format.binary64 (.finite s m e hm) =
      packedInfinity Format.binary64 s := by
    simp only [UnpackedFloat.pack, Format.exponentBias]
    exact if_pos (by omega)
  unfold Float.Model.unpack Float.Model.pack
  dsimp only
  rw [hpack]
  cases s <;> rfl

theorem toNat_ofNat_exponent (hmin : -1074 ≤ e) (hmax : e ≤ 971) :
    (BitVec.ofNat 11 (e + 1075).toNat).toNat = (e + 1075).toNat := by
  rw [BitVec.toNat_ofNat]
  exact Nat.mod_eq_of_lt (by omega)

theorem unpack_pack_normal (hm : 0 < m) (hlow : 2 ^ 52 ≤ m) (hhigh : m < 2 ^ 53) (hmin : -1074 ≤ e)
    (hmax : e ≤ 971) : (Float.Model.pack (.finite s m e hm)).unpack = .finite s m e hm := by
  have hlog : m.log2 = 52 := (Nat.log2_eq_iff hm.ne').mpr ⟨hlow, hhigh⟩
  have hpack : UnpackedFloat.pack Format.binary64 (.finite s m e hm) =
      packComponents Format.binary64 s (BitVec.ofNat 11 (e + 1075).toNat) (BitVec.ofNat 52 m) := by
    have hbias : e + Format.binary64.exponentBias + (52 : Nat) = e + 1075 := by
      simp only [Format.exponentBias]
      omega
    simp only [UnpackedFloat.pack, hbias]
    rw [if_neg (by omega), if_pos (by rw [hlog]; rfl)]
  have hexponent := toNat_ofNat_exponent hmin hmax
  have hmax' : BitVec.ofNat 11 (e + 1075).toNat ≠ -1#11 := by
    intro h
    rw [h] at hexponent
    simp at hexponent
    omega
  have hzero : BitVec.ofNat 11 (e + 1075).toNat ≠ 0#11 := by
    intro h
    rw [h] at hexponent
    simp at hexponent
    omega
  have hmantissa : 2 ^ 52 + (BitVec.ofNat 52 m).toNat = m := by
    rw [BitVec.toNat_ofNat]
    omega
  unfold Float.Model.unpack Float.Model.pack
  simp only [hpack]
  refine (unpack_normal hmax' hzero).trans ?_
  simp only [UnpackedFloat.finite.injEq, true_and]
  exact ⟨hmantissa, by omega⟩

theorem unpack_pack_subnormal (hm : 0 < m) (hhigh : m < 2 ^ 52) :
    (Float.Model.pack (.finite s m (-1074) hm)).unpack = .finite s m (-1074) hm := by
  have hlog : m.log2 < 52 := (Nat.log2_lt hm.ne').mpr hhigh
  have hpack : UnpackedFloat.pack Format.binary64 (.finite s m (-1074) hm) =
      packComponents Format.binary64 s 0#11 (BitVec.ofNat 52 m) := by
    have hbits : m.log2 + 1 ≠ Format.binary64.mantissaBits := by
      simp only [Format.mantissaBits]
      omega
    simp only [UnpackedFloat.pack]
    rw [if_neg (by decide), if_neg hbits]
  have hmantissa : (BitVec.ofNat 52 m).toNat = m := by
    rw [BitVec.toNat_ofNat]
    exact Nat.mod_eq_of_lt hhigh
  unfold Float.Model.unpack Float.Model.pack
  simp only [hpack]
  refine (unpack_subnormal (hmantissa.symm ▸ hm)).trans ?_
  simp only [UnpackedFloat.finite.injEq, true_and, and_true]
  exact hmantissa

theorem unpack_pack_finite (hm : 0 < m) (h : Canonical (.finite s m e hm)) (he : e ≤ 971) :
    (Float.Model.pack (.finite s m e hm)).unpack = .finite s m e hm := by
  have ⟨hhigh, hmin, hlow⟩ := h
  by_cases hlow' : 2 ^ 52 ≤ m
  case pos => exact unpack_pack_normal hm hlow' hhigh hmin he
  case neg =>
    obtain rfl := hlow.resolve_left hlow'
    exact unpack_pack_subnormal hm (Nat.lt_of_not_le hlow')

theorem AtLeast.stored (h : AtLeast k x) (hx : Canonical x) :
    AtLeast k (Float.Model.pack x).unpack := by
  cases h with
  | infinity => exact unpack_pack_infinity .positive ▸ .infinity
  | @finite m e hm hk =>
    by_cases he : e ≤ 971
    case pos => exact (unpack_pack_finite hm hx he).symm ▸ .finite hm hk
    case neg => exact (unpack_pack_large hm (Int.lt_of_not_ge he)).symm ▸ .infinity

theorem Below.stored (h : Below k x) (hx : Canonical x) (hk : k ≤ 1024) :
    Below k (Float.Model.pack x).unpack := by
  cases h with
  | zero => exact unpack_pack_zero .positive ▸ .zero
  | @finite m e hm hlt =>
    have he : e ≤ 971 := by
      obtain ⟨-, -, hlow | rfl⟩ := hx
      · have hlog := (Nat.le_log2 hm.ne').mpr hlow
        omega
      · decide
    exact (unpack_pack_finite hm hx he).symm ▸ .finite hm hlt

end Pack

end ExcerptSearch.Binary64
