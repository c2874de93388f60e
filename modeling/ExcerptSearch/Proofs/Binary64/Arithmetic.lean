import ExcerptSearch.Proofs.Binary64.Rounding

namespace ExcerptSearch.Binary64

open Float.Model Float.Model.UnpackedFloat

variable {m₁ m₂ : Nat} {e₁ e₂ j k : Int} {x y : UnpackedFloat}

inductive NonNeg : UnpackedFloat → Prop
  | zero : NonNeg (.zero .positive)
  | finite {m : Nat} {e : Int} (hm : 0 < m) : NonNeg (.finite .positive m e hm)
  | infinity : NonNeg (.infinity .positive)

theorem AtLeast.nonNeg (h : AtLeast k x) : NonNeg x := by
  cases h with
  | infinity => exact .infinity
  | finite hm => exact .finite hm

theorem Below.nonNeg (h : Below k x) : NonNeg x := by
  cases h with
  | zero => exact .zero
  | finite hm => exact .finite hm

theorem AtLeast.mono (h : AtLeast k x) (hj : j ≤ k) : AtLeast j x := by
  cases h with
  | infinity => exact .infinity
  | finite hm hk => exact .finite hm (Int.le_trans hj hk)

theorem Below.mono (h : Below j x) (hj : j ≤ k) : Below k x := by
  cases h with
  | zero => exact .zero
  | finite hm hk => exact .finite hm (Int.lt_of_lt_of_le hk hj)

section Add

def aligned (m₁ : Nat) (e₁ : Int) (m₂ : Nat) (e₂ : Int) : Nat :=
  m₁ <<< (e₁ - min e₁ e₂).toNat + m₂ <<< (e₂ - min e₁ e₂).toNat

theorem aligned_pos (hm₁ : 0 < m₁) : 0 < aligned m₁ e₁ m₂ e₂ :=
  Nat.add_pos_left (shiftLeft_pos hm₁ _) _

theorem add_finite (hm₁ : 0 < m₁) (hm₂ : 0 < m₂) :
    add Format.binary64 (.finite .positive m₁ e₁ hm₁) (.finite .positive m₂ e₂ hm₂) =
      round Format.binary64 .positive (aligned m₁ e₁ m₂ e₂) (min e₁ e₂) := by
  have hcompare : compare (aligned m₁ e₁ m₂ e₂ : Int) 0 = .gt :=
    Int.compare_eq_gt.mpr (Int.natCast_pos.mpr (aligned_pos hm₁))
  show normalize _ (aligned m₁ e₁ m₂ e₂ : Int) _ _ = _
  simp only [UnpackedFloat.normalize, hcompare, Int.toNat_natCast]

theorem aligned_comm (m₁ : Nat) (e₁ : Int) (m₂ : Nat) (e₂ : Int) :
    aligned m₁ e₁ m₂ e₂ = aligned m₂ e₂ m₁ e₁ := by
  rw [aligned, aligned, Nat.add_comm, Int.min_comm]

theorem le_log2_aligned (hm₁ : 0 < m₁) (h : k ≤ m₁.log2 + e₁) (m₂ : Nat) (e₂ : Int) :
    k ≤ (aligned m₁ e₁ m₂ e₂).log2 + min e₁ e₂ := by
  have hle : 2 ^ (m₁ <<< (e₁ - min e₁ e₂).toNat).log2 ≤ aligned m₁ e₁ m₂ e₂ :=
    Nat.le_trans (Nat.log2_self_le (shiftLeft_pos hm₁ _).ne') (Nat.le_add_right _ _)
  have hlog := (Nat.le_log2 (aligned_pos hm₁).ne').mpr hle
  rw [log2_shiftLeft hm₁] at hlog
  omega

theorem shiftLeft_lt {m n i : Nat} (hm : 0 < m) (h : m.log2 + i < n) : m <<< i < 2 ^ n := by
  rw [← Nat.log2_lt (shiftLeft_pos hm i).ne', log2_shiftLeft hm]
  exact h

theorem log2_aligned_lt (hm₁ : 0 < m₁) (hm₂ : 0 < m₂) (h₁ : m₁.log2 + e₁ < k)
    (h₂ : m₂.log2 + e₂ < k) : (aligned m₁ e₁ m₂ e₂).log2 + min e₁ e₂ < k + 1 := by
  have hleft : m₁ <<< (e₁ - min e₁ e₂).toNat < 2 ^ (k - min e₁ e₂).toNat :=
    shiftLeft_lt hm₁ (by omega)
  have hright : m₂ <<< (e₂ - min e₁ e₂).toNat < 2 ^ (k - min e₁ e₂).toNat :=
    shiftLeft_lt hm₂ (by omega)
  have hsum : aligned m₁ e₁ m₂ e₂ < 2 ^ ((k - min e₁ e₂).toNat + 1) := by
    rw [aligned, Nat.pow_succ]
    omega
  have hlog := (Nat.log2_lt (aligned_pos hm₁).ne').mpr hsum
  omega

theorem zero_add (hy : NonNeg y) : add Format.binary64 (.zero .positive) y = y := by
  cases hy <;> rfl

theorem canonical_add (hx : NonNeg x) (hy : NonNeg y) (hcx : Canonical x) (hcy : Canonical y) :
    Canonical (add Format.binary64 x y) := by
  cases hx with
  | zero => exact (zero_add hy).symm ▸ hcy
  | infinity => cases hy <;> trivial
  | finite hm₁ =>
    cases hy with
    | zero => exact hcx
    | infinity => trivial
    | finite hm₂ => exact add_finite hm₁ hm₂ ▸ canonical_round (aligned_pos hm₁)

theorem atLeast_add_right (h : AtLeast k x) (hy : NonNeg y) (hk : -1074 ≤ k) :
    AtLeast k (add Format.binary64 x y) := by
  cases h with
  | infinity => cases hy <;> exact .infinity
  | finite hm₁ hlog =>
    cases hy with
    | zero => exact .finite hm₁ hlog
    | infinity => exact .infinity
    | finite hm₂ =>
      exact add_finite hm₁ hm₂ ▸ atLeast_round (aligned_pos hm₁) hk (le_log2_aligned hm₁ hlog _ _)

theorem atLeast_add_left (h : AtLeast k y) (hx : NonNeg x) (hk : -1074 ≤ k) :
    AtLeast k (add Format.binary64 x y) := by
  cases h with
  | infinity => cases hx <;> exact .infinity
  | finite hm₂ hlog =>
    cases hx with
    | zero => exact .finite hm₂ hlog
    | infinity => exact .infinity
    | @finite m₁ e₁ hm₁ =>
      have hle := le_log2_aligned hm₂ hlog m₁ e₁
      rw [aligned_comm, Int.min_comm] at hle
      exact add_finite hm₁ hm₂ ▸ atLeast_round (aligned_pos hm₁) hk hle

theorem below_add (hx : Below k x) (hy : Below k y) (hk : -1075 ≤ k) :
    Below (k + 2) (add Format.binary64 x y) := by
  cases hx with
  | zero => exact (zero_add hy.nonNeg).symm ▸ hy.mono (by omega)
  | finite hm₁ h₁ =>
    cases hy with
    | zero => exact .finite hm₁ (by omega)
    | finite hm₂ h₂ =>
      have hround := below_round (aligned_pos hm₁) (by omega) (log2_aligned_lt hm₁ hm₂ h₁ h₂)
      exact add_finite hm₁ hm₂ ▸ hround.mono (by omega)

-- A number that is far smaller than a power of two does not lift another one over it.
theorem below_add_small (hx : Below k x) (hy : Below (k - 54) y) (hcx : Canonical x)
    (hk : -1021 ≤ k) : Below k (add Format.binary64 x y) := by
  cases hx with
  | zero => exact (zero_add hy.nonNeg).symm ▸ hy.mono (by omega)
  | @finite m₁ e₁ hm₁ h₁ =>
    cases hy with
    | zero => exact .finite hm₁ h₁
    | @finite m₂ e₂ hm₂ h₂ =>
      have ⟨hm₁', _, hlow⟩ := hcx
      have he₁ : e₁ ≤ k - 53 := by
        obtain hlow | hlow := hlow
        · have hlog := (Nat.le_log2 hm₁.ne').mpr hlow
          omega
        · omega
      obtain ⟨n, hn⟩ : ∃ n : Nat, min e₁ e₂ + n = k - 54 := ⟨(k - 54 - min e₁ e₂).toNat, by omega⟩
      have hleft : m₁ <<< (e₁ - min e₁ e₂).toNat ≤ (2 ^ 53 - 1) * 2 ^ (n + 1) := by
        rw [Nat.shiftLeft_eq]
        exact Nat.mul_le_mul (by omega) (Nat.pow_le_pow_right (by decide) (by omega))
      have hright : m₂ <<< (e₂ - min e₁ e₂).toNat < 2 ^ n := shiftLeft_lt hm₂ (by omega)
      have hsum : aligned m₁ e₁ m₂ e₂ < (2 ^ 54 - 1) * 2 ^ n := by
        rw [Nat.pow_succ] at hleft
        rw [aligned]
        omega
      exact add_finite hm₁ hm₂ ▸ below_round_of_lt (aligned_pos hm₁) hk hn hsum

end Add

section Mul

theorem mul_finite (hm₁ : 0 < m₁) (hm₂ : 0 < m₂) :
    mul Format.binary64 (.finite .positive m₁ e₁ hm₁) (.finite .positive m₂ e₂ hm₂) =
      roundWithAccuracy Format.binary64 .positive (m₁ * m₂) (e₁ + e₂) .exact :=
  rfl

theorem add_log2_le (hm₁ : 0 < m₁) (hm₂ : 0 < m₂) : m₁.log2 + m₂.log2 ≤ (m₁ * m₂).log2 := by
  rw [Nat.le_log2 (Nat.mul_pos hm₁ hm₂).ne', Nat.pow_add]
  exact Nat.mul_le_mul (Nat.log2_self_le hm₁.ne') (Nat.log2_self_le hm₂.ne')

theorem log2_mul_le (hm₁ : 0 < m₁) (hm₂ : 0 < m₂) : (m₁ * m₂).log2 ≤ m₁.log2 + m₂.log2 + 1 := by
  refine Nat.le_of_lt_succ ((Nat.log2_lt (Nat.mul_pos hm₁ hm₂).ne').mpr ?_)
  have hlt : m₁ * m₂ < 2 ^ (m₁.log2 + 1) * 2 ^ (m₂.log2 + 1) :=
    Nat.mul_lt_mul'' Nat.lt_log2_self Nat.lt_log2_self
  rw [← Nat.pow_add] at hlt
  exact Nat.lt_of_lt_of_le hlt (Nat.pow_le_pow_right (by decide) (by omega))

theorem canonical_mul (hx : NonNeg x) (hy : NonNeg y) (hcx : Canonical x) (hcy : Canonical y) :
    Canonical (mul Format.binary64 x y) := by
  cases hx with
  | zero => cases hy <;> trivial
  | infinity => cases hy <;> trivial
  | @finite m₁ e₁ hm₁ =>
    cases hy with
    | zero => trivial
    | infinity => trivial
    | @finite m₂ e₂ hm₂ =>
      refine canonical_roundWithAccuracy ?_
      have hlog := add_log2_le hm₁ hm₂
      obtain ⟨-, he₁, hlow₁ | he₁'⟩ := hcx
      · have hlog₁ := (Nat.le_log2 hm₁.ne').mpr hlow₁
        omega
      · obtain ⟨-, he₂, hlow₂ | he₂'⟩ := hcy
        · have hlog₂ := (Nat.le_log2 hm₂.ne').mpr hlow₂
          omega
        · omega

theorem atLeast_mul (hx : AtLeast j x) (hy : AtLeast k y) (hjk : -1074 ≤ j + k) :
    AtLeast (j + k) (mul Format.binary64 x y) := by
  cases hx with
  | infinity => cases hy <;> exact .infinity
  | finite hm₁ h₁ =>
    cases hy with
    | infinity => exact .infinity
    | finite hm₂ h₂ =>
      have hlog := add_log2_le hm₁ hm₂
      exact atLeast_roundWithAccuracy (Nat.mul_pos hm₁ hm₂) hjk (by omega)

theorem below_mul (hx : Below j x) (hy : Below k y) (hjk : -1074 ≤ j + k) :
    Below (j + k + 1) (mul Format.binary64 x y) := by
  cases hx with
  | zero => cases hy <;> exact .zero
  | finite hm₁ h₁ =>
    cases hy with
    | zero => exact .zero
    | finite hm₂ h₂ =>
      have hlog := log2_mul_le hm₁ hm₂
      exact below_roundWithAccuracy hjk (by omega)

end Mul

section Div

def divTarget (m₁ : Nat) (e₁ : Int) (m₂ : Nat) (e₂ : Int) : Int :=
  min (e₁ - e₂) (max (m₁.log2 + e₁ - (m₂.log2 + e₂) - 53) (-1074))

def dividend (m₁ : Nat) (e₁ : Int) (m₂ : Nat) (e₂ : Int) : Nat :=
  m₁ <<< (e₁ - e₂ - divTarget m₁ e₁ m₂ e₂).toNat

theorem div_finite (hm₁ : 0 < m₁) (hm₂ : 0 < m₂) :
    div Format.binary64 (.finite .positive m₁ e₁ hm₁) (.finite .positive m₂ e₂ hm₂) =
      roundWithAccuracy Format.binary64 .positive (dividend m₁ e₁ m₂ e₂ / m₂)
        (divTarget m₁ e₁ m₂ e₂) (accuracyOfFraction (dividend m₁ e₁ m₂ e₂ % m₂) m₂) := by
  have htarget : Format.binary64.targetExponent (totalExponent m₁ e₁ - totalExponent m₂ e₂) =
      max (m₁.log2 + e₁ - (m₂.log2 + e₂) - 53) (-1074) := by
    simp only [Format.targetExponent, totalExponent, Format.mantissaBits, Format.minExponent]
    omega
  simp only [UnpackedFloat.div, divCore, htarget, dividend, divTarget]
  rfl

theorem log2_dividend (hm₁ : 0 < m₁) (e₁ : Int) (m₂ : Nat) (e₂ : Int) :
    ((dividend m₁ e₁ m₂ e₂).log2 : Int) = m₁.log2 + (e₁ - e₂ - divTarget m₁ e₁ m₂ e₂) := by
  rw [dividend, log2_shiftLeft hm₁]
  simp only [divTarget]
  omega

theorem two_pow_le_div_of_log2 {m n i : Nat} (hm : 0 < m) (hn : 0 < n)
    (h : n.log2 + 1 + i ≤ m.log2) : 2 ^ i ≤ m / n := by
  rw [Nat.le_div_iff_mul_le hn]
  calc 2 ^ i * n
    _ ≤ 2 ^ i * 2 ^ (n.log2 + 1) := Nat.mul_le_mul_left _ (Nat.le_of_lt Nat.lt_log2_self)
    _ = 2 ^ (n.log2 + 1 + i)     := by rw [← Nat.pow_add, Nat.add_comm]
    _ ≤ 2 ^ m.log2               := Nat.pow_le_pow_right (by decide) h
    _ ≤ m                        := Nat.log2_self_le hm.ne'

theorem div_lt_two_pow_of_log2 {m n i : Nat} (hn : 0 < n) (h : m.log2 + 1 ≤ n.log2 + i) :
    m / n < 2 ^ i := by
  rw [Nat.div_lt_iff_lt_mul hn]
  calc m
    _ < 2 ^ (m.log2 + 1)   := Nat.lt_log2_self
    _ ≤ 2 ^ (n.log2 + i)   := Nat.pow_le_pow_right (by decide) h
    _ = 2 ^ i * 2 ^ n.log2 := by rw [Nat.pow_add, Nat.mul_comm]
    _ ≤ 2 ^ i * n          := Nat.mul_le_mul_left _ (Nat.log2_self_le hn.ne')

theorem dividend_pos (hm₁ : 0 < m₁) : 0 < dividend m₁ e₁ m₂ e₂ :=
  shiftLeft_pos hm₁ _

theorem canonical_div (hx : NonNeg x) (hy : NonNeg y) : Canonical (div Format.binary64 x y) := by
  cases hx with
  | zero => cases hy <;> trivial
  | infinity => cases hy <;> trivial
  | @finite m₁ e₁ hm₁ =>
    cases hy with
    | zero => trivial
    | infinity => trivial
    | @finite m₂ e₂ hm₂ =>
      refine div_finite hm₁ hm₂ ▸ canonical_roundWithAccuracy ?_
      by_cases htarget : divTarget m₁ e₁ m₂ e₂ ≤ -1074
      case pos => exact .inr htarget
      case neg =>
        have hlog := log2_dividend hm₁ e₁ m₂ e₂
        have hle : m₂.log2 + 1 + 52 ≤ (dividend m₁ e₁ m₂ e₂).log2 := by
          simp only [divTarget] at htarget hlog
          omega
        have hpow := two_pow_le_div_of_log2 (dividend_pos hm₁) hm₂ hle
        exact .inl ((Nat.le_log2 (Nat.lt_of_lt_of_le (by decide) hpow).ne').mpr hpow)

theorem atLeast_div (hm₂ : 0 < m₂) (hx : AtLeast j x) (h₂ : m₂.log2 + e₂ < k)
    (hl : -1074 ≤ j - k) : AtLeast (j - k)
      (div Format.binary64 x (.finite .positive m₂ e₂ hm₂)) := by
  cases hx with
  | infinity => exact .infinity
  | @finite m₁ e₁ hm₁ h₁ =>
    have hlog := log2_dividend hm₁ e₁ m₂ e₂
    have ⟨i, hi⟩ : ∃ i : Nat, m₂.log2 + 1 + i = (dividend m₁ e₁ m₂ e₂).log2 := by
      refine ⟨(dividend m₁ e₁ m₂ e₂).log2 - (m₂.log2 + 1), ?_⟩
      simp only [divTarget] at hlog
      omega
    have hpow := two_pow_le_div_of_log2 (dividend_pos hm₁) hm₂ (Nat.le_of_eq hi)
    have hpos := Nat.lt_of_lt_of_le (Nat.two_pow_pos i) hpow
    have hi' := (Nat.le_log2 hpos.ne').mpr hpow
    exact div_finite hm₁ hm₂ ▸ atLeast_roundWithAccuracy hpos hl (by omega)

theorem below_div (hx : Below j x) (hy : AtLeast k y) (hl : -1073 ≤ j - k) :
    Below (j - k + 1) (div Format.binary64 x y) := by
  cases hx with
  | zero => cases hy <;> exact .zero
  | @finite m₁ e₁ hm₁ h₁ =>
    cases hy with
    | infinity => exact .zero
    | @finite m₂ e₂ hm₂ h₂ =>
      have hlog := log2_dividend hm₁ e₁ m₂ e₂
      refine div_finite hm₁ hm₂ ▸ below_roundWithAccuracy (by omega) ?_
      by_cases hzero : dividend m₁ e₁ m₂ e₂ / m₂ = 0
      case pos =>
        rw [hzero, Nat.log2_zero]
        simp only [divTarget]
        omega
      case neg =>
        have hlt : dividend m₁ e₁ m₂ e₂ / m₂ < 2 ^ ((dividend m₁ e₁ m₂ e₂).log2 + 1 - m₂.log2) :=
          div_lt_two_pow_of_log2 hm₂ (by omega)
        have hlog' := (Nat.log2_lt hzero).mpr hlt
        omega

end Div

end ExcerptSearch.Binary64
