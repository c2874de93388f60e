import ExcerptSearch.Unicode.Word

namespace ExcerptSearch.Unicode

variable {c : Char}

theorem toNat_lt_of_isAlphanum (h : c.isAlphanum = true) : c.toNat < 0x80 := by
  have hrange : ((decide (c.val ≥ 'A'.val ∧ c.val ≤ 'Z'.val) ||
      (c.val ≥ 'a'.val && c.val ≤ 'z'.val)) || (c.val ≥ '0'.val && c.val ≤ '9'.val)) = true := h
  simp only [Bool.or_eq_true, Bool.and_eq_true, decide_eq_true_eq,
    UInt32.le_iff_toNat_le] at hrange
  have hval : c.toNat = c.val.toNat := rfl
  have hupper : 'Z'.val.toNat = 0x5a := rfl
  have hlower : 'z'.val.toNat = 0x7a := rfl
  have hdigit : '9'.val.toNat = 0x39 := rfl
  omega

theorem isWord_ascii (h : c.toNat < 0x80) : isWord c = (c.isAlphanum || c == '_') := by
  have hall : ∀ n < 0x80, isWord (Char.ofNat n) =
      ((Char.ofNat n).isAlphanum || Char.ofNat n == '_') := by decide +kernel
  have hc := hall c.toNat h
  rwa [Char.ofNat_toNat] at hc

theorem isWord_of_isAlphanum (h : c.isAlphanum = true) : isWord c = true := by
  rw [isWord_ascii (toNat_lt_of_isAlphanum h), h, Bool.true_or]

end ExcerptSearch.Unicode
