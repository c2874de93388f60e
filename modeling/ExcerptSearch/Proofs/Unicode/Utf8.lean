import ExcerptSearch.Text
import Mathlib.Data.List.Basic
import Mathlib.Order.Basic

namespace ExcerptSearch.Text

variable {c d : Char} {s t : Text}

def utf8 (t : Text) : List UInt8 :=
  t.flatMap String.utf8EncodeChar

theorem utf8_cons : utf8 (c :: t) = String.utf8EncodeChar c ++ utf8 t :=
  List.flatMap_cons

theorem utf8EncodeChar_ne_nil (c : Char) : String.utf8EncodeChar c ≠ [] := by
  unfold String.utf8EncodeChar
  grind

theorem utf8EncodeChar_append_lt (h : c < d) (u v : List UInt8) :
    String.utf8EncodeChar c ++ u < String.utf8EncodeChar d ++ v := by
  have hlt : c.val.toNat < d.val.toNat := UInt32.lt_iff_toNat_lt.mp h
  have hd : d.val.toNat < 0x110000 := by
    have := d.valid
    simp only [UInt32.isValidChar, Nat.isValidChar] at this
    omega
  -- Each byte holds a digit of the code in base 64, or the number before the last digits.
  have h₂ : ∀ k, k / 4096 = k / 64 / 64 := fun k => (Nat.div_div_eq_div_mul k 64 64).symm
  have h₃ : ∀ k, k / 262144 = k / 64 / 64 / 64 := by
    intro k
    rw [Nat.div_div_eq_div_mul, Nat.div_div_eq_div_mul]
  unfold String.utf8EncodeChar
  simp only [h₂, h₃]
  generalize c.val.toNat = m at hlt ⊢
  generalize d.val.toNat = n at hlt hd ⊢
  -- The characters may take different numbers of bytes, and each byte may decide.
  split_ifs
  all_goals
    simp only [List.cons_append, List.nil_append, List.cons_lt_cons_iff, UInt8.lt_iff_toNat_lt,
      ← UInt8.toNat_inj, UInt8.toNat_ofNat']
    omega

theorem utf8_lt_utf8 (h : s < t) : utf8 s < utf8 t := by
  induction s generalizing t with
  | nil =>
    cases t with
    | nil => exact absurd h (List.lt_irrefl [])
    | cons d t =>
      obtain ⟨b, bs, hd⟩ := List.exists_cons_of_ne_nil (utf8EncodeChar_ne_nil d)
      rw [utf8_cons, hd]
      exact List.nil_lt_cons b _
  | cons c s ih =>
    cases t with
    | nil => exact absurd h (List.not_lt_nil _)
    | cons d t =>
      rw [utf8_cons, utf8_cons]
      obtain hlt | ⟨rfl, hlt⟩ := List.cons_lt_cons_iff.mp h
      · exact utf8EncodeChar_append_lt hlt _ _
      · exact List.append_left_lt (ih hlt)

theorem utf8_lt_iff : utf8 s < utf8 t ↔ s < t := by
  constructor
  case mpr => exact utf8_lt_utf8
  case mp =>
    intro h
    by_contra hnot
    obtain hlt | rfl := List.le_iff_lt_or_eq.mp (List.not_lt.mp hnot)
    · exact List.lt_asymm h (utf8_lt_utf8 hlt)
    · exact List.lt_irrefl _ h

end ExcerptSearch.Text
