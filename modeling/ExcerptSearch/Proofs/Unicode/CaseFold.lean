import ExcerptSearch.Proofs.Unicode.Shift
import ExcerptSearch.Unicode.CaseFold

namespace ExcerptSearch.Unicode

variable {c d : Char} {k l : Nat}

def IsSign (k : Nat) : Prop :=
  0 < k ∧ k < 0x41 ∨ 0x5a < k ∧ k < 0x61 ∨ 0x7a < k ∧ k < 0x80

instance (k : Nat) : Decidable (IsSign k) :=
  inferInstanceAs (Decidable (_ ∨ _ ∨ _))

def AvoidsSigns : Nat × Nat × Nat × Nat → Prop
  | (lo, hi, _, target) => 0x80 ≤ target ∨ 0x41 ≤ target ∧ target + (hi - lo) ≤ 0x5a ∨
    0x61 ≤ target ∧ target + (hi - lo) ≤ 0x7a

instance (row : Nat × Nat × Nat × Nat) : Decidable (AvoidsSigns row) :=
  inferInstanceAs (Decidable (_ ∨ _ ∨ _))

theorem not_isSign_of_moves {row : Nat × Nat × Nat × Nat} (hrow : AvoidsSigns row)
    (h : Moves row k l) : ¬IsSign l := by
  obtain ⟨lo, hi, step, target⟩ := row
  obtain ⟨_, _, _, _⟩ := h
  unfold AvoidsSigns at hrow
  unfold IsSign
  omega

theorem foldUpRows_avoid_signs : ∀ row ∈ foldUpRows, AvoidsSigns row := by
  decide +kernel

theorem foldDownRows_avoid_signs : ∀ row ∈ foldDownRows, AvoidsSigns row := by
  decide +kernel

theorem not_isSign_ofNat_of_shift? {rows : List (Nat × Nat × Nat × Nat)}
    (hrows : ∀ row ∈ rows, AvoidsSigns row) (h : shift? (shifts rows) k = some l) :
    ¬IsSign (Char.ofNat l).toNat := by
  have ⟨row, hrow, hmoves⟩ := exists_row_of_shift? h
  cases toNat_ofNat_or l with
  | inl hl =>
    rw [hl]
    exact not_isSign_of_moves (hrows row hrow) hmoves
  | inr hl => simp [hl, IsSign]

-- What comes before a sign in its case class is the sign itself.
theorem eq_of_isSign_nextCase (h : IsSign (nextCase c).toNat) : nextCase c = c := by
  unfold nextCase at h ⊢
  split
  case h_1 k hup =>
    rw [hup] at h
    exact absurd h (not_isSign_ofNat_of_shift? foldUpRows_avoid_signs hup)
  case h_2 hup =>
    rw [hup] at h
    split
    case h_1 k hdown =>
      rw [hdown] at h
      exact absurd h (not_isSign_ofNat_of_shift? foldDownRows_avoid_signs hdown)
    case h_2 => rfl

theorem mem_caseClass_self (c : Char) : c ∈ caseClass c :=
  List.mem_cons_self

theorem eq_of_mem_others {n : Nat} {e : Char} (hd : IsSign d.toNat)
    (h : d ∈ caseClass.others e n (nextCase c)) : d = c := by
  -- Along the cycle a sign is met right behind itself only.
  induction n generalizing c with
  | zero => exact nomatch h
  | succ n ih =>
    unfold caseClass.others at h
    split at h
    case isTrue => exact nomatch h
    case isFalse =>
      have hnext : d = nextCase c := (List.mem_cons.mp h).elim id ih
      rw [hnext] at hd ⊢
      exact eq_of_isSign_nextCase hd

theorem eq_of_mem_caseClass (hd : IsSign d.toNat) (h : d ∈ caseClass c) : d = c := by
  rw [caseClass, List.mem_cons] at h
  cases h with
  | inl h => exact h
  | inr h => exact eq_of_mem_others hd h

end ExcerptSearch.Unicode
