import ExcerptSearch.Unicode.Shift

namespace ExcerptSearch.Unicode

namespace SpanTree

variable {α : Type} {t : SpanTree α} {lo hi k : Nat}

def misses (lo hi : Nat) : SpanTree α → Bool
  | leaf => true
  | node left span right =>
    if hi < span.lo then left.misses lo hi
    else span.lo ≤ lo && span.hi < lo && right.misses lo hi

theorem find?_of_misses (h : t.misses lo hi = true) (hlo : lo ≤ k) (hhi : k ≤ hi) :
    t.find? k = none := by
  induction t with
  | leaf => rfl
  | node left span right ihl ihr =>
    unfold misses at h
    unfold find?
    split at h
    case isTrue hspan => rw [if_pos (Nat.lt_of_le_of_lt hhi hspan), ihl h]
    case isFalse =>
      simp only [Bool.and_eq_true, decide_eq_true_eq] at h
      obtain ⟨⟨hstart, hstop⟩, h⟩ := h
      have hleft : ¬k < span.lo := Nat.not_lt_of_le (Nat.le_trans hstart hlo)
      have hright : span.hi < k := Nat.lt_of_lt_of_le hstop hlo
      rw [if_neg hleft, if_pos hright, ihr h]

end SpanTree

-- Does the row `(lo, hi, step, target)` move `k` to `l`?
def Moves : Nat × Nat × Nat × Nat → Nat → Nat → Prop
  | (lo, hi, step, target), k, l => lo ≤ k ∧ k ≤ hi ∧ (k - lo) % step = 0 ∧ l = k - lo + target

theorem exists_row_of_shift? {rows : List (Nat × Nat × Nat × Nat)} {k l : Nat}
    (h : shift? (shifts rows) k = some l) : ∃ row ∈ rows, Moves row k l := by
  obtain ⟨span, hfind, hspan⟩ := Option.bind_eq_some_iff.mp h
  obtain ⟨hmem, hlo, hhi⟩ := SpanTree.mem_of_find?_ofList hfind
  obtain ⟨row, hrow, rfl⟩ := List.mem_map.mp hmem
  obtain ⟨hstep, hl⟩ := Option.ite_none_right_eq_some.mp hspan
  exact ⟨row, hrow, hlo, hhi, beq_iff_eq.mp hstep, (Option.some.inj hl).symm⟩

theorem toNat_ofNat_of_lt {k : Nat} (h : k < 0xd800) : (Char.ofNat k).toNat = k := by
  unfold Char.ofNat
  rw [dif_pos (.inl h)]
  rfl

theorem toNat_ofNat_or (k : Nat) : (Char.ofNat k).toNat = k ∨ (Char.ofNat k).toNat = 0 := by
  unfold Char.ofNat
  by_cases hk : k.isValidChar
  case pos =>
    rw [dif_pos hk]
    exact .inl rfl
  case neg =>
    rw [dif_neg hk]
    exact .inr rfl

end ExcerptSearch.Unicode
