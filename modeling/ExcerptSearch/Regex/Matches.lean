import ExcerptSearch.Regex.Basic

namespace ExcerptSearch.Regex

inductive Steps (R : Nat → Nat → Prop) : Nat → Nat → Nat → Prop
  | zero (i : Nat) : Steps R 0 i i
  | succ {n i j k : Nat} : R i j → Steps R n j k → Steps R (n + 1) i k

def Matches (h : Array Char) : Regex → Nat → Nat → Prop
  | empty, i, j             => i = j
  | set s, i, j             => h[i]?.any s.mem ∧ j = i + 1
  | look l, i, j            => l.holds h i ∧ i = j
  | group _ r, i, j         => r.Matches h i j
  | cat r s, i, k           => ∃ j, r.Matches h i j ∧ s.Matches h j k
  | alt r s, i, j           => r.Matches h i j ∨ s.Matches h i j
  | rep r min extra _, i, j =>
    ∃ n, min ≤ n ∧ (∀ m, extra = some m → n ≤ min + m) ∧ Steps (r.Matches h) n i j

section Steps

variable {R : Nat → Nat → Prop} {m n i j k : Nat}

theorem Steps.append (h : Steps R m i j) (h' : Steps R n j k) : Steps R (m + n) i k := by
  induction h with
  | zero => simpa using h'
  | succ hr _ ih => rw [Nat.succ_add]; exact .succ hr (ih h')

theorem Steps.split (h : Steps R (m + n) i k) : ∃ j, Steps R m i j ∧ Steps R n j k := by
  induction m generalizing i with
  | zero => exact ⟨i, .zero i, by simpa using h⟩
  | succ m ih =>
    rw [Nat.succ_add] at h
    cases h with
    | succ hr hs =>
      obtain ⟨j, h₁, h₂⟩ := ih hs
      exact ⟨j, .succ hr h₁, h₂⟩

theorem steps_zero : Steps R 0 i j ↔ i = j :=
  ⟨fun h => by cases h; rfl, fun h => h ▸ .zero i⟩

theorem steps_succ : Steps R (n + 1) i k ↔ ∃ j, R i j ∧ Steps R n j k :=
  ⟨fun h => by cases h with | succ hr hs => exact ⟨_, hr, hs⟩, fun ⟨_, hr, hs⟩ => .succ hr hs⟩

theorem steps_one : Steps R 1 i j ↔ R i j := by
  simp [steps_succ, steps_zero]

end Steps

theorem Matches.bounds {h : Array Char} {r : Regex} {i j : Nat} (hm : r.Matches h i j) :
    i = j ∨ i < j ∧ j ≤ h.size := by
  induction r generalizing i j with
  | empty => exact .inl hm
  | set s =>
    obtain ⟨hc, rfl⟩ := hm
    have : i < h.size := by
      rcases Nat.lt_or_ge i h.size with hi | hi
      · exact hi
      · simp [Array.getElem?_eq_none hi] at hc
    omega
  | look l => exact .inl hm.2
  | group _ r ih => exact ih hm
  | cat r s ihr ihs =>
    obtain ⟨k, hr, hs⟩ := hm
    have := ihr hr
    have := ihs hs
    omega
  | alt r s ihr ihs => exact hm.elim ihr ihs
  | rep r min extra greedy ih =>
    obtain ⟨n, -, -, hs⟩ := hm
    induction hs with
    | zero => exact .inl rfl
    | succ hr _ ih' =>
      have := ih hr
      omega

section Seq

variable {h : Array Char} {i j k : Nat}

@[simp]
theorem matches_empty : empty.Matches h i j ↔ i = j :=
  .rfl

theorem matches_cat_empty {r : Regex} : (cat r empty).Matches h i j ↔ r.Matches h i j := by
  simp [Matches]

theorem matches_seq_cons {r : Regex} {rs : List Regex} :
    (seq (r :: rs)).Matches h i k ↔ (cat r (seq rs)).Matches h i k := by
  cases rs with
  | nil => exact matches_cat_empty.symm
  | cons => exact .rfl

theorem matches_seq_append {rs ss : List Regex} :
    (seq (rs ++ ss)).Matches h i k ↔ (cat (seq rs) (seq ss)).Matches h i k := by
  induction rs generalizing i with
  | nil => simp [seq, Matches]
  | cons r rs ih =>
    simp only [List.cons_append, matches_seq_cons, Matches, ih]
    exact ⟨fun ⟨j, hr, l, hs, ht⟩ => ⟨l, ⟨j, hr, hs⟩, ht⟩,
      fun ⟨l, ⟨j, hr, hs⟩, ht⟩ => ⟨j, hr, l, hs, ht⟩⟩

theorem matches_oneOf {rs : List Regex} (hne : rs ≠ []) :
    (oneOf rs).Matches h i j ↔ ∃ r ∈ rs, r.Matches h i j := by
  induction rs with
  | nil => exact absurd rfl hne
  | cons r rs ih =>
    cases rs with
    | nil => simp [oneOf]
    | cons s rs =>
      have := ih (by simp)
      simp only [oneOf, Matches, List.mem_cons, exists_eq_or_imp] at this ⊢
      rw [this]

end Seq
end ExcerptSearch.Regex
