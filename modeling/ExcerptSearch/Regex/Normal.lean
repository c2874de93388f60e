import ExcerptSearch.Regex.Matches

namespace ExcerptSearch.Regex

def isZeroWidth : Regex → Bool
  | empty         => true
  | set _         => false
  | look _        => true
  | group _ r     => r.isZeroWidth
  | cat r s       => r.isZeroWidth && s.isZeroWidth
  | alt r s       => r.isZeroWidth && s.isZeroWidth
  | rep r _ _ _   => r.isZeroWidth

def parts : Regex → List Regex
  | empty              => []
  | cat r s            => r.parts ++ s.parts
  | rep r m extra g    =>
    if m = 0 ∧ extra = some 0 then []
    else if m = 1 ∧ extra = some 0 then r.parts
    else if r.isZeroWidth then if m = 0 then [rep r 0 (some 1) g] else r.parts
    else [rep r m extra g]
  | r                  => [r]

def concat (rs : List Regex) : Regex :=
  seq (rs.flatMap parts)

def options : Regex → List Regex
  | alt r s => r.options ++ s.options
  | r       => [r]

def commonPrefix : List Regex → List Regex → List Regex
  | r :: rs, s :: ss => if r = s then r :: commonPrefix rs ss else []
  | _, _             => []

def commonPrefixes : List (List Regex) → List Regex
  | []        => []
  | [rs]      => rs
  | rs :: rss => commonPrefix rs (commonPrefixes rss)

-- A choice, where what all expressions begin with is read once, if each has more than one part.
def factored (rs : List Regex) : Regex :=
  let begun := commonPrefixes (rs.map parts)
  if begun.isEmpty || rs.any (·.parts.length < 2) then oneOf rs
  else seq (begun ++ [oneOf (rs.map fun r => seq (r.parts.drop begun.length))])

def choice (rs : List Regex) : Regex :=
  factored (rs.flatMap options)

section Facts

variable {h : Array Char} {i j : Nat}

theorem eq_of_isZeroWidth {r : Regex} (hr : r.isZeroWidth) (hm : r.Matches h i j) : i = j := by
  induction r generalizing i j with
  | empty => exact hm
  | set => simp [isZeroWidth] at hr
  | look => exact hm.2
  | group _ r ih => exact ih hr hm
  | cat r s ihr ihs =>
    simp only [isZeroWidth, Bool.and_eq_true] at hr
    obtain ⟨k, h₁, h₂⟩ := hm
    exact (ihr hr.1 h₁).trans (ihs hr.2 h₂)
  | alt r s ihr ihs =>
    simp only [isZeroWidth, Bool.and_eq_true] at hr
    exact hm.elim (ihr hr.1) (ihs hr.2)
  | rep r m extra g ih =>
    obtain ⟨n, -, -, hs⟩ := hm
    induction hs with
    | zero => rfl
    | succ h₁ _ ih' => exact (ih hr h₁).trans ih'

-- Any number of copies of an expression whose matches are empty say what one copy says.
theorem steps_succ_of_isZeroWidth {r : Regex} (hr : r.isZeroWidth) {n : Nat} :
    Steps (r.Matches h) (n + 1) i j ↔ r.Matches h i j := by
  induction n generalizing i with
  | zero => exact steps_one
  | succ n ih =>
    rw [steps_succ]
    simp only [ih]
    constructor
    · rintro ⟨k, h₁, h₂⟩
      exact eq_of_isZeroWidth hr h₁ ▸ h₂
    · intro hm
      have := eq_of_isZeroWidth hr hm
      exact ⟨i, this ▸ hm, hm⟩

theorem matches_parts {r : Regex} : (seq r.parts).Matches h i j ↔ r.Matches h i j := by
  fun_induction parts r generalizing i j with
  | case1 => simp [seq]
  | case2 r s ihr ihs => simp only [matches_seq_append, Matches, ihr, ihs]
  | case3 r m extra g hc =>
    obtain ⟨rfl, rfl⟩ := hc
    simp only [seq, Matches, Option.some.injEq, forall_eq', Nat.add_zero]
    constructor
    · exact fun hm => ⟨0, Nat.le_refl 0, Nat.le_refl 0, steps_zero.mpr hm⟩
    · rintro ⟨n, -, h₂, hs⟩
      obtain rfl : n = 0 := by omega
      exact steps_zero.mp hs
  | case4 r m extra g _ hc ih =>
    obtain ⟨rfl, rfl⟩ := hc
    rw [ih]
    simp only [Matches, Option.some.injEq, forall_eq', Nat.add_zero]
    constructor
    · exact fun hm => ⟨1, Nat.le_refl 1, Nat.le_refl 1, steps_one.mpr hm⟩
    · rintro ⟨n, h₁, h₂, hs⟩
      obtain rfl : n = 1 := by omega
      exact steps_one.mp hs
  | case5 r extra g hr hne _ =>
    have hextra : extra ≠ some 0 := fun he => hne ⟨rfl, he⟩
    simp only [seq, Matches, Option.some.injEq, forall_eq', Nat.zero_add, Nat.zero_le, true_and]
    constructor
    · rintro ⟨n, hn, hs⟩
      refine ⟨n, fun k hk => ?_, hs⟩
      have : k ≠ 0 := fun h0 => hextra (h0 ▸ hk)
      omega
    · rintro ⟨n, -, hs⟩
      cases n with
      | zero => exact ⟨0, by omega, hs⟩
      | succ n => exact ⟨1, by omega, steps_one.mpr ((steps_succ_of_isZeroWidth hr).mp hs)⟩
  | case6 r m extra g _ _ hr hm ih =>
    obtain ⟨m, rfl⟩ := Nat.exists_eq_succ_of_ne_zero hm
    rw [ih]
    simp only [Matches]
    constructor
    · exact fun hm => ⟨m + 1, Nat.le_refl _, fun k _ => by omega,
        (steps_succ_of_isZeroWidth hr).mpr hm⟩
    · rintro ⟨n, hn, -, hs⟩
      obtain ⟨n, rfl⟩ := Nat.exists_eq_succ_of_ne_zero (Nat.ne_of_gt (Nat.lt_of_lt_of_le
        (Nat.succ_pos m) hn))
      exact (steps_succ_of_isZeroWidth hr).mp hs
  | case7 => exact .rfl
  | case8 => exact .rfl

theorem matches_concat {rs : List Regex} : (concat rs).Matches h i j ↔ (seq rs).Matches h i j := by
  induction rs generalizing i with
  | nil => exact .rfl
  | cons r rs ih =>
    simp only [concat, List.flatMap_cons, matches_seq_append, matches_seq_cons, Matches,
      matches_parts] at ih ⊢
    simp only [ih]

theorem matches_options {r : Regex} :
    (∃ s ∈ r.options, s.Matches h i j) ↔ r.Matches h i j := by
  fun_induction options r with
  | case1 r s ihr ihs => simp only [List.mem_append, or_and_right, exists_or, ihr, ihs, Matches]
  | case2 => simp

theorem options_ne_nil {r : Regex} : r.options ≠ [] := by
  fun_induction options r with simp_all

theorem commonPrefix_prefix {rs ss : List Regex} :
    commonPrefix rs ss <+: rs ∧ commonPrefix rs ss <+: ss := by
  fun_induction commonPrefix rs ss with
  | case1 r rs ss ih => simp [ih]
  | case2 => simp
  | case3 => simp

theorem commonPrefixes_prefix {rss : List (List Regex)} :
    ∀ rs ∈ rss, commonPrefixes rss <+: rs := by
  fun_induction commonPrefixes rss with
  | case1 => simp
  | case2 rs => simp
  | case3 rs rss _ ih =>
    intro ss hs
    rcases List.mem_cons.mp hs with rfl | hs
    · exact commonPrefix_prefix.1
    · exact commonPrefix_prefix.2.trans (ih ss hs)

theorem matches_factored {rs : List Regex} (hne : rs ≠ []) :
    (factored rs).Matches h i j ↔ ∃ r ∈ rs, r.Matches h i j := by
  simp only [factored]
  split
  · exact matches_oneOf hne
  · have hsplit : ∀ r ∈ rs, commonPrefixes (rs.map parts) ++
        r.parts.drop (commonPrefixes (rs.map parts)).length = r.parts := fun r hr => by
      obtain ⟨t, ht⟩ := commonPrefixes_prefix r.parts (List.mem_map.mpr ⟨r, hr, rfl⟩)
      rw [← ht, List.drop_left]
    generalize commonPrefixes (rs.map parts) = begun at hsplit ⊢
    have hparts : ∀ r ∈ rs, (r.Matches h i j ↔
        ∃ k, (seq begun).Matches h i k ∧ (seq (r.parts.drop begun.length)).Matches h k j) := by
      intro r hr
      rw [← matches_parts, ← hsplit r hr, matches_seq_append, hsplit r hr]
      exact .rfl
    have hne' : (rs.map fun r => seq (r.parts.drop begun.length)) ≠ [] := by simpa using hne
    simp only [matches_seq_append, Matches, seq, matches_oneOf hne', List.mem_map]
    constructor
    · rintro ⟨k, hk, s, ⟨r, hr, rfl⟩, hs⟩
      exact ⟨r, hr, (hparts r hr).mpr ⟨k, hk, hs⟩⟩
    · rintro ⟨r, hr, hm⟩
      obtain ⟨k, hk, hs⟩ := (hparts r hr).mp hm
      exact ⟨k, hk, _, ⟨r, hr, rfl⟩, hs⟩

theorem matches_choice {rs : List Regex} (hne : rs ≠ []) :
    (choice rs).Matches h i j ↔ ∃ r ∈ rs, r.Matches h i j := by
  have hne' : rs.flatMap options ≠ [] := by
    obtain ⟨r, rs, rfl⟩ := List.exists_cons_of_ne_nil hne
    simp [options_ne_nil]
  simp only [choice, matches_factored hne', List.mem_flatMap]
  constructor
  · rintro ⟨s, ⟨r, hr, hs⟩, hm⟩
    exact ⟨r, hr, matches_options.mp ⟨s, hs, hm⟩⟩
  · rintro ⟨r, hr, hm⟩
    obtain ⟨s, hs, hm⟩ := matches_options.mpr hm
    exact ⟨s, ⟨r, hr, hs⟩, hm⟩

end Facts
end ExcerptSearch.Regex
