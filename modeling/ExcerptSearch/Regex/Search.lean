import ExcerptSearch.Regex.Reading

namespace ExcerptSearch.Regex

structure Found where
  start : Nat
  stop  : Nat
  deriving DecidableEq

namespace Found

def isEmpty (m : Found) : Bool :=
  m.start == m.stop

end Found

namespace Program

def matchAt? (p : Program) (h : Array Char) (i : Nat) : Option Found :=
  (p.stop? h (h.size + 1 - i) i [0]).map (⟨i, ·⟩)

def firstOf? (p : Program) (h : Array Char) : Nat → Nat → Option Found
  | 0, _     => none
  | n + 1, i => match p.matchAt? h i with
    | some m => some m
    | none   => firstOf? p h n (i + 1)

def matchesFrom (p : Program) (h : Array Char) (i : Nat) : Bool :=
  p.accepts h (h.size + 1 - i) i []

-- The leftmost match that starts at place `i` or later. Only where there is one are the places
-- tried in turn.
def find? (p : Program) (h : Array Char) (i : Nat) : Option Found :=
  if p.matchesFrom h i then p.firstOf? h (h.size + 1 - i) i else none

def isMatch (p : Program) (h : Array Char) : Bool :=
  p.matchesFrom h 0

-- The successive matches from left to right. Each search goes on where the match before it stops;
-- an empty match right there is passed over.
def findAll (p : Program) (h : Array Char) : List Found :=
  go (h.size + 2) 0 none
where
  go : Nat → Nat → Option Nat → List Found
    | 0, _, _           => []
    | fuel + 1, i, last =>
      match p.find? h i with
      | none   => []
      | some m =>
        if m.isEmpty && last == some m.stop then
          match p.find? h (i + 1) with
          | none   => []
          | some m => m :: go fuel m.stop (some m.stop)
        else m :: go fuel m.stop (some m.stop)

section Facts

variable {r : Regex} {h : Array Char} {i j n : Nat}

theorem matchesFrom_iff :
    (ofRegex r).matchesFrom h i = true ↔ ∃ k, i ≤ k ∧ k ≤ h.size ∧ ∃ j, r.Matches h k j := by
  simp only [matchesFrom, accepts_iff, leads_accept_iff, List.not_mem_nil, false_and, exists_false,
    false_or]
  constructor
  · rintro ⟨j, -, k, hik, hk, hm⟩
    exact ⟨k, hik, by omega, j, hm⟩
  · rintro ⟨k, hik, hk, j, hm⟩
    have := hm.bounds
    exact ⟨j, by omega, k, hik, by omega, hm⟩

theorem isMatch_iff : (ofRegex r).isMatch h = true ↔ ∃ i ≤ h.size, ∃ j, r.Matches h i j := by
  simp [isMatch, matchesFrom_iff]

theorem matches_of_matchAt? {m : Found} (hm : (ofRegex r).matchAt? h i = some m) :
    m.start = i ∧ r.Matches h i m.stop := by
  simp only [matchAt?, Option.map_eq_some_iff] at hm
  obtain ⟨j, hj, rfl⟩ := hm
  obtain ⟨a, ha, hl⟩ := leads_of_stop? hj
  obtain rfl := List.mem_singleton.mp ha
  exact ⟨rfl, leads_accept_iff.mp hl⟩

theorem matchAt?_eq_none (hi : i ≤ h.size) :
    (ofRegex r).matchAt? h i = none ↔ ∀ j, ¬r.Matches h i j := by
  constructor
  · intro hn j hm
    have := hm.bounds
    have : ((ofRegex r).stop? h (h.size + 1 - i) i [0]).isSome :=
      stop?_isSome (List.mem_singleton.mpr rfl) (leads_accept_iff.mpr hm) (by omega)
    simp_all [matchAt?]
  · intro hn
    cases hm : (ofRegex r).matchAt? h i with
    | none => rfl
    | some m => exact absurd (matches_of_matchAt? hm).2 (hn _)

theorem firstOf?_eq_none (hn : i + n ≤ h.size + 1) : (ofRegex r).firstOf? h n i = none ↔
    ∀ k, i ≤ k → k < i + n → ∀ j, ¬r.Matches h k j := by
  induction n generalizing i with
  | zero => simp [firstOf?]; omega
  | succ n ih =>
    unfold firstOf?
    split
    · rename_i m hm
      have := (matches_of_matchAt? hm).2
      simp only [reduceCtorEq, false_iff]
      exact fun hk => hk i (Nat.le_refl i) (by omega) _ this
    · rename_i hm
      rw [matchAt?_eq_none (by omega)] at hm
      rw [ih (by omega)]
      constructor
      · intro hk k hik hkn
        rcases Nat.lt_or_eq_of_le hik with hik | rfl
        · exact hk k hik (by omega)
        · exact hm
      · exact fun hk k hik hkn => hk k (by omega) (by omega)

theorem firstOf?_eq_some (hn : i + n ≤ h.size + 1) {m : Found}
    (hm : (ofRegex r).firstOf? h n i = some m) :
    i ≤ m.start ∧ m.start < i + n ∧ r.Matches h m.start m.stop ∧
      ∀ k, i ≤ k → k < m.start → ∀ j, ¬r.Matches h k j := by
  induction n generalizing i with
  | zero => simp [firstOf?] at hm
  | succ n ih =>
    unfold firstOf? at hm
    split at hm
    · rename_i m' hm'
      obtain rfl := Option.some.inj hm
      obtain ⟨hs, hr⟩ := matches_of_matchAt? hm'
      rw [hs]
      exact ⟨Nat.le_refl i, by omega, hr, fun k _ _ => by omega⟩
    · rename_i hnone
      obtain ⟨h₁, h₂, h₃, h₄⟩ := ih (by omega) hm
      refine ⟨by omega, by omega, h₃, fun k hik hk => ?_⟩
      rcases Nat.lt_or_eq_of_le hik with hik | rfl
      · exact h₄ k hik hk
      · exact (matchAt?_eq_none (by omega)).mp hnone

theorem find?_eq_some {m : Found} (hm : (ofRegex r).find? h i = some m) :
    i ≤ m.start ∧ m.start ≤ h.size ∧ r.Matches h m.start m.stop ∧
      ∀ k, i ≤ k → k < m.start → ∀ j, ¬r.Matches h k j := by
  unfold find? at hm
  split at hm
  · rename_i hi
    obtain ⟨k, hik, hk, -⟩ := matchesFrom_iff.mp hi
    obtain ⟨h₁, h₂, h₃, h₄⟩ := firstOf?_eq_some (by omega) hm
    exact ⟨h₁, by omega, h₃, h₄⟩
  · simp at hm

theorem find?_eq_none :
    (ofRegex r).find? h i = none ↔ ∀ k, i ≤ k → k ≤ h.size → ∀ j, ¬r.Matches h k j := by
  unfold find?
  split
  · rename_i hi
    obtain ⟨k, hik, hk, j, hm⟩ := matchesFrom_iff.mp hi
    rw [firstOf?_eq_none (by omega)]
    exact ⟨fun hn k hik hk => hn k hik (by omega), fun hn k hik hk => hn k hik (by omega)⟩
  · rename_i hi
    rw [matchesFrom_iff] at hi
    simp only [true_iff]
    exact fun k hik hk j hm => hi ⟨k, hik, hk, j, hm⟩

theorem find?_isSome : ((ofRegex r).find? h 0).isSome = (ofRegex r).isMatch h := by
  rw [Bool.eq_iff_iff, isMatch_iff, Option.isSome_iff_ne_none, ne_eq, find?_eq_none]
  simp

end Facts
end Program
end ExcerptSearch.Regex
