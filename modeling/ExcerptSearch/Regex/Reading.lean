import ExcerptSearch.Regex.Faithful
import ExcerptSearch.Regex.Walk

namespace ExcerptSearch.Regex.Program

def reachable (p : Program) (h : Array Char) (i : Nat) (as : List Nat) : List Nat :=
  (walk (p.silent h i) (as.length + 2 * p.accept) as .empty).toList

def advance (p : Program) (h : Array Char) (i : Nat) (as : List Nat) : List Nat :=
  as.filterMap (p.taken? h i)

-- The place where the preferred way from the given addresses accepts, in a part of the given length
-- of the text. What is less preferred than a way that accepts is not followed any more.
def stop? (p : Program) (h : Array Char) : Nat → Nat → List Nat → Option Nat
  | 0, _, _          => none
  | _, _, []         => none
  | length + 1, i, as =>
    let ways := p.reachable h i as
    let later := p.stop? h length (i + 1) (p.advance h i (ways.takeWhile (· != p.accept)))
    if ways.contains p.accept then later.or (some i) else later

def accepts (p : Program) (h : Array Char) : Nat → Nat → List Nat → Bool
  | 0, _, _           => false
  | length + 1, i, as =>
    let ways := p.reachable h i (as ++ [0])
    ways.contains p.accept || p.accepts h length (i + 1) (p.advance h i ways)

section Facts

variable {p : Program} {h : Array Char} {i j a b : Nat} {as : List Nat}

theorem length_silent_le : (p.silent h i a).length ≤ 2 := by
  unfold silent
  split <;> (try split) <;> simp

theorem silent_of_accept_le (ha : p.accept ≤ a) : p.silent h i a = [] := by
  simp only [accept] at ha
  simp [silent, Array.getElem?_eq_none ha]

theorem mem_reachable : b ∈ p.reachable h i as ↔ ∃ a ∈ as, Reaches (p.silent h i) a b := by
  rw [reachable, Trail.mem_toList,
    mem_walk (fun _ => length_silent_le) (fun _ => silent_of_accept_le) (Nat.le_refl _)]

theorem leads_of_reaches (hr : Reaches (p.silent h i) a b) : p.Leads h a i b i := by
  induction hr with
  | refl => exact ⟨0, .zero _ i⟩
  | step hs _ ih => exact (leads_of_silent hs).trans ih

theorem leads_iff : p.Leads h a i b j ↔ (i = j ∧ Reaches (p.silent h i) a b) ∨
    ∃ c d, Reaches (p.silent h i) a c ∧ p.taken? h i c = some d ∧ p.Leads h d (i + 1) b j := by
  constructor
  · rintro ⟨n, hn⟩
    induction hn with
    | zero a i => exact .inl ⟨rfl, .refl a⟩
    | silent hs _ ih =>
      rcases ih with ⟨hij, hr⟩ | ⟨c, d, hr, ht, hl⟩
      · exact .inl ⟨hij, .step hs hr⟩
      · exact .inr ⟨c, d, .step hs hr, ht, hl⟩
    | taken ht hr => exact .inr ⟨_, _, .refl _, ht, _, hr⟩
  · rintro (⟨rfl, hr⟩ | ⟨c, d, hr, ht, n, hn⟩)
    · exact leads_of_reaches hr
    · exact (leads_of_reaches hr).trans ⟨n + 1, .taken ht hn⟩

theorem le_of_leads (hl : p.Leads h a i b j) : i ≤ j := by
  obtain ⟨n, hn⟩ := hl
  induction hn with
  | zero => exact Nat.le_refl _
  | silent _ _ ih => exact ih
  | taken _ _ ih => omega

theorem mem_advance : b ∈ p.advance h i as ↔ ∃ a ∈ as, p.taken? h i a = some b :=
  List.mem_filterMap

theorem leads_of_stop? {length : Nat} (he : p.stop? h length i as = some j) :
    ∃ a ∈ as, p.Leads h a i p.accept j := by
  induction length generalizing i j as with
  | zero => simp [stop?] at he
  | succ length ih =>
    match as with
    | [] => simp [stop?] at he
    | b :: bs =>
      have hlater : ∀ {k}, p.stop? h length (i + 1) (p.advance h i
          ((p.reachable h i (b :: bs)).takeWhile (· != p.accept))) = some k →
          ∃ a ∈ b :: bs, p.Leads h a i p.accept k := fun hk => by
        obtain ⟨d, hd, hl⟩ := ih hk
        obtain ⟨c, hc, ht⟩ := mem_advance.mp hd
        obtain ⟨a, ha, hr⟩ := mem_reachable.mp (List.takeWhile_subset _ hc)
        exact ⟨a, ha, leads_iff.mpr (.inr ⟨c, d, hr, ht, hl⟩)⟩
      simp only [stop?] at he
      split at he
      · rename_i hacc
        rcases Option.or_eq_some_iff.mp he with he | ⟨-, he⟩
        · exact hlater he
        · obtain rfl := Option.some.inj he
          obtain ⟨a, ha, hr⟩ := mem_reachable.mp (List.contains_iff_mem.mp hacc)
          exact ⟨a, ha, leads_of_reaches hr⟩
      · exact hlater he

theorem takeWhile_bne_of_not_mem (ha : a ∉ as) : as.takeWhile (· != a) = as := by
  induction as with
  | nil => rfl
  | cons b as ih =>
    rw [List.mem_cons, not_or] at ha
    have hb : (b != a) = true := bne_iff_ne.mpr (Ne.symm ha.1)
    simp only [List.takeWhile_cons, hb, if_true, ih ha.2]

theorem stop?_isSome {length : Nat} (ha : a ∈ as) (hl : p.Leads h a i p.accept j)
    (hj : j < i + length) : (p.stop? h length i as).isSome := by
  induction length generalizing i as a with
  | zero => have := le_of_leads hl; omega
  | succ length ih =>
    match as with
    | [] => simp at ha
    | c :: cs =>
      simp only [stop?]
      split
      · simp
      · rename_i hacc
        have hnot : p.accept ∉ p.reachable h i (c :: cs) := by simpa using hacc
        rw [takeWhile_bne_of_not_mem hnot]
        rcases leads_iff.mp hl with ⟨-, hr⟩ | ⟨d, e, hr, ht, hl⟩
        · exact absurd (mem_reachable.mpr ⟨a, ha, hr⟩) hnot
        · exact ih (mem_advance.mpr ⟨d, mem_reachable.mpr ⟨a, ha, hr⟩, ht⟩) hl (by omega)

theorem accepts_iff {length : Nat} : p.accepts h length i as = true ↔
    ∃ k < i + length, (∃ a ∈ as, p.Leads h a i p.accept k ∧ 0 < length) ∨
      ∃ s, i ≤ s ∧ s < i + length ∧ p.Leads h 0 s p.accept k := by
  induction length generalizing i as with
  | zero => simp [accepts]; omega
  | succ length ih =>
    simp only [accepts, Bool.or_eq_true, ih, List.contains_iff_mem, mem_reachable, mem_advance]
    constructor
    · rintro (⟨a, ha, hr⟩ | ⟨k, hk, ⟨d, ⟨c, ⟨a, ha, hr⟩, ht⟩, hl, -⟩ | ⟨s, his, hs, hl⟩⟩)
      · refine ⟨i, by omega, ?_⟩
        rcases List.mem_append.mp ha with ha | ha
        · exact .inl ⟨a, ha, leads_of_reaches hr, by omega⟩
        · obtain rfl := List.mem_singleton.mp ha
          exact .inr ⟨i, by omega, by omega, leads_of_reaches hr⟩
      · refine ⟨k, by omega, ?_⟩
        have hl := leads_iff.mpr (.inr ⟨c, d, hr, ht, hl⟩)
        rcases List.mem_append.mp ha with ha | ha
        · exact .inl ⟨a, ha, hl, by omega⟩
        · obtain rfl := List.mem_singleton.mp ha
          exact .inr ⟨i, by omega, by omega, hl⟩
      · exact ⟨k, by omega, .inr ⟨s, by omega, by omega, hl⟩⟩
    · have hnow : ∀ {a k}, a ∈ as ++ [0] → p.Leads h a i p.accept k → k < i + (length + 1) →
          (∃ a ∈ as ++ [0], Reaches (p.silent h i) a p.accept) ∨
            ∃ k < i + 1 + length, (∃ d, (∃ c, (∃ a ∈ as ++ [0], Reaches (p.silent h i) a c) ∧
              p.taken? h i c = some d) ∧ p.Leads h d (i + 1) p.accept k ∧ 0 < length) ∨
              ∃ s, i + 1 ≤ s ∧ s < i + 1 + length ∧ p.Leads h 0 s p.accept k := by
        intro a k ha hl hk
        rcases leads_iff.mp hl with ⟨-, hr⟩ | ⟨c, d, hr, ht, hl⟩
        · exact .inl ⟨a, ha, hr⟩
        · have := le_of_leads hl
          exact .inr ⟨k, by omega, .inl ⟨d, ⟨c, ⟨a, ha, hr⟩, ht⟩, hl, by omega⟩⟩
      rintro ⟨k, hk, ⟨a, ha, hl, -⟩ | ⟨s, his, hs, hl⟩⟩
      · exact hnow (List.mem_append.mpr (.inl ha)) hl hk
      · rcases Nat.lt_or_eq_of_le his with hlt | rfl
        · exact .inr ⟨k, by omega, .inr ⟨s, by omega, by omega, hl⟩⟩
        · exact hnow (by simp) hl hk

end Facts
end ExcerptSearch.Regex.Program
