import ExcerptSearch.Proofs.Unicode.Shift
import ExcerptSearch.Unicode.CombiningClass
import ExcerptSearch.Unicode.Decomposition
import ExcerptSearch.Unicode.Lower

namespace ExcerptSearch.Unicode

variable {c d : Char} {lo hi l : Nat} {row : Nat × Nat × Nat × Nat}

section Single

def Final (c : Char) : Prop :=
  (c.toNat < 0xac00 ∨ 0xd7a3 < c.toNat) ∧ decompositionTable.find? c.toNat = none

instance (c : Char) : Decidable (Final c) :=
  inferInstanceAs (Decidable (_ ∧ _))

theorem Final.decompose_eq (h : Final c) : decompose c = [c] := by
  have hhangul : ¬(0xac00 ≤ c.toNat && c.toNat ≤ 0xd7a3) = true := by
    have := h.1
    simp only [Bool.and_eq_true, decide_eq_true_eq]
    omega
  unfold decompose
  dsimp only
  rw [if_neg hhangul, h.2]

def Low (c : Char) : Prop :=
  c.toNat ≠ 0x0130 ∧ shift? lowerTable c.toNat = none

instance (c : Char) : Decidable (Low c) :=
  inferInstanceAs (Decidable (_ ∧ _))

theorem Low.lower_eq (h : Low c) : lower c = [c] := by
  have hne : ¬(c.toNat == 0x0130) = true := by simpa using h.1
  rw [lower, if_neg hne, h.2]

theorem combiningClass_of_find? (h : combiningTable.find? c.toNat = none) :
    combiningClass c = 0 := by
  unfold combiningClass
  rw [h]

end Single

section Runs

def FinalRun (lo hi : Nat) : Prop :=
  (hi < 0xac00 ∨ 0xd7a3 < lo) ∧ decompositionTable.misses lo hi = true

instance (lo hi : Nat) : Decidable (FinalRun lo hi) :=
  inferInstanceAs (Decidable (_ ∧ _))

theorem FinalRun.final (h : FinalRun lo hi) (hlo : lo ≤ c.toNat) (hhi : c.toNat ≤ hi) : Final c :=
  ⟨h.1.imp (Nat.lt_of_le_of_lt hhi) (Nat.lt_of_lt_of_le · hlo),
    SpanTree.find?_of_misses h.2 hlo hhi⟩

-- Does the run property hold where the row moves from and where it leads to? Zero stands for what
-- is no code point.
def RowRuns (P : Nat → Nat → Prop) : Nat × Nat × Nat × Nat → Prop
  | (lo, hi, _, target) => P 0 0 ∧ P lo hi ∧ P target (target + (hi - lo))

instance (P : Nat → Nat → Prop) [DecidableRel P] (row : Nat × Nat × Nat × Nat) :
    Decidable (RowRuns P row) :=
  inferInstanceAs (Decidable (_ ∧ _))

theorem RowRuns.of_moves {P : Nat → Nat → Prop} {Q : Char → Prop} (h : RowRuns P row)
    (hPQ : ∀ {lo hi c}, P lo hi → lo ≤ c.toNat → c.toNat ≤ hi → Q c) (hm : Moves row c.toNat l) :
    Q c ∧ Q (Char.ofNat l) := by
  obtain ⟨lo, hi, step, target⟩ := row
  obtain ⟨hzero, hsource, htarget⟩ := h
  obtain ⟨hlo, hhi, -, rfl⟩ := hm
  refine ⟨hPQ hsource hlo hhi, ?_⟩
  cases toNat_ofNat_or (c.toNat - lo + target) with
  | inl h => exact hPQ htarget (by omega) (by omega)
  | inr h => exact hPQ hzero (by omega) (by omega)

def RowPairs (P : Char → Char → Prop) : Nat × Nat × Nat × Nat → Prop
  | (lo, hi, step, target) => ∀ i < hi + 1 - lo, i % step = 0 →
    P (Char.ofNat (lo + i)) (Char.ofNat (target + i))

instance (P : Char → Char → Prop) [DecidableRel P] (row : Nat × Nat × Nat × Nat) :
    Decidable (RowPairs P row) :=
  inferInstanceAs (Decidable (∀ _ < _, _))

theorem RowPairs.of_moves {P : Char → Char → Prop} (h : RowPairs P row)
    (hm : Moves row c.toNat l) : P c (Char.ofNat l) := by
  obtain ⟨lo, hi, step, target⟩ := row
  obtain ⟨hlo, hhi, hstep, rfl⟩ := hm
  have hP := h (c.toNat - lo) (by omega) hstep
  rwa [Nat.add_sub_cancel' hlo, Char.ofNat_toNat, Nat.add_comm] at hP

end Runs

section Tables

def Fits (c d : Char) : Prop :=
  decompose d = (decompose c).flatMap lower

instance (c d : Char) : Decidable (Fits c d) :=
  inferInstanceAs (Decidable (_ = _))

-- What is true of a decomposition: it goes no further, only its first character can have another
-- case, and that one has none unless the character that is decomposed has one.
structure Decomposes (c : Char) (ds : List Char) : Prop where
  ne_nil : ds ≠ []
  final  : ∀ d ∈ ds, Final d
  tail   : ∀ d ∈ ds.tail, Low d
  head   : ∀ d ∈ ds.head?, Low d ∨ ¬Low c

instance (c : Char) (ds : List Char) : Decidable (Decomposes c ds) :=
  haveI : Decidable (∀ d ∈ ds, Final d) := List.decidableBAll _ _
  haveI : Decidable (∀ d ∈ ds.tail, Low d) := List.decidableBAll _ _
  haveI : Decidable (∀ d ∈ ds.head?, Low d ∨ ¬Low c) := Option.decidableForallMem _
  decidable_of_iff
    (ds ≠ [] ∧ (∀ d ∈ ds, Final d) ∧ (∀ d ∈ ds.tail, Low d) ∧ ∀ d ∈ ds.head?, Low d ∨ ¬Low c)
    ⟨fun ⟨h₁, h₂, h₃, h₄⟩ => ⟨h₁, h₂, h₃, h₄⟩, fun ⟨h₁, h₂, h₃, h₄⟩ => ⟨h₁, h₂, h₃, h₄⟩⟩

set_option maxRecDepth 20000 in
theorem lowerRows_combiningClass :
    ∀ row ∈ lowerRows, RowRuns (fun lo hi => combiningTable.misses lo hi = true) row := by
  decide +kernel

set_option maxRecDepth 20000 in
theorem lowerRows_low : ∀ row ∈ lowerRows, RowPairs (fun _ d => Low d) row := by
  decide +kernel

set_option maxRecDepth 20000 in
-- All that is looked up in the table of decompositions. Where a row of lower-case mappings is far
-- from it there is no need to look up every character.
theorem decompositionTable_fits :
    (∀ row ∈ lowerRows, RowRuns FinalRun row ∨ RowPairs Fits row) ∧
    (∀ row ∈ decompositions, Decomposes (Char.ofNat row.1) (row.2.map Char.ofNat)) ∧
    FinalRun 0 0x7f ∧ FinalRun 0x1100 0x11ff ∧ ¬Final 'İ' ∧
    (lower 'İ').flatMap decompose = (decompose 'İ').flatMap lower := by
  decide +kernel

theorem lowerTable_misses_jamo : lowerTable.misses 0x1100 0x11ff = true := by
  decide +kernel

end Tables

section Cases

theorem lower_cases (c : Char) :
    Low c ∨ (∃ row ∈ lowerRows, ∃ l, Moves row c.toNat l ∧ lower c = [Char.ofNat l]) ∨ c = 'İ' := by
  by_cases hdot : c.toNat = 0x0130
  case pos => exact .inr (.inr (Char.toNat_inj.mp hdot))
  case neg =>
    cases hl : shift? lowerTable c.toNat with
    | none => exact .inl ⟨hdot, hl⟩
    | some l =>
      have ⟨row, hrow, hmoves⟩ := exists_row_of_shift? hl
      have hne : ¬(c.toNat == 0x0130) = true := by simpa using hdot
      refine .inr (.inl ⟨row, hrow, l, hmoves, ?_⟩)
      rw [lower, if_neg hne, hl]

theorem fits_of_moves (hrow : row ∈ lowerRows) (hm : Moves row c.toNat l)
    (hl : lower c = [Char.ofNat l]) : Fits c (Char.ofNat l) := by
  cases decompositionTable_fits.1 row hrow with
  | inl hruns =>
    have ⟨hc, hd⟩ := hruns.of_moves FinalRun.final hm
    rw [Fits, hc.decompose_eq, hd.decompose_eq, List.flatMap_singleton, hl]
  | inr hpairs => exact hpairs.of_moves hm

theorem jamo_of_mem_hangul {k e : Nat} (hlo : 0xac00 ≤ k) (hhi : k ≤ 0xd7a3) (he : e ∈ hangul k) :
    0x1100 ≤ e ∧ e ≤ 0x11ff := by
  unfold hangul at he
  dsimp only at he
  split at he
  all_goals
    simp only [List.mem_cons, List.not_mem_nil, or_false] at he
    omega

theorem final_of_lt (h : c.toNat < 0x80) : Final c :=
  decompositionTable_fits.2.2.1.final (Nat.zero_le _) (Nat.le_of_lt_succ h)

theorem final_of_jamo (hlo : 0x1100 ≤ c.toNat) (hhi : c.toNat ≤ 0x11ff) : Final c :=
  decompositionTable_fits.2.2.2.1.final hlo hhi

theorem hangul_ne_nil (k : Nat) : hangul k ≠ [] := by
  unfold hangul
  dsimp only
  split
  · exact List.cons_ne_nil _ _
  · exact List.cons_ne_nil _ _

theorem decompose_cases {P : List Char → Prop} (c : Char) (hself : Final c → P [c])
    (htable : ∀ ks, (c.toNat, ks) ∈ decompositions → P (ks.map Char.ofNat))
    (hjamo : ∀ ds, ds ≠ [] → (∀ d ∈ ds, 0x1100 ≤ d.toNat ∧ d.toNat ≤ 0x11ff) → P ds) :
    P (decompose c) := by
  unfold decompose
  dsimp only
  split
  case isTrue h =>
    simp only [Bool.and_eq_true, decide_eq_true_eq] at h
    refine hjamo _ (by simpa using hangul_ne_nil c.toNat) fun d hd => ?_
    obtain ⟨e, he, rfl⟩ := List.mem_map.mp hd
    have ⟨hlo, hhi⟩ := jamo_of_mem_hangul h.1 h.2 he
    rw [toNat_ofNat_of_lt (by omega)]
    exact ⟨hlo, hhi⟩
  case isFalse h =>
    simp only [Bool.and_eq_true, decide_eq_true_eq] at h
    split
    case h_1 span hspan =>
      obtain ⟨hmem, hlo, hhi⟩ := SpanTree.mem_of_find?_ofList hspan
      obtain ⟨⟨k, ks⟩, hrow, rfl⟩ := List.mem_map.mp hmem
      have hk : c.toNat = k := Nat.le_antisymm hhi hlo
      exact htable ks (hk ▸ hrow)
    case h_2 hnone => exact hself ⟨by omega, hnone⟩

theorem low_of_jamo (hlo : 0x1100 ≤ c.toNat) (hhi : c.toNat ≤ 0x11ff) : Low c := by
  refine ⟨by omega, ?_⟩
  rw [shift?, SpanTree.find?_of_misses lowerTable_misses_jamo hlo hhi]
  rfl

theorem decomposes (c : Char) : Decomposes c (decompose c) := by
  apply decompose_cases
  case hself =>
    intro hfinal
    constructor
    case ne_nil => exact List.cons_ne_nil _ _
    case final => simpa using hfinal
    case tail => simp
    case head => simpa using Decidable.em (Low c)
  case htable =>
    intro ks hrow
    have hdecomposes := decompositionTable_fits.2.1 _ hrow
    rwa [Char.ofNat_toNat] at hdecomposes
  case hjamo =>
    intro ds hne hds
    have hlow : ∀ d ∈ ds, Low d := fun d hd => low_of_jamo (hds d hd).1 (hds d hd).2
    constructor
    case ne_nil => exact hne
    case final => exact fun d hd => final_of_jamo (hds d hd).1 (hds d hd).2
    case tail => exact fun d hd => hlow d (List.mem_of_mem_tail hd)
    case head => exact fun d hd => .inl (hlow d (List.mem_of_mem_head? hd))

theorem Decomposes.low {ds : List Char} (h : Decomposes c ds) (hc : Low c) : ∀ d ∈ ds, Low d := by
  intro d hd
  obtain ⟨e, es, rfl⟩ := List.exists_cons_of_ne_nil h.ne_nil
  cases hd with
  | head => exact (h.head d rfl).resolve_right (not_not_intro hc)
  | tail _ hd => exact h.tail d hd

end Cases

theorem eq_of_mem_decompose (hpos : 0 < d.toNat) (hjamo : d.toNat < 0x1100)
    (hrows : ∀ row ∈ decompositions, d.toNat ∉ row.2) (h : d ∈ decompose c) : d = c := by
  revert h
  apply decompose_cases c (P := fun ds => d ∈ ds → d = c)
  case hself => exact fun _ => List.mem_singleton.mp
  case htable =>
    intro ks hrow h
    obtain ⟨k, hk, rfl⟩ := List.mem_map.mp h
    obtain hcode | hcode := toNat_ofNat_or k
    · exact absurd (by rwa [hcode]) (hrows _ hrow)
    · omega
  case hjamo =>
    intro ds _ hds h
    have := hds d h
    omega

theorem decompose_ne_nil (c : Char) : decompose c ≠ [] :=
  (decomposes c).ne_nil

theorem decompose_of_mem (h : d ∈ decompose c) : decompose d = [d] :=
  ((decomposes c).final d h).decompose_eq

theorem lower_of_mem_tail (h : d ∈ (decompose c).tail) : lower d = [d] :=
  ((decomposes c).tail d h).lower_eq

theorem flatMap_lower_eq_self {t : List Char} (h : ∀ d ∈ t, lower d = [d]) :
    t.flatMap lower = t := by
  induction t with
  | nil => rfl
  | cons c t ih =>
    rw [List.forall_mem_cons] at h
    rw [List.flatMap_cons, h.1, ih h.2, List.singleton_append]

theorem flatMap_decompose_lower (c : Char) :
    (lower c).flatMap decompose = (decompose c).flatMap lower := by
  obtain hlow | ⟨row, hrow, l, hm, hl⟩ | rfl := lower_cases c
  · have hlower : ∀ d ∈ decompose c, lower d = [d] := fun d hd =>
      ((decomposes c).low hlow d hd).lower_eq
    rw [hlow.lower_eq, List.flatMap_singleton, flatMap_lower_eq_self hlower]
  · rw [hl, List.flatMap_singleton]
    exact fits_of_moves hrow hm hl
  · exact decompositionTable_fits.2.2.2.2.2

structure Recased (c d : Char) : Prop where
  lower_left  : lower c = [d]
  lower_right : lower d = [d]
  decompose   : decompose d = [d]
  class_eq    : combiningClass d = combiningClass c
  mark        : combiningClass c ≠ 0 → d = c

theorem exists_recased (h : decompose c = [c]) : ∃ d, Recased c d := by
  obtain hlow | ⟨row, hrow, l, hm, hl⟩ | rfl := lower_cases c
  · exact ⟨c, hlow.lower_eq, hlow.lower_eq, h, rfl, fun _ => rfl⟩
  · have ⟨hc, hd⟩ := (lowerRows_combiningClass row hrow).of_moves
      (fun hmisses hlo hhi => combiningClass_of_find? (SpanTree.find?_of_misses hmisses hlo hhi)) hm
    have hlow : Low (Char.ofNat l) := (lowerRows_low row hrow).of_moves hm
    have hfits := fits_of_moves hrow hm hl
    rw [Fits, h, List.flatMap_singleton, hl] at hfits
    exact ⟨Char.ofNat l, hl, hlow.lower_eq, hfits, hd.trans hc.symm, fun hne => absurd hc hne⟩
  · have hfinal : Final 'İ' := (decomposes 'İ').final 'İ' (by rw [h]; exact .head _)
    exact absurd hfinal decompositionTable_fits.2.2.2.2.1

end ExcerptSearch.Unicode
