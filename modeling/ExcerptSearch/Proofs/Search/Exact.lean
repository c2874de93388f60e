import ExcerptSearch.Proofs.Search.Facets
import ExcerptSearch.Proofs.Search.WholeWords
import Mathlib

namespace ExcerptSearch

theorem Score.sum_eq (l : List Rat) : Score.sum l = l.sum :=
  List.sum_eq_foldl.symm

namespace Weigher

variable {w : Weigher} {blob : Text}

theorem total_eq (parts : List WeighedPart) : total (Score.half : Rat) parts =
    (parts.map fun part => if part.common then (1 / 2 : Rat) else 1).sum :=
  Score.sum_eq _

theorem exists_total_eq (parts : List WeighedPart) :
    ∃ n : Nat, total (Score.half : Rat) parts = n / 2 := by
  rw [total_eq]
  induction parts with
  | nil => exact ⟨0, by simp⟩
  | cons part parts ih =>
    obtain ⟨n, hn⟩ := ih
    rw [List.map_cons, List.sum_cons, hn]
    split
    case isTrue => exact ⟨n + 1, by push_cast; ring⟩
    case isFalse => exact ⟨n + 2, by push_cast; ring⟩

theorem weigh_eq_rat (w : Weigher) (blob : Text) : w.weigh blob (Score.half : Rat) =
    3 * (if w.matchesWhole blob then 1 else 0 : Nat) +
      3 * total (Score.half : Rat) (w.parts.filter (·.countsTriple blob)) +
      total (Score.half : Rat) (w.parts.filter (·.countsOnce blob)) :=
  weigh_eq w blob _

theorem exists_weigh_eq (w : Weigher) (blob : Text) :
    ∃ n : Nat, w.weigh blob (Score.half : Rat) = n / 2 := by
  obtain ⟨m, hm⟩ := exists_total_eq (w.parts.filter (·.countsTriple blob))
  obtain ⟨n, hn⟩ := exists_total_eq (w.parts.filter (·.countsOnce blob))
  refine ⟨6 * (if w.matchesWhole blob then 1 else 0) + 3 * m + n, ?_⟩
  rw [weigh_eq_rat, hm, hn]
  push_cast
  ring

theorem total_nonneg (parts : List WeighedPart) : 0 ≤ total (Score.half : Rat) parts := by
  obtain ⟨n, hn⟩ := exists_total_eq parts
  rw [hn]
  positivity

theorem weigh_nonneg (w : Weigher) (blob : Text) : 0 ≤ w.weigh blob (Score.half : Rat) := by
  obtain ⟨n, hn⟩ := w.exists_weigh_eq blob
  rw [hn]
  positivity

end Weigher

namespace Facets

variable {facet : Facet} {l : List Text} {n : Nat} {item : Item} {p : Facet × FacetText Rat}

theorem one_le_textCount (t : Text) : (1 : Rat) ≤ textCount t := by
  unfold textCount
  split
  case isTrue => exact le_refl (1 : Rat)
  case isFalse h =>
    have hlength : (60 : Rat) ≤ t.length := by exact_mod_cast Nat.le_of_not_le h
    exact (one_le_div (by norm_num)).mpr hlength

theorem one_le_count_of_mem_ofTexts {blobs : List Text} (hp : p ∈ ofTexts blobs) :
    1 ≤ p.2.count := by
  obtain ⟨⟨t, i⟩, htexts, rfl⟩ := List.mem_map.mp hp
  dsimp only
  split
  case isTrue => exact one_le_textCount t
  case isFalse =>
    rw [Score.sum_eq]
    refine (one_le_textCount t).trans (List.single_le_sum (fun x hx => ?_) _ ?_)
    · obtain ⟨⟨t', _⟩, _, rfl⟩ := List.mem_map.mp hx
      exact zero_le_one.trans (one_le_textCount t')
    · exact List.mem_map_of_mem htexts

theorem one_le_count_of_mem_ofFields (hp : p ∈ ofFields facet l n) (hn : l ≠ [] → 0 < n) :
    1 ≤ p.2.count := by
  obtain ⟨-, hl, -, hcount⟩ := eq_of_mem_ofFields hp
  rw [hcount]
  exact_mod_cast hn hl

theorem one_le_count (h : item.uniqueTeachers ≠ some 0)
    (hp : p ∈ (ofItem item : Facets Rat).entries) : 1 ≤ p.2.count := by
  rw [entries_ofItem] at hp
  simp only [List.mem_append] at hp
  obtain (((hp | hp) | hp) | hp) | hp := hp
  · exact one_le_count_of_mem_ofFields hp List.length_pos_iff.mpr
  · exact one_le_count_of_mem_ofFields hp List.length_pos_iff.mpr
  · exact one_le_count_of_mem_ofFields hp fun hne =>
      Nat.add_pos_left (List.length_pos_iff.mpr hne) _
  · exact one_le_count_of_mem_ofFields hp (uniqueTeachers_pos h)
  · exact one_le_count_of_mem_ofTexts hp

end Facets

section Gains

variable {w : Weigher} {o : SearchOptions} {p : Facet × FacetText Rat}

-- What a facet adds to a score where relevance counts. If nothing in it matches, this is nothing.
def gain (w : Weigher) (p : Facet × FacetText Rat) : Rat :=
  if p.1 = .featuredTag then 0
  else w.weigh p.2.text Score.half * p.1.weight * (1 + 1 / 2 / p.2.count)

theorem addFacet_eq_add_gain (w : Weigher) (score : Rat) (p : Facet × FacetText Rat) :
    addFacet w score p = score + gain w p := by
  by_cases hfacet : p.1 = .featuredTag
  case pos => simp [addFacet, gain, hfacet]
  case neg =>
    by_cases hzero : w.weigh p.2.text Score.half = (0 : Rat)
    case pos => simp [addFacet, gain, hfacet, hzero, Score.isZero]
    case neg =>
      simp only [addFacet, gain, Score.isZero, hfacet, hzero, decide_false, Bool.or_false,
        Bool.false_eq_true, if_false]
      rfl

theorem foldl_addFacet (w : Weigher) (entries : List (Facet × FacetText Rat)) (score : Rat) :
    entries.foldl (addFacet w) score = score + (entries.map (gain w)).sum := by
  induction entries generalizing score with
  | nil => rw [List.foldl_nil, List.map_nil, List.sum_nil, add_zero]
  | cons p entries ih =>
    rw [List.foldl_cons, ih, addFacet_eq_add_gain, List.map_cons, List.sum_cons, add_assoc]

theorem scoreOf_eq_sum (hrelevant : o.relevant = true) (hfeatured : o.featured = false)
    (w : Weigher) (f : Facets Rat) : scoreOf w o f = (f.entries.map (gain w)).sum := by
  have hzero : featuredScore w o f = (0 : Rat) := by
    rw [featuredScore, hfeatured]
    rfl
  rw [scoreOf, if_pos hrelevant, foldl_addFacet, hzero, zero_add]

theorem gain_nonneg (hcount : 1 ≤ p.2.count) : 0 ≤ gain w p := by
  unfold gain
  split
  case isTrue => exact le_refl 0
  case isFalse =>
    have hweigh := w.weigh_nonneg p.2.text
    positivity

end Gains
end ExcerptSearch
