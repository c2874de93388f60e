import ExcerptSearch.Proofs.Archive.Catalog
import ExcerptSearch.Proofs.Except
import ExcerptSearch.Proofs.Search.Weighing
import Mathlib.Algebra.GroupWithZero.Nat

namespace ExcerptSearch

variable {α : Type} {q : Query} {o : SearchOptions}

theorem Results.foundCount_eq_sum (r : Results α) :
    r.foundCount = (r.sections.map (·.items.length)).sum := by
  simp only [foundCount, items, List.length_flatMap]

namespace Searcher

variable [Score α] {code : Text} {ms : List SectionSearcher}

theorem search_one_eq_ok_iff {m : SectionSearcher} {r : Results α} :
    (one m).search q o = .ok r ↔ ∃ f, m.search q o = .ok f ∧ Results.ofSection f = r :=
  bind_pure_eq_ok_iff

theorem search_several_eq_ok_iff {r : Results α} : (several code ms).search q o = .ok r ↔
    ∃ fs, List.Forall₂ (fun m f => m.search q o = .ok f) ms fs ∧
      { kindPlural := "items".toList, sections := fs, combined := true } = r := by
  simp only [← mapM_eq_ok_iff]
  exact bind_pure_eq_ok_iff

theorem forall₂_ofSection {fs : List (FoundSection α)}
    (h : List.Forall₂ (fun m f => m.search q o = .ok f) ms fs) :
    List.Forall₂ (fun m r => m.search q o = .ok r) (ms.map one) (fs.map Results.ofSection) := by
  rw [List.forall₂_map_left_iff, List.forall₂_map_right_iff]
  exact h.imp fun _ f hf => search_one_eq_ok_iff.mpr ⟨f, hf, rfl⟩

theorem exists_search_several_iff : (∃ r : Results α, (several code ms).search q o = .ok r) ↔
    ∀ m ∈ ms.map one, ∃ r : Results α, m.search q o = .ok r := by
  have hone : ∀ m : SectionSearcher, (∃ r : Results α, (one m).search q o = .ok r) ↔
      ∃ f : FoundSection α, m.search q o = .ok f := by
    simp only [search_one_eq_ok_iff]
    exact fun m => ⟨fun ⟨_, f, hf, _⟩ => ⟨f, hf⟩, fun ⟨f, hf⟩ => ⟨_, f, hf, rfl⟩⟩
  rw [List.forall_mem_map]
  simp only [hone, ← exists_mapM_iff, search_several_eq_ok_iff, mapM_eq_ok_iff]
  exact ⟨fun ⟨_, fs, hfs, _⟩ => ⟨fs, hfs⟩, fun ⟨fs, hfs⟩ => ⟨_, fs, hfs, rfl⟩⟩

theorem itemCount_several : (several code ms).itemCount = ((ms.map one).map itemCount).sum := by
  simp [itemCount, members, List.length_flatMap, Function.comp_def]

end Searcher

namespace Catalog

variable {d : Database} {g : Text × List Text} {s : Searcher}

theorem not_group_of_listed (hg : g ∈ groups) : ∀ k ∈ g.2, k ∉ groups.map (·.1) := by
  have hall : ∀ g ∈ groups, ∀ k ∈ g.2, k ∉ groups.map (·.1) := by decide
  exact hall g hg

theorem filterMap_find?_group (hg : g ∈ groups) :
    g.2.filterMap (ofDatabase d).find? = (members (sectionSearchers d) g.2).map .one := by
  rw [members, List.map_filterMap]
  exact List.filterMap_congr fun k hk => find?_of_not_group (not_group_of_listed hg k hk)

-- A search of a group is searches of its members, each by its own code, put together. It succeeds
-- if they all do, and then it gives their sections one after the other, in the order of the group.
theorem search_group (h : d.Distinct) (hg : g ∈ groups) (hs : (ofDatabase d).find? g.1 = some s)
    {α : Type} [Score α] (q : Query) (o : SearchOptions) :
    ((∃ r : Results α, s.search q o = .ok r) ↔
      ∀ k ∈ g.2, ∀ m, (ofDatabase d).find? k = some m → ∃ r : Results α, m.search q o = .ok r) ∧
    (∀ r : Results α, s.search q o = .ok r → ∃ rs : List (Results α),
      List.Forall₂ (fun m r => m.search q o = .ok r) (g.2.filterMap (ofDatabase d).find?) rs ∧
      r.sections = rs.flatMap (·.sections) ∧ r.foundCount = (rs.map (·.foundCount)).sum) ∧
    s.itemCount = ((g.2.filterMap (ofDatabase d).find?).map Searcher.itemCount).sum := by
  obtain rfl := eq_several_of_groupSearcher? (find?_group h hg ▸ hs)
  refine ⟨?succeeds, ?sections, ?count⟩
  case succeeds =>
    rw [Searcher.exists_search_several_iff, ← filterMap_find?_group hg]
    simp only [List.mem_filterMap]
    exact ⟨fun hall k hk m hm => hall m ⟨k, hk, hm⟩, fun hall m ⟨k, hk, hm⟩ => hall k hk m hm⟩
  case sections =>
    intro r hr
    obtain ⟨fs, hfs, rfl⟩ := Searcher.search_several_eq_ok_iff.mp hr
    have hsections : (fs.map Results.ofSection).flatMap (·.sections) = fs := by
      rw [List.flatMap_map]
      exact List.flatMap_singleton' fs
    refine ⟨fs.map .ofSection, ?_, hsections.symm, ?_⟩
    · rw [filterMap_find?_group hg]
      exact Searcher.forall₂_ofSection hfs
    · simp [Results.foundCount_eq_sum, Results.ofSection, Function.comp_def]
  case count =>
    rw [filterMap_find?_group hg]
    exact Searcher.itemCount_several

theorem search_fourSections {q : Query} {w : Weigher} (hw : Weigher.ofQuery q [] = .ok w)
    {g : Text × List Text} (hg : g ∈ groups) :
    ∀ k ∈ g.2, ∀ m, (ofDatabase fourSections).find? k = some m →
      ∃ r : Results Rat, m.search q { relevant := true } = .ok r := by
  intro k hk m hm
  have hmember : m ∈ (members (sectionSearchers fourSections) g.2).map .one :=
    filterMap_find?_group hg ▸ List.mem_filterMap.mpr ⟨k, hk, hm⟩
  obtain ⟨_, hs, rfl⟩ := List.mem_map.mp hmember
  obtain ⟨t, ht, rfl⟩ := List.mem_map.mp (mem_of_mem_members hs)
  have hplain : ∀ t ∈ fourSections.sections.values, t.commonWords = [] := by decide
  have hcommon : t.commonWords = [] := hplain t ((listed_perm fourSections).mem_iff.mp ht)
  by_cases hx : t.code = excerptCode
  all_goals simp [Searcher.search, SectionSearcher.search, SectionSearcher.foundItems,
    sectionSearcher, SearchOptions.ranks, hx, hcommon, hw, bind, Except.bind, pure, Except.pure]

theorem search_group_fourSections : ∃ g s q, ∃ r : Results Rat,
    g ∈ groups ∧ (ofDatabase fourSections).find? g.1 = some s ∧
    Query.parse ['a'] false = .ok q ∧ s.search q { relevant := true } = .ok r ∧
    ((∃ r : Results Rat, s.search q { relevant := true } = .ok r) ↔
      ∀ k ∈ g.2, ∀ m, (ofDatabase fourSections).find? k = some m →
        ∃ r : Results Rat, m.search q { relevant := true } = .ok r) ∧
    (∃ rs : List (Results Rat),
      List.Forall₂ (fun m r => m.search q { relevant := true } = .ok r)
        (g.2.filterMap (ofDatabase fourSections).find?) rs ∧
      r.sections = rs.flatMap (·.sections) ∧ r.foundCount = (rs.map (·.foundCount)).sum) ∧
    s.itemCount = ((g.2.filterMap (ofDatabase fourSections).find?).map Searcher.itemCount).sum := by
  let g : Text × List Text :=
    ("all".toList, [['k'], ['b'], ['g'], ['t'], ['e'], ['s'], ['p'], ['o'], ['x']])
  have hg : g ∈ groups := .tail _ (.tail _ (.head _))
  have hany : g.2.any (· ∈ sectionCodes (sectionSearchers fourSections)) = true := by
    simp only [mem_sectionCodes]
    decide
  have hs : (ofDatabase fourSections).find? g.1 =
      some (.several g.1 (members (sectionSearchers fourSections) g.2)) := by
    rw [find?_group fourSections_distinct hg, groupSearcher?_eq, if_pos hany]
  have hraw : '`' ∉ Query.normalize ['a'] := by
    rw [Query.normalize_eq_self_of_ascii rfl]
    decide
  obtain ⟨q, w, hq, hw⟩ := Weigher.exists_ofQuery_of_not_mem hraw false []
  have hsearch := @search_group _ _ _ fourSections_distinct hg hs Rat _ q { relevant := true }
  have ⟨r, hr⟩ := hsearch.1.mpr (search_fourSections hw hg)
  exact ⟨g, _, q, r, hg, hs, hq, hr, hsearch.1, hsearch.2.1 r hr, hsearch.2.2⟩

end Catalog
end ExcerptSearch
