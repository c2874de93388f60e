import ExcerptSearch.Proofs.Except
import ExcerptSearch.Proofs.Query.Matching
import ExcerptSearch.Proofs.Query.Quoted
import ExcerptSearch.Proofs.Regex.Between
import ExcerptSearch.Proofs.Search.Ranking

namespace ExcerptSearch

open Query Regex.Parser

namespace TermPattern

theorem exists_fullWord? {p : TermPattern} (h : ¬NestedTooDeep (betweenBorders p.source)) :
    ∃ p', p.fullWord? = some p' := by
  have hsome : (ofSource? (betweenBorders p.source) p.scope).isSome := by
    rw [isSome_ofSource?]
    exact isSome_parse?_betweenBorders p.pattern.denotes h
  exact Option.isSome_iff_exists.mp hsome

theorem exists_ofSource?_around (opener closer : Char) (ho : charPattern opener = ['\\', opener])
    (hc : charPattern closer = ['\\', closer]) (t : Text) :
    ∃ p, ofSource? (['\\', opener] ++ t.flatMap charPattern ++ ['\\', closer]) .any = some p ∧
      p.Finds (opener :: (t ++ [closer])) := by
  have hsource : ['\\', opener] ++ t.flatMap charPattern ++ ['\\', closer] =
      (opener :: (t ++ [closer])).flatMap charPattern := by
    simp [ho, hc]
  obtain ⟨r, hr, -⟩ := exists_parse?_flatMap_charPattern (opener :: (t ++ [closer]))
  obtain ⟨c, hc, -⟩ := Regex.Compiled.exists_ofSource? hr
  rw [hsource, ofSource?, hc]
  exact ⟨⟨c, .any⟩, rfl, finds_of_source rfl (Regex.Compiled.source_of_ofSource? hc)⟩

end TermPattern

namespace Weigher

variable {t text common : Text} {strict : Bool} {q : Query}

theorem derived_some (p : TermPattern) : derived (some p) = .ok p :=
  rfl

theorem exists_wholeFieldPatterns_of_plain (ht : Stripped t) (hne : t ≠ [])
    (hplain : t.any specialChars.contains = false) : ∃ tag teacher base : TermPattern,
      wholeFieldPatterns t = .ok ([('[', tag), ('{', teacher)] ++
        if t.contains ' ' then [('^', base)] else []) ∧
      tag.Finds ('[' :: (Term.bordered (normalize t) ++ [']'])) ∧
      teacher.Finds ('{' :: (Term.bordered (normalize t) ++ ['}'])) ∧
      base.Finds (Term.bordered (normalize t)) := by
  have hquote : '"' ∉ t := fun hm => List.any_eq_false.mp hplain '"' hm rfl
  obtain ⟨phrase, base, hparse, hparts, hsource, hscope⟩ :=
    exists_parse_inQuotes (ht.quote_not_mem_normalize hquote) false
  have hparse' : Query.parse (['"'] ++ t ++ ['"']) false = .ok phrase := hparse
  rw [Term.quotedSource_eq_flatMap] at hsource
  obtain ⟨tag, htag, hfinds⟩ :=
    TermPattern.exists_ofSource?_around '[' ']' rfl rfl (Term.bordered (normalize t))
  obtain ⟨teacher, hteacher, hfinds'⟩ :=
    TermPattern.exists_ofSource?_around '{' '}' rfl rfl (Term.bordered (normalize t))
  refine ⟨tag, teacher, base, ?_, hfinds, hfinds', TermPattern.finds_of_source hscope hsource⟩
  unfold wholeFieldPatterns
  simp only [hne, hplain, hparse', hparts, hsource, hscope, bind, Except.bind, htag, hteacher,
    derived_some, List.isEmpty_iff, Bool.or_false, if_false]
  rfl

theorem exists_wholeFieldPatterns (ht : Stripped t) :
    ∃ ps, wholeFieldPatterns t = .ok ps := by
  cases hnone : t.isEmpty || t.any specialChars.contains with
  | true =>
    rw [wholeFieldPatterns, if_pos hnone]
    exact ⟨[], rfl⟩
  | false =>
    obtain ⟨hempty, hplain⟩ := Bool.or_eq_false_iff.mp hnone
    obtain ⟨tag, teacher, base, hps, -⟩ := exists_wholeFieldPatterns_of_plain ht
      (List.isEmpty_eq_false_iff.mp hempty) hplain
    exact ⟨_, hps⟩

theorem exists_weighPart {p : TermPattern} (h : ¬NestedTooDeep (betweenBorders p.source))
    (common : Text) : ∃ part, weighPart common p = .ok part := by
  obtain ⟨p', hp'⟩ := TermPattern.exists_fullWord? h
  rw [weighPart, hp', derived_some]
  exact ⟨_, rfl⟩

theorem exists_ofQuery_of_parts (h : Query.parse text strict = .ok q)
    (hparts : ∀ p ∈ q.searchParts, ∃ part, weighPart common p = .ok part) :
    ∃ w, ofQuery q common = .ok w := by
  obtain ⟨parts, hparts⟩ := exists_mapM_iff.mpr hparts
  obtain ⟨ms, highlighter, -, -, rfl⟩ := exists_members_of_parse h
  obtain ⟨ps, hps⟩ := exists_wholeFieldPatterns (stripped_normalize text)
  refine ⟨⟨parts, ps⟩, ?_⟩
  simp only [ofQuery, hparts, hps]
  rfl

theorem not_nestedTooDeep_expandWildcards (t : Text) :
    ¬NestedTooDeep (betweenBorders (expandWildcards t)) := by
  refine not_nestedTooDeep_betweenBorders (spells_expandWildcards t).piece?_eq ?_
  have hdepth : (Piece.concat ((bounded t).map (charPiece {}))).depth ≤ 3 + 1 :=
    depth_concat_le fun p hp => by
      obtain ⟨c, -, rfl⟩ := List.mem_map.mp hp
      exact depth_charPiece_le {} c
  exact Nat.lt_of_le_of_lt hdepth (by decide)

theorem exists_ofQuery_of_not_mem (h : '`' ∉ normalize text) (strict : Bool) (common : Text) :
    ∃ q w, Query.parse text strict = .ok q ∧ ofQuery q common = .ok w := by
  have hraw : ∀ negated t, .term negated t ∈ tokenize (normalize text) → t.head? ≠ some '`' :=
    fun negated t ht hhead => h (subset_of_mem_tokenize ht (List.mem_of_mem_head? hhead))
  obtain ⟨-, q, hq⟩ | ⟨pre, negated, t, post, hts, -, ⟨inner, rfl, -⟩⟩ :=
    exists_parse_or_malformed text strict
  · obtain ⟨w, hw⟩ : ∃ w, ofQuery q common = .ok w := by
      refine exists_ofQuery_of_parts hq fun p hp => ?_
      obtain ⟨negated, t, s, ht, hs, rfl⟩ := exists_of_mem_searchParts hq hp
      obtain ⟨e, he⟩ := Term.exists_source_eq hs (hraw negated t ht)
      exact exists_weighPart (he ▸ not_nestedTooDeep_expandWildcards e) common
    exact ⟨q, w, hq, hw⟩
  · exact absurd rfl (hraw negated ('`' :: inner) (by simp [hts]))

-- A query that is accepted can be weighed, so that no search for it fails. All that could prevent
-- it is a pattern that is nested too deep between word boundaries.
theorem exists_ofQuery_of_parse (h : Query.parse text strict = .ok q)
    (hnesting : ∀ p ∈ q.searchParts, ¬NestedTooDeep (betweenBorders p.source)) :
    (∀ common, ∃ w, ofQuery q common = .ok w) ∧
    ∀ {α : Type} [Score α] (s : SectionSearcher) (o : SearchOptions),
      ∃ found : FoundSection α, s.search q o = .ok found := by
  have hweigher : ∀ common, ∃ w, ofQuery q common = .ok w := fun common =>
    exists_ofQuery_of_parts h fun p hp => exists_weighPart (hnesting p hp) common
  refine ⟨hweigher, fun s o => ?_⟩
  obtain ⟨w, hw⟩ := hweigher s.archive.commonWords
  exact SectionSearcher.exists_search hw

theorem exists_ofQuery_of_parse_extended :
    ∃ q, Query.parse ['`', '(', '?', 'x', ')', 'a', '|', '\\', 'p', 'l', ' ', '#', '`', ' ', 'c']
        true = .ok q ∧
      q.searchParts.map (·.source) =
        [['(', '?', 'x', ')', 'a', '|', '\\', 'p', 'l', ' ', '#'], ['c']] ∧
      (∀ p ∈ q.searchParts, ¬NestedTooDeep (betweenBorders p.source)) ∧
      (∀ common, ∃ w, ofQuery q common = .ok w) ∧
      ∃ found : FoundSection Float,
        SectionSearcher.threeExcerpts.search q { relevant := true } = .ok found := by
  have hparse : ((Query.parse ['`', '(', '?', 'x', ')', 'a', '|', '\\', 'p', 'l', ' ', '#', '`',
      ' ', 'c'] true).toOption.any fun q => q.searchParts.map (·.source) =
        [['(', '?', 'x', ')', 'a', '|', '\\', 'p', 'l', ' ', '#'], ['c']]) = true := by
    simp only [Query.parse, Query.normalize_eq_quickNormalize]
    decide +kernel
  obtain ⟨q, hq, hsources⟩ := exists_of_any_toOption hparse
  have hsources := of_decide_eq_true hsources
  have hnesting : ∀ p ∈ q.searchParts, ¬NestedTooDeep (betweenBorders p.source) := by
    intro p hp
    have hm : p.source ∈ q.searchParts.map (·.source) := List.mem_map_of_mem hp
    rw [hsources, List.mem_cons, List.mem_singleton] at hm
    obtain hp | hp := hm
    · rw [hp]
      exact not_nestedTooDeep_betweenBorders rfl (by decide)
    · rw [hp]
      exact not_nestedTooDeep_betweenBorders rfl (by decide)
  obtain ⟨hweigher, hsearch⟩ := exists_ofQuery_of_parse hq hnesting
  exact ⟨q, hq, hsources, hnesting, hweigher, hsearch SectionSearcher.threeExcerpts _⟩

end Weigher
end ExcerptSearch
