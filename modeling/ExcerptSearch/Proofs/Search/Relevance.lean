import ExcerptSearch.Proofs.Search.Exact

namespace ExcerptSearch

namespace Weigher

variable {q : Query} {common : Text} {w : Weigher} {blob : Text} {p p' : TermPattern}
  {parts : List WeighedPart} {part : WeighedPart}

theorem one_le_total (hpart : part ∈ parts) (hrare : part.common = false) :
    1 ≤ total (Score.half : Rat) parts := by
  rw [total_eq]
  have hterm : (1 : Rat) ∈ parts.map fun part => if part.common then (1 / 2 : Rat) else 1 :=
    List.mem_map.mpr ⟨part, hpart, by simp [hrare]⟩
  refine List.single_le_sum (fun x hx => ?_) _ hterm
  obtain ⟨part', -, rfl⟩ := List.mem_map.mp hx
  split <;> norm_num

theorem three_le_weigh (hw : ofQuery q common = .ok w) (hp : p ∈ q.searchParts)
    (hrare : p.isMatch common = false) (hfull : p.fullWord? = some p')
    (hmatch : p.isMatch blob = true) (hword : p'.isMatch blob = true) :
    3 ≤ w.weigh blob (Score.half : Rat) := by
  obtain ⟨hpatterns, hfullWords⟩ := parts_of_ofQuery hw
  rw [← hpatterns] at hp
  obtain ⟨part, hpart, rfl⟩ := List.mem_map.mp hp
  obtain rfl : p' = part.fullWord := Option.some.inj (hfull.symm.trans (hfullWords part hpart))
  have htriple : part ∈ w.parts.filter (·.countsTriple blob) :=
    List.mem_filter.mpr ⟨hpart, by simp [WeighedPart.countsTriple, hmatch, hword]⟩
  have htotal := one_le_total htriple ((common_of_mem_parts hw part hpart).trans hrare)
  have hrest := total_nonneg (w.parts.filter (·.countsOnce blob))
  have hwhole : (0 : Rat) ≤ (if w.matchesWhole blob then 1 else 0 : Nat) := Nat.cast_nonneg _
  rw [weigh_eq_rat]
  linarith

theorem weigh_le (hw : ofQuery q common = .ok w)
    (hpart : q.searchParts.filter (·.isMatch blob) = [p]) (hcommon : p.isMatch common = true)
    (hwhole : w.matchesWhole blob = false) : w.weigh blob (Score.half : Rat) ≤ 3 / 2 := by
  have hfound : ∃ part, w.parts.filter (·.pattern.isMatch blob) = [part] ∧ part.pattern = p := by
    rw [← (parts_of_ofQuery hw).1, List.filter_map] at hpart
    exact List.map_eq_singleton_iff.mp hpart
  obtain ⟨part, hfound, rfl⟩ := hfound
  have hmem : part ∈ w.parts := (List.mem_filter.mp (hfound ▸ List.mem_singleton_self part)).1
  have hpart' : part.common = true := (common_of_mem_parts hw part hmem).trans hcommon
  have hhalf : total (Score.half : Rat) [part] = 1 / 2 := by simp [total_eq, hpart']
  have hnone : total (Score.half : Rat) [] = 0 := rfl
  have htriple : w.parts.filter (·.countsTriple blob) =
      [part].filter (·.fullWord.isMatch blob) := by
    rw [← hfound, List.filter_filter]
    exact List.filter_congr fun _ _ => Bool.and_comm _ _
  have honce : w.parts.filter (·.countsOnce blob) =
      [part].filter (!·.fullWord.isMatch blob) := by
    rw [← hfound, List.filter_filter]
    exact List.filter_congr fun _ _ => Bool.and_comm _ _
  rw [weigh_eq_rat, hwhole, htriple, honce]
  cases hword : part.fullWord.isMatch blob with
  | true =>
    have hfull : [part].filter (·.fullWord.isMatch blob) = [part] := by simp [hword]
    have hpartly : [part].filter (!·.fullWord.isMatch blob) = [] := by simp [hword]
    rw [hfull, hpartly, hhalf, hnone]
    norm_num
  | false =>
    have hfull : [part].filter (·.fullWord.isMatch blob) = [] := by simp [hword]
    have hpartly : [part].filter (!·.fullWord.isMatch blob) = [part] := by simp [hword]
    rw [hfull, hpartly, hhalf, hnone]
    norm_num

end Weigher

-- Does a single facet match, featured tags aside, and in it a single part of the query, which is a
-- common word and not all there is?
structure Facets.OnlyMatchesCommon (q : Query) (common : Text) (w : Weigher) (f : Facets Rat)
    (facet : Facet) (t : FacetText Rat) (p : TermPattern) : Prop where
  get?_eq     : f.get? facet = some t
  ne_featured : facet ≠ .featuredTag
  weigh_eq    : ∀ facet' t', f.get? facet' = some t' → facet' ≠ .featuredTag → facet' ≠ facet →
    w.weigh t'.text (Score.half : Rat) = 0
  parts_eq    : q.searchParts.filter (·.isMatch t.text) = [p]
  common      : p.isMatch common = true
  not_whole   : w.matchesWhole t.text = false

-- Does a part of the query that is no common word match the question tags, and as a whole word?
structure Facets.MatchesQuestion (q : Query) (common : Text) (f : Facets Rat) (t : FacetText Rat)
    (p p' : TermPattern) : Prop where
  get?_eq   : f.get? .questionTag = some t
  mem_parts : p ∈ q.searchParts
  rare      : p.isMatch common = false
  isMatch   : p.isMatch t.text = true
  fullWord? : p.fullWord? = some p'
  asWord    : p'.isMatch t.text = true

section Scores

variable {q : Query} {common : Text} {w : Weigher} {o : SearchOptions} {a b : Item}
  {facet : Facet} {t t' : FacetText Rat} {p p' p'' : TermPattern} {entry : Facet × FacetText Rat}

theorem gain_eq_zero (h : w.weigh entry.2.text (Score.half : Rat) = 0) : gain w entry = 0 := by
  simp [gain, h]

theorem weight_le (facet : Facet) : (facet.weight : Rat) ≤ 7 := by
  have hweight : facet.weight ≤ 7 := by
    unfold Facet.weight
    split <;> decide
  exact_mod_cast hweight

theorem relative_le (hcount : 1 ≤ entry.2.count) : 1 + 1 / 2 / entry.2.count ≤ (3 / 2 : Rat) := by
  have hhalf : 1 / 2 / entry.2.count ≤ (1 / 2 : Rat) := div_le_self (by norm_num) hcount
  linarith

theorem gain_le (hcount : 1 ≤ entry.2.count)
    (hweigh : w.weigh entry.2.text (Score.half : Rat) ≤ 3 / 2) : gain w entry ≤ 63 / 4 := by
  unfold gain
  split
  case isTrue => norm_num
  case isFalse =>
    have hnonneg := w.weigh_nonneg entry.2.text
    have hrelative := relative_le hcount
    calc w.weigh entry.2.text Score.half * entry.1.weight * (1 + 1 / 2 / entry.2.count)
        ≤ 3 / 2 * 7 * (3 / 2) := by
          gcongr
          exact weight_le entry.1
      _ = 63 / 4 := by norm_num

theorem le_gain (hfacet : entry.1 = .questionTag) (hcount : 1 ≤ entry.2.count)
    (hweigh : 3 ≤ w.weigh entry.2.text (Score.half : Rat)) : 21 ≤ gain w entry := by
  have hrelative : (1 : Rat) ≤ 1 + 1 / 2 / entry.2.count := by
    have hpos : 0 < entry.2.count := lt_of_lt_of_le zero_lt_one hcount
    have hhalf : 0 < 1 / 2 / entry.2.count := by positivity
    linarith
  calc (21 : Rat) = 3 * 7 * 1 := by norm_num
    _ ≤ w.weigh entry.2.text Score.half * 7 * (1 + 1 / 2 / entry.2.count) := by gcongr
    _ = gain w entry := by simp [gain, hfacet, Facet.weight]

theorem scoreOf_eq_gain (hrelevant : o.relevant = true) (hfeatured : o.featured = false)
    (h : (Facets.ofItem a).OnlyMatchesCommon q common w facet t p) :
    scoreOf w o (Facets.ofItem a) = gain w (facet, t) := by
  obtain ⟨front, back, hentries⟩ := List.append_of_mem (Facets.get?_eq_some_iff.mp h.get?_eq)
  have hnodup := Facets.nodup_facets (α := Rat) a
  rw [hentries, List.map_append, List.map_cons, List.nodup_middle, ← List.map_append,
    List.nodup_cons] at hnodup
  have hrest : ∀ x ∈ (front ++ back).map (gain w), x = 0 := by
    intro x hx
    obtain ⟨entry, hentry, rfl⟩ := List.mem_map.mp hx
    have hne : entry.1 ≠ facet := fun heq =>
      hnodup.1 (List.mem_map.mpr ⟨entry, hentry, heq⟩)
    have hget := Facets.get?_eq_some_iff.mpr (hentries ▸ List.perm_middle.mem_iff.mpr
      (List.mem_cons_of_mem (facet, t) hentry))
    by_cases hfeatured' : entry.1 = .featuredTag
    case pos => simp [gain, hfeatured']
    case neg => exact gain_eq_zero (h.weigh_eq entry.1 entry.2 hget hfeatured' hne)
  rw [scoreOf_eq_sum hrelevant hfeatured, hentries, (List.perm_middle.map _).sum_eq, List.map_cons,
    List.sum_cons, List.sum_eq_zero hrest, add_zero]

-- An item of whose question tags a rare word of the query is one has a higher score than an item of
-- which nothing but a common word is found.
theorem scoreOf_lt_scoreOf (hw : Weigher.ofQuery q common = .ok w) (hrelevant : o.relevant = true)
    (hfeatured : o.featured = false) (ha : a.uniqueTeachers ≠ some 0)
    (hb : b.uniqueTeachers ≠ some 0)
    (hcommon : (Facets.ofItem a).OnlyMatchesCommon q common w facet t p)
    (hquestion : (Facets.ofItem b).MatchesQuestion q common t' p' p'') :
    scoreOf w o (Facets.ofItem a) < (scoreOf w o (Facets.ofItem b) : Rat) := by
  have hmem := Facets.get?_eq_some_iff.mp hcommon.get?_eq
  have hmem' := Facets.get?_eq_some_iff.mp hquestion.get?_eq
  have hfirst : gain w (facet, t) ≤ 63 / 4 := gain_le (Facets.one_le_count ha hmem)
    (Weigher.weigh_le hw hcommon.parts_eq hcommon.common hcommon.not_whole)
  have hsecond : 21 ≤ gain w (.questionTag, t') := le_gain rfl (Facets.one_le_count hb hmem')
    (Weigher.three_le_weigh hw hquestion.mem_parts hquestion.rare hquestion.fullWord?
      hquestion.isMatch hquestion.asWord)
  calc scoreOf w o (Facets.ofItem a) = gain w (facet, t) :=
        scoreOf_eq_gain hrelevant hfeatured hcommon
    _ < gain w (.questionTag, t') := by linarith
    _ ≤ ((Facets.ofItem b).entries.map (gain w)).sum := by
      refine List.single_le_sum (fun x hx => ?_) _ (List.mem_map_of_mem hmem')
      obtain ⟨entry, hentry, rfl⟩ := List.mem_map.mp hx
      exact gain_nonneg (Facets.one_le_count hb hentry)
    _ = scoreOf w o (Facets.ofItem b) := (scoreOf_eq_sum hrelevant hfeatured _ _).symm

theorem scoreOf_lt_scoreOf_tags : ∃ q w facet t t' p p' p'',
    Query.parse ['a', ' ', 'b'] false = .ok q ∧ Weigher.ofQuery q ['a'] = .ok w ∧
    (Facets.ofItem { blobs := ["[a]//".toList] }).OnlyMatchesCommon q ['a'] w facet t p ∧
    (Facets.ofItem { blobs := ["[b]//".toList] }).MatchesQuestion q ['a'] t' p' p'' ∧
    scoreOf w { relevant := true } (Facets.ofItem { blobs := ["[a]//".toList] }) <
      (scoreOf w { relevant := true } (Facets.ofItem { blobs := ["[b]//".toList] }) : Rat) := by
  have hparse : ((Query.parse ['a', ' ', 'b'] false).toOption.any fun q =>
      q.searchParts.length = 2 &&
      (q.searchParts.map fun p => (p.isMatch ['a'], p.isMatch ['[', 'a', ']'],
        p.isMatch ['[', 'b', ']'], p.fullWord?.any (·.isMatch ['[', 'b', ']']))) =
        [(true, true, false, false), (false, false, true, true)] &&
      (Weigher.ofQuery q ['a']).toOption.any fun w => !w.matchesWhole ['[', 'a', ']']) = true := by
    simp only [Weigher.ofQuery, Weigher.wholeFieldPatterns, Query.parse,
      Query.normalize_eq_quickNormalize]
    decide +kernel
  obtain ⟨q, hq, hcheck⟩ := Query.exists_of_any_toOption hparse
  simp only [Bool.and_eq_true, decide_eq_true_eq] at hcheck
  obtain ⟨⟨hlength, hmatches⟩, hweigher⟩ := hcheck
  obtain ⟨p, p', hparts⟩ := List.length_eq_two.mp hlength
  simp only [hparts, List.map_cons, List.map_nil, List.cons.injEq, Prod.mk.injEq, and_true]
    at hmatches
  obtain ⟨⟨hcommon, hfirst, -, -⟩, hrare, hnot, hsecond, hword⟩ := hmatches
  obtain ⟨p'', hfull, hword⟩ := (Option.any_eq_true _ _).mp hword
  obtain ⟨w, hw, hwhole⟩ := Query.exists_of_any_toOption hweigher
  have hitem : (Facets.ofItem { blobs := ["[a]//".toList] } : Facets Rat).entries =
      [(.questionTag, ⟨['[', 'a', ']'], 1⟩)] := by cbv
  have hitem' : (Facets.ofItem { blobs := ["[b]//".toList] } : Facets Rat).entries =
      [(.questionTag, ⟨['[', 'b', ']'], 1⟩)] := by cbv
  have honly : (Facets.ofItem { blobs := ["[a]//".toList] }).OnlyMatchesCommon q ['a'] w
      .questionTag ⟨['[', 'a', ']'], 1⟩ p := by
    refine ⟨Facets.get?_eq_some_iff.mpr (hitem ▸ List.mem_singleton_self _), by decide, ?rest,
      by simp [hparts, hfirst, hnot], hcommon, by simpa using hwhole⟩
    case rest =>
      intro facet t hget _ hne
      have hmem := Facets.get?_eq_some_iff.mp hget
      rw [hitem, List.mem_singleton] at hmem
      exact absurd (congrArg (·.1) hmem) hne
  have hquestion : (Facets.ofItem { blobs := ["[b]//".toList] }).MatchesQuestion q ['a']
      ⟨['[', 'b', ']'], 1⟩ p' p'' :=
    ⟨Facets.get?_eq_some_iff.mpr (hitem' ▸ List.mem_singleton_self _), by simp [hparts], hrare,
      hsecond, hfull, hword⟩
  exact ⟨q, w, .questionTag, _, _, p, p', p'', hq, hw, honly, hquestion,
    scoreOf_lt_scoreOf hw rfl rfl (by decide) (by decide) honly hquestion⟩

end Scores
end ExcerptSearch
