import ExcerptSearch.Proofs.Search.Exact

namespace ExcerptSearch

theorem eq_filter_append_filter {α : Type} {p : α → Bool} {l : List α}
    (h : l.Pairwise fun a b => p b = true → p a = true) : l = l.filter p ++ l.filter (!p ·) := by
  induction l with
  | nil => rfl
  | cons a l ih =>
    obtain ⟨hhead, htail⟩ := List.pairwise_cons.mp h
    cases ha : p a with
    | true => simpa [ha] using ih htail
    | false =>
      have hnone : ∀ b ∈ l, p b = false := fun b hb => by simpa [ha] using hhead b hb
      have hfirst : (a :: l).filter p = [] := List.filter_eq_nil_iff.mpr (by simpa [ha] using hnone)
      have hrest : (a :: l).filter (!p ·) = a :: l :=
        List.filter_eq_self.mpr (by simpa [ha] using hnone)
      rw [hfirst, hrest, List.nil_append]

def Item.hasFeaturedTag (item : Item) : Bool :=
  item.blobs.any fun blob => (featuredTags blob).any (·.any Char.isLower)

namespace Facets

variable {item : Item} {w : Weigher} {o : SearchOptions}

theorem featuredTags_ne_nil_iff :
    distinctFields featuredTags item.blobs ≠ [] ↔ item.hasFeaturedTag = true := by
  unfold Item.hasFeaturedTag
  rw [List.any_eq_true]
  constructor
  case mp =>
    intro hne
    obtain ⟨t, ht⟩ := List.exists_mem_of_ne_nil _ hne
    obtain ⟨⟨blob, hblob, ht⟩, hlower⟩ := mem_distinctFields.mp ht
    exact ⟨blob, hblob, List.any_eq_true.mpr ⟨t, ht, hlower⟩⟩
  case mpr =>
    rintro ⟨blob, hblob, hany⟩
    obtain ⟨t, ht, hlower⟩ := List.any_eq_true.mp hany
    exact List.ne_nil_of_mem (mem_distinctFields.mpr ⟨⟨blob, hblob, ht⟩, hlower⟩)

theorem isFeatured_ofItem {α : Type} [Score α] (item : Item) :
    (ofItem item : Facets α).isFeatured = item.hasFeaturedTag := by
  rw [Bool.eq_iff_iff, ← featuredTags_ne_nil_iff, isFeatured, get?_featured]
  split
  case isTrue h => simp [h]
  case isFalse h => simp [h]

theorem scoreOf_of_not_relevant (hrelevant : o.relevant = false) (w : Weigher) (f : Facets Rat) :
    scoreOf w o f = featuredScore w o f :=
  if_neg (by simp [hrelevant])

theorem scoreOf_eq_zero (hrelevant : o.relevant = false) (h : item.hasFeaturedTag = false)
    (w : Weigher) : scoreOf w o (ofItem item) = (0 : Rat) := by
  have hnone : (ofItem item : Facets Rat).get? .featuredTag = none := by
    rw [← isFeatured_ofItem (α := Rat), isFeatured, Option.isSome_eq_false_iff] at h
    exact Option.isNone_iff_eq_none.mp h
  rw [scoreOf_of_not_relevant hrelevant, featuredScore, hnone]
  cases o.featured with
  | false => rfl
  | true => rfl

-- An item with featured tags has a score for what they weigh, and a hundred for each.
theorem scoreOf_eq (hrelevant : o.relevant = false) (hfeatured : o.featured = true)
    (h : item.hasFeaturedTag = true) (w : Weigher) : scoreOf w o (ofItem item) =
      900 * w.weigh (distinctFields featuredTags item.blobs).flatten (Score.half : Rat) +
        (distinctFields featuredTags item.blobs).length * 100 := by
  have hsome : (ofItem item : Facets Rat).get? .featuredTag = _ := get?_featured
  rw [if_neg (featuredTags_ne_nil_iff.mpr h)] at hsome
  rw [scoreOf_of_not_relevant hrelevant, featuredScore, hsome, hfeatured, hrelevant]
  rfl

theorem hundred_le_scoreOf (hrelevant : o.relevant = false) (hfeatured : o.featured = true)
    (h : item.hasFeaturedTag = true) (w : Weigher) : (100 : Rat) ≤ scoreOf w o (ofItem item) := by
  have hlength : 0 < (distinctFields featuredTags item.blobs).length :=
    List.length_pos_iff.mpr (featuredTags_ne_nil_iff.mpr h)
  have hcount : (1 : Rat) ≤ (distinctFields featuredTags item.blobs).length := by
    exact_mod_cast hlength
  have hweigh := w.weigh_nonneg (distinctFields featuredTags item.blobs).flatten
  rw [scoreOf_eq hrelevant hfeatured h]
  linarith

theorem exists_scoreOf_eq (hrelevant : o.relevant = false) (hfeatured : o.featured = true)
    (w : Weigher) (item : Item) : ∃ n : Nat, scoreOf w o (ofItem item) = (n / 2 : Rat) := by
  cases h : item.hasFeaturedTag with
  | true =>
    obtain ⟨n, hn⟩ := w.exists_weigh_eq (distinctFields featuredTags item.blobs).flatten
    refine ⟨900 * n + 200 * (distinctFields featuredTags item.blobs).length, ?_⟩
    rw [scoreOf_eq hrelevant hfeatured h, hn]
    push_cast
    ring
  | false => exact ⟨0, by simp [scoreOf_eq_zero hrelevant h]⟩

end Facets

section Rank

variable {found : List (FoundItem Rat)} {p : FoundItem Rat → Bool}

theorem atMost_score_trans (f g h : FoundItem Rat) (hfg : Score.atMost g.score f.score = true)
    (hgh : Score.atMost h.score g.score = true) : Score.atMost h.score f.score = true :=
  decide_eq_true ((of_decide_eq_true hgh).trans (of_decide_eq_true hfg))

theorem atMost_score_total (f g : FoundItem Rat) :
    (Score.atMost g.score f.score || Score.atMost f.score g.score) = true := by
  simpa [Score.atMost] using le_total g.score f.score

theorem pairwise_rank (found : List (FoundItem Rat)) :
    (rank found).Pairwise fun f g => g.score ≤ f.score :=
  (List.pairwise_mergeSort atMost_score_trans atMost_score_total found).imp of_decide_eq_true

theorem filter_rank {score : Rat} (h : ∀ f ∈ found, p f = true → f.score = score) :
    (rank found).filter p = found.filter p := by
  apply filter_mergeSort atMost_score_trans atMost_score_total
  apply List.pairwise_of_forall_mem_list
  intro f hf g hg
  obtain ⟨hf, hpf⟩ := List.mem_filter.mp hf
  obtain ⟨hg, hpg⟩ := List.mem_filter.mp hg
  exact decide_eq_true (le_of_eq ((h g hg hpg).trans (h f hf hpf).symm))

theorem rank_eq_append (hpos : ∀ f ∈ found, p f = true → 0 < f.score)
    (hzero : ∀ f ∈ found, (!p f) = true → f.score = 0) :
    rank found = (rank found).filter p ++ found.filter (!p ·) := by
  have hmem : ∀ f, f ∈ rank found ↔ f ∈ found := fun _ => (List.mergeSort_perm found _).mem_iff
  rw [← filter_rank hzero]
  refine eq_filter_append_filter ((pairwise_rank found).imp_of_mem fun {f g} hf hg hle hp => ?_)
  -- Otherwise an item without a score stands before one with a score.
  by_contra hnone
  have hfirst := hzero f ((hmem f).mp hf) (by simpa using hnone)
  have hsecond := hpos g ((hmem g).mp hg) hp
  exact absurd hle (by simpa [hfirst] using hsecond)

end Rank

namespace SectionSearcher

-- If featured excerpts are to come first and nothing else counts, the items found that have a
-- featured tag come before all others, in descending order of their scores. The others have no
-- score and stand in the order of the section.
theorem search_featured (s : SectionSearcher) (q : Query) (o : SearchOptions) (r : FoundSection Rat)
    (hs : s.ranks = true) (hfeatured : o.featured = true) (hrelevant : o.relevant = false)
    (h : s.search q o = .ok r) :
    ∃ front back, r.items = front ++ back ∧
      (front.map (·.item)).Perm ((s.found q).filter (·.hasFeaturedTag)) ∧
      back.map (·.item) = (s.found q).filter (!·.hasFeaturedTag) ∧
      (front.Pairwise fun f g => g.score ≤ f.score) ∧
      (∀ f ∈ front, 100 ≤ f.score) ∧ (∀ f ∈ back, f.score = 0) ∧
      ∀ f ∈ r.items, ∃ n : Nat, f.score = n / 2 := by
  have ho : o.ranks = true := by simp [SearchOptions.ranks, hfeatured]
  obtain ⟨w, -, hitems⟩ := exists_weigher_of_foundItems hs ho (foundItems_of_search h)
  let scored (item : Item) : FoundItem Rat := ⟨item, scoreOf w o (.ofItem item)⟩
  let found := (s.found q).map scored
  let p (f : FoundItem Rat) : Bool := f.item.hasFeaturedTag
  have hscored : ∀ f ∈ found, f.score = scoreOf w o (.ofItem f.item) := by
    intro f hf
    obtain ⟨item, -, rfl⟩ := List.mem_map.mp hf
    rfl
  have hfront : ∀ f ∈ found, p f = true → 100 ≤ f.score := fun f hf hp =>
    hscored f hf ▸ Facets.hundred_le_scoreOf hrelevant hfeatured hp w
  have hback : ∀ f ∈ found, (!p f) = true → f.score = 0 := fun f hf hp =>
    hscored f hf ▸ Facets.scoreOf_eq_zero hrelevant (by simpa [p] using hp) w
  have hperm : (rank found).Perm found := List.mergeSort_perm found _
  have hitem : ∀ p : FoundItem Rat → Bool, (found.filter p).map (·.item) =
      (s.found q).filter (p ∘ scored) := fun p => by
    rw [List.filter_map, List.map_map]
    exact List.map_id _
  have hdivided := rank_eq_append
    (fun f hf hp => lt_of_lt_of_le (by norm_num) (hfront f hf hp)) hback
  refine ⟨_, _, hitems.trans hdivided, ?perm, hitem _, (pairwise_rank found).filter p, ?front,
    ?back, ?halves⟩
  case perm => exact hitem p ▸ (hperm.filter p).map (·.item)
  case front =>
    intro f hf
    obtain ⟨hf, hp⟩ := List.mem_filter.mp hf
    exact hfront f (hperm.mem_iff.mp hf) hp
  case back =>
    intro f hf
    obtain ⟨hf, hp⟩ := List.mem_filter.mp hf
    exact hback f hf hp
  case halves =>
    intro f hf
    rw [hitems] at hf
    rw [hscored f (hperm.mem_iff.mp hf)]
    exact Facets.exists_scoreOf_eq hrelevant hfeatured w f.item

def fourExcerpts : SectionSearcher where
  ranks := true
  archive := {
    code := ['x'], name := ['e']
    items := [{ blobs := ["[a]".toList] }, { blobs := ["^a^[b]+".toList] },
      { blobs := ["^a^[1]+".toList] }, { blobs := ["[a]+".toList] }] }

theorem search_featured_fourExcerpts : ∃ q r, Query.parse ['a'] false = .ok q ∧
    fourExcerpts.ranks = true ∧
    fourExcerpts.search q { featured := true, limit := some 1 } = .ok r ∧
    ∃ front back : List (FoundItem Rat), r.items = front ++ back ∧
      (front.map (·.item)).Perm
        [{ blobs := ["^a^[b]+".toList] }, { blobs := ["[a]+".toList] }] ∧
      back.map (·.item) = [{ blobs := ["[a]".toList] }, { blobs := ["^a^[1]+".toList] }] := by
  have hnormal : Query.normalize ['a'] = ['a'] := Query.normalize_eq_self_of_ascii rfl
  have hraw : '`' ∉ Query.normalize ['a'] := by
    rw [hnormal]
    decide
  obtain ⟨q, w, hq, hw⟩ := Weigher.exists_ofQuery_of_not_mem hraw false []
  have hall : fourExcerpts.archive.items.all (fun item => q.isMatch item.blobs) = true := by
    have hany : ((Query.parse ['a'] false).toOption.any fun q =>
        fourExcerpts.archive.items.all fun item => q.isMatch item.blobs) = true := by
      simp only [Query.parse, hnormal]
      decide +kernel
    rwa [hq] at hany
  obtain ⟨r, hr⟩ : ∃ r : FoundSection Rat,
      fourExcerpts.search q { featured := true, limit := some 1 } = .ok r := exists_search hw
  obtain ⟨front, back, hitems, hfront, hback, -⟩ :=
    search_featured fourExcerpts q _ r rfl rfl rfl hr
  have hfound : fourExcerpts.found q = fourExcerpts.archive.items :=
    List.filter_eq_self.mpr (List.all_eq_true.mp hall)
  have hwith : fourExcerpts.archive.items.filter (·.hasFeaturedTag) =
      [{ blobs := ["^a^[b]+".toList] }, { blobs := ["[a]+".toList] }] := by cbv
  have hwithout : fourExcerpts.archive.items.filter (!·.hasFeaturedTag) =
      [{ blobs := ["[a]".toList] }, { blobs := ["^a^[1]+".toList] }] := by cbv
  rw [hfound] at hfront hback
  exact ⟨q, r, hq, rfl, hr, front, back, hitems, hwith ▸ hfront, hback.trans hwithout⟩

end SectionSearcher
end ExcerptSearch
