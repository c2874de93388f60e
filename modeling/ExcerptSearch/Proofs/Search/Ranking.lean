import ExcerptSearch.Proofs.Query.Normalize
import ExcerptSearch.Search.Searcher
import Mathlib.Data.List.Sort

namespace ExcerptSearch

namespace Score

variable {x y z : Float}

theorem floatRank_eq_iff : floatRank x = floatRank y ↔ x.toBits = y.toBits := by
  have h₆₃ : Nat.pow 2 63 = 2 ^ 63 := rfl
  have h₆₄ : Nat.pow 2 64 = 2 ^ 64 := rfl
  have hx := x.toBits.toNat_lt
  have hy := y.toBits.toNat_lt
  rw [← UInt64.toNat_inj]
  simp only [floatRank, h₆₃, h₆₄]
  split <;> split <;> omega

theorem atMost_iff : atMost x y = true ↔ floatRank x ≤ floatRank y :=
  decide_eq_true_iff

theorem atMost_trans (hxy : atMost x y = true) (hyz : atMost y z = true) : atMost x z = true :=
  atMost_iff.mpr (Nat.le_trans (atMost_iff.mp hxy) (atMost_iff.mp hyz))

theorem atMost_total : atMost x y = true ∨ atMost y x = true := by
  rw [atMost_iff, atMost_iff]
  exact Nat.le_total _ _

end Score

section Stable

variable {α : Type} {le : α → α → Bool} {l : List α} {p : α → Bool}

theorem filter_mergeSort (trans : ∀ a b c, le a b = true → le b c = true → le a c = true)
    (total : ∀ a b, (le a b || le b a) = true) (h : (l.filter p).Pairwise (le · ·)) :
    (l.mergeSort le).filter p = l.filter p := by
  have hkept : ((l.filter p).filter p).Sublist ((l.mergeSort le).filter p) :=
    (List.sublist_mergeSort trans total h List.filter_sublist).filter p
  simp only [List.filter_filter, Bool.and_self] at hkept
  have hlength := ((l.mergeSort_perm le).filter p).length_eq
  exact (hkept.eq_of_length hlength.symm).symm

end Stable

section Order

open Score

variable {n : Nat} {score : Fin n → Float} {i j : Fin n} {places order : List (Fin n)}

-- Does place `i` come before place `j` where the higher score comes first, and of places with the
-- same score the earlier?
def Precedes (score : Fin n → Float) (i j : Fin n) : Prop :=
  floatRank (score j) < floatRank (score i) ∨ (score i).toBits = (score j).toBits ∧ i < j

theorem Precedes.asymm (h : Precedes score i j) : ¬Precedes score j i := by
  simp only [Precedes, ← floatRank_eq_iff] at h ⊢
  omega

def descending (score : Fin n → Float) (i j : Fin n) : Bool :=
  atMost (score j) (score i)

theorem descending_iff :
    descending score i j = true ↔ floatRank (score j) ≤ floatRank (score i) :=
  atMost_iff

theorem descending_trans (score : Fin n → Float) (i j k : Fin n) (hij : descending score i j = true)
    (hjk : descending score j k = true) : descending score i k = true :=
  atMost_trans hjk hij

theorem descending_total (score : Fin n → Float) (i j : Fin n) :
    (descending score i j || descending score j i) = true :=
  Bool.or_eq_true_iff.mpr atMost_total

theorem filter_mergeSort_descending {k : Nat} :
    (places.mergeSort (descending score)).filter (fun i => floatRank (score i) = k) =
      places.filter fun i => floatRank (score i) = k := by
  apply filter_mergeSort (descending_trans score) (descending_total score)
  apply List.pairwise_of_forall_mem_list
  intro i hi j hj
  have hik : floatRank (score i) = k := by simpa using (List.mem_filter.mp hi).2
  have hjk : floatRank (score j) = k := by simpa using (List.mem_filter.mp hj).2
  exact descending_iff.mpr (Nat.le_of_eq (hjk.trans hik.symm))

theorem pairwise_precedes_mergeSort (h : places.Pairwise (· < ·)) (score : Fin n → Float) :
    (places.mergeSort (descending score)).Pairwise (Precedes score) := by
  apply List.pairwise_iff_forall_sublist.mpr
  intro i j hsub
  have hsorted : (places.mergeSort (descending score)).Pairwise (descending score · ·) :=
    List.pairwise_mergeSort (descending_trans score) (descending_total score) places
  have hle := descending_iff.mp (List.pairwise_iff_forall_sublist.mp hsorted hsub)
  obtain hlt | heq := Nat.lt_or_eq_of_le hle
  case inl => exact .inl hlt
  case inr =>
    -- Both places are among those of their rank, which stand as they did.
    have htie := hsub.filter fun k => floatRank (score k) = floatRank (score i)
    rw [filter_mergeSort_descending] at htie
    have hij : [i, j].Sublist places := by
      simpa [heq] using htie.trans List.filter_sublist
    exact .inr ⟨floatRank_eq_iff.mp heq.symm, List.pairwise_iff_forall_sublist.mp h hij⟩

theorem eq_of_pairwise_precedes (h : places.Pairwise (Precedes score))
    (h' : order.Pairwise (Precedes score)) (hperm : order.Perm places) : order = places :=
  hperm.eq_of_pairwise (fun _ _ _ _ hij hji => absurd hji hij.asymm) h' h

end Order

namespace SectionSearcher

variable {s : SectionSearcher} {q : Query} {o : SearchOptions} {fs : List (FoundItem Float)}
  {score : Item → Float}

def matching (s : SectionSearcher) (q : Query) : List (Fin s.archive.items.length) :=
  (List.finRange s.archive.items.length).filter fun i => q.isMatch s.archive.items[i].blobs

-- The item at a place, with its score.
def foundAt (s : SectionSearcher) (score : Item → Float) (i : Fin s.archive.items.length) :
    FoundItem Float :=
  ⟨s.archive.items[i], score s.archive.items[i]⟩

theorem pairwise_lt_matching (s : SectionSearcher) (q : Query) : (s.matching q).Pairwise (· < ·) :=
  (List.pairwise_lt_finRange _).filter _

theorem found_eq_map_matching : s.found q = (s.matching q).map fun i => s.archive.items[i] := by
  have hitems := List.map_getElem_finRange s.archive.items
  have hfilter := congrArg (List.filter fun item => q.isMatch item.blobs) hitems
  rw [List.filter_map] at hfilter
  exact hfilter.symm

theorem map_found : (s.found q).map (fun item => (⟨item, score item⟩ : FoundItem Float)) =
    (s.matching q).map (s.foundAt score) := by
  rw [found_eq_map_matching, List.map_map]
  rfl

theorem rank_map_foundAt {places : List (Fin s.archive.items.length)} :
    rank (places.map (s.foundAt score)) =
      (places.mergeSort (descending fun i => score s.archive.items[i])).map (s.foundAt score) := by
  apply Eq.symm
  apply List.map_mergeSort
  intro i _ j _
  rfl

section Found

variable {α : Type} [Score α]

theorem foundItems_of_search {r : FoundSection α} (h : s.search q o = .ok r) :
    s.foundItems q o = .ok r.items := by
  unfold search at h
  cases hf : (s.foundItems q o : Except QueryError (List (FoundItem α))) with
  | error e =>
    rw [hf] at h
    exact nomatch h
  | ok fs =>
    rw [hf] at h
    obtain rfl := Except.ok.inj h
    rfl

theorem exists_weigher_of_foundItems {fs : List (FoundItem α)} (hs : s.ranks = true)
    (ho : o.ranks = true) (h : s.foundItems q o = .ok fs) :
    ∃ w, Weigher.ofQuery q s.archive.commonWords = .ok w ∧
      fs = rank ((s.found q).map fun item => ⟨item, scoreOf w o (.ofItem item)⟩) := by
  unfold foundItems at h
  rw [hs, ho, Bool.and_self, if_pos rfl] at h
  cases hw : Weigher.ofQuery q s.archive.commonWords with
  | error e =>
    rw [hw] at h
    exact nomatch h
  | ok w =>
    rw [hw] at h
    exact ⟨w, rfl, (Except.ok.inj h).symm⟩

end Found

theorem eq_of_foundItems_unranked (ho : o.ranks = false) (h : s.foundItems q o = .ok fs) :
    fs = (s.matching q).map (s.foundAt fun _ => 0) := by
  unfold foundItems at h
  rw [ho, Bool.and_false] at h
  rw [← map_found]
  exact (Except.ok.inj h).symm

theorem exists_of_foundItems_ranked (hs : s.ranks = true) (ho : o.ranks = true)
    (h : s.foundItems q o = .ok fs) : ∃ w, Weigher.ofQuery q s.archive.commonWords = .ok w ∧
      fs = rank ((s.matching q).map (s.foundAt fun item => scoreOf w o (.ofItem item))) := by
  obtain ⟨w, hw, rfl⟩ := exists_weigher_of_foundItems hs ho h
  exact ⟨w, hw, by rw [← map_found]⟩

theorem exists_search {α : Type} [Score α] {w : Weigher}
    (hw : Weigher.ofQuery q s.archive.commonWords = .ok w) :
    ∃ r : FoundSection α, s.search q o = .ok r := by
  unfold search foundItems
  split
  case isTrue =>
    rw [hw]
    exact ⟨_, rfl⟩
  case isFalse => exact ⟨_, rfl⟩

-- A search for excerpts finds the items that match, each place of the section once, whatever the
-- options say. Without ranking they keep the order of the section and have no score. With ranking
-- each has the score of its own facets, the higher score comes first, and items of one score keep
-- their order, which no other order of the same places achieves.
theorem search_order (s : SectionSearcher) (q : Query) (o : SearchOptions) (r : FoundSection Float)
    (hs : s.ranks = true) (h : s.search q o = .ok r) :
    ∃ (score : Item → Float) (order : List (Fin s.archive.items.length)),
      r.items = order.map (s.foundAt score) ∧
      order.Perm (s.matching q) ∧
      (o.ranks = false → (∀ item, score item = 0) ∧ order.Pairwise (· < ·)) ∧
      (o.ranks = true →
        (∃ w, Weigher.ofQuery q s.archive.commonWords = .ok w ∧
          ∀ item, score item = scoreOf w o (.ofItem item)) ∧
        order.Pairwise (Precedes fun i => score s.archive.items[i]) ∧
        ∀ order', order'.Perm (s.matching q) →
          order'.Pairwise (Precedes fun i => score s.archive.items[i]) → order' = order) := by
  have hitems := foundItems_of_search h
  cases ho : o.ranks with
  | false =>
    have hfound := eq_of_foundItems_unranked ho hitems
    refine ⟨fun _ => 0, s.matching q, hfound, .refl _, fun _ => ?_, fun hne => (nomatch hne)⟩
    exact ⟨fun _ => rfl, s.pairwise_lt_matching q⟩
  | true =>
    obtain ⟨w, hw, hfound⟩ := exists_of_foundItems_ranked hs ho hitems
    rw [rank_map_foundAt] at hfound
    have hperm := (s.matching q).mergeSort_perm
      (descending fun i => scoreOf w o (.ofItem s.archive.items[i]))
    have horder := pairwise_precedes_mergeSort (s.pairwise_lt_matching q)
      fun i => scoreOf w o (.ofItem s.archive.items[i])
    refine ⟨_, _, hfound, hperm, fun hne => (nomatch hne), fun _ => ⟨⟨w, hw, fun _ => rfl⟩, ?_⟩⟩
    refine ⟨horder, fun order' hperm' horder' => ?_⟩
    exact eq_of_pairwise_precedes horder horder' (hperm'.trans hperm.symm)

def threeExcerpts : SectionSearcher where
  ranks := true
  archive := {
    code := ['x'], name := ['e']
    items := [⟨[['^', 'a', 'b', '^']], [], none, none, none⟩,
      ⟨[['^', 'b', '^']], [], none, none, none⟩,
      ⟨[['^', 'a', '^', '[', 'a', ']']], [], none, none, none⟩]
    commonWords := ['a'] }

theorem search_order_threeExcerpts : ∃ q r, Query.parse ['a'] false = .ok q ∧
    threeExcerpts.ranks = true ∧ threeExcerpts.search q { relevant := true } = .ok r ∧
    ∃ (score : Item → Float) (order : List (Fin threeExcerpts.archive.items.length)),
      r.items = order.map (threeExcerpts.foundAt score) ∧ (order.map Fin.val).Perm [0, 2] ∧
      order.Pairwise (Precedes fun i => score threeExcerpts.archive.items[i]) := by
  have hparse : ((Query.parse ['a'] false).toOption.any fun q =>
      (threeExcerpts.matching q).map Fin.val = [0, 2] &&
        (Weigher.ofQuery q threeExcerpts.archive.commonWords).toOption.isSome) = true := by
    simp only [Weigher.ofQuery, Weigher.wholeFieldPatterns, Query.parse,
      Query.normalize_eq_quickNormalize]
    decide +kernel
  cases hq : Query.parse ['a'] false with
  | error e =>
    rw [hq] at hparse
    exact nomatch hparse
  | ok q =>
    rw [hq] at hparse
    obtain ⟨hmatching, hweigher⟩ := Bool.and_eq_true_iff.mp hparse
    cases hw : Weigher.ofQuery q threeExcerpts.archive.commonWords with
    | error e =>
      rw [hw] at hweigher
      exact nomatch hweigher
    | ok w =>
      obtain ⟨r, hr⟩ : ∃ r : FoundSection Float,
          threeExcerpts.search q { relevant := true } = .ok r := exists_search hw
      obtain ⟨score, order, hitems, hperm, -, hranked⟩ :=
        search_order threeExcerpts q { relevant := true } r rfl hr
      refine ⟨q, r, rfl, rfl, hr, score, order, hitems, ?_, (hranked rfl).2.1⟩
      rw [← of_decide_eq_true hmatching]
      exact hperm.map Fin.val

end SectionSearcher
end ExcerptSearch
