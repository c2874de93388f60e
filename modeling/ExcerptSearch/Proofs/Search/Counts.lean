import ExcerptSearch.Proofs.Binary64.Bounds
import ExcerptSearch.Proofs.Query.Matching
import ExcerptSearch.Proofs.Query.Normalize
import ExcerptSearch.Proofs.Search.Facets
import ExcerptSearch.Search.Searcher

namespace ExcerptSearch

open Binary64

section Sums

variable {k : Int} {l : List Float} {s : Float}

theorem below_foldl (hl : ∀ x ∈ l, Below (k - 54) (unpacked x)) (hs : Below k (unpacked s))
    (hk : -1021 ≤ k) (hk' : k ≤ 1024) : Below k (unpacked (l.foldl (· + ·) s)) := by
  induction l generalizing s with
  | nil => exact hs
  | cons x l ih =>
    have ⟨hx, hl⟩ := List.forall_mem_cons.mp hl
    exact ih hl (add_below_small hs hx hk hk')

theorem below_sum (hl : ∀ x ∈ l, Below (k - 54) (unpacked x)) (hk : -1021 ≤ k) (hk' : k ≤ 1024) :
    Below k (unpacked (Score.sum l)) :=
  below_foldl hl below_zero hk hk'

theorem atLeast_foldl (hl : ∀ x ∈ l, AtLeast k (unpacked x)) (hs : AtLeast k (unpacked s))
    (hk : -1074 ≤ k) : AtLeast k (unpacked (l.foldl (· + ·) s)) := by
  induction l generalizing s with
  | nil => exact hs
  | cons x l ih =>
    have ⟨hx, hl⟩ := List.forall_mem_cons.mp hl
    exact ih hl (add_atLeast_left hs hx.nonNeg hk)

theorem atLeast_sum (hl : ∀ x ∈ l, AtLeast k (unpacked x)) (hne : l ≠ []) (hk : -1074 ≤ k) :
    AtLeast k (unpacked (Score.sum l)) := by
  cases l with
  | nil => exact absurd rfl hne
  | cons x l =>
    have ⟨hx, hl⟩ := List.forall_mem_cons.mp hl
    have hzero : Below 0 (unpacked (Float.ofNat 0)) := below_zero
    have hfirst : AtLeast k (unpacked (Float.ofNat 0 + x)) :=
      add_atLeast_right hzero.nonNeg hx hk
    show AtLeast k (unpacked (l.foldl (· + ·) (Float.ofNat 0 + x)))
    exact atLeast_foldl hl hfirst hk

end Sums

namespace Facets

variable {facet : Facet} {l : List Text} {n : Nat} {item : Item}
  {p : Facet × FacetText Float}

-- Is the count not less than one half?
def Counted (p : Facet × FacetText Float) : Prop :=
  AtLeast (-1) (unpacked p.2.count)

theorem atLeast_textCount (t : Text) : AtLeast (-1) (unpacked (textCount t : Float)) := by
  unfold textCount
  split
  case isTrue => exact atLeast_ofNat (by decide) (by decide) (by decide)
  case isFalse h =>
    have hlog : 5 ≤ t.length.log2 := (Nat.le_log2 (by omega)).mpr (by omega)
    have hlength : AtLeast 5 (unpacked (Float.ofNat t.length)) :=
      atLeast_ofNat (by omega) (by decide) (by omega)
    have hsixty : unpacked (Float.ofNat 60) =
        .finite .positive (60 * 2 ^ 47) (-47) (by decide) := rfl
    exact div_atLeast hlength hsixty (k := 6) (by decide) (by decide)

theorem counted_ofFields (hp : p ∈ (ofFields facet l n : List (Facet × FacetText Float)))
    (hn : l ≠ [] → 0 < n) : p.1 = facet ∧ Counted p := by
  have ⟨_, hl, hfacet, hcount⟩ := eq_of_mem_ofFields hp
  refine ⟨hfacet, ?_⟩
  rw [Counted, hcount]
  exact atLeast_ofNat (hn hl) (by decide) (by omega)

theorem counted_ofTexts {blobs : List Text}
    (hp : p ∈ (ofTexts blobs : List (Facet × FacetText Float))) :
    p.1 ≠ .teacher ∧ Counted p := by
  have ⟨(t, i), htexts, hp⟩ := List.mem_map.mp hp
  subst hp
  refine ⟨nofun, ?_⟩
  unfold Counted
  dsimp only
  split
  case isTrue => exact atLeast_textCount t
  case isFalse =>
    refine atLeast_sum ?_ ?_ (by decide)
    · intro x hx
      have ⟨(t, _), _, ht⟩ := List.mem_map.mp hx
      exact ht ▸ atLeast_textCount t
    · intro hnil
      rw [List.map_eq_nil_iff] at hnil
      exact nomatch hnil ▸ htexts

theorem exists_entries_ofItem (item : Item) : ∃ front : List (Facet × FacetText Float),
    (ofItem item : Facets Float).entries = front ++
      ofFields .teacher (distinctFields teachers item.blobs)
        (item.uniqueTeachers.getD (distinctFields teachers item.blobs).length) ++
      ofTexts item.blobs ∧
    ∀ p ∈ front, p.1 ≠ .teacher ∧ Counted p := by
  refine ⟨_, entries_ofItem item, fun p hp => ?_⟩
  have hother : ∀ {facet l n}, p ∈ (ofFields facet l n : List (Facet × FacetText Float)) →
      facet ≠ .teacher → (l ≠ [] → 0 < n) → p.1 ≠ .teacher ∧ Counted p := by
    intro facet l n hp hfacet hn
    have ⟨heq, hcounted⟩ := counted_ofFields hp hn
    exact ⟨heq ▸ hfacet, hcounted⟩
  simp only [List.mem_append] at hp
  obtain (hp | hp) | hp := hp
  · exact hother hp nofun List.length_pos_iff.mpr
  · exact hother hp nofun List.length_pos_iff.mpr
  · exact hother hp nofun fun h => Nat.add_pos_left (List.length_pos_iff.mpr h) _

theorem counted_teacher (h : item.uniqueTeachers ≠ some 0)
    (hp : p ∈ (ofFields .teacher (distinctFields teachers item.blobs)
      (item.uniqueTeachers.getD (distinctFields teachers item.blobs).length) :
        List (Facet × FacetText Float))) : Counted p :=
  (counted_ofFields hp (uniqueTeachers_pos h)).2

-- Does the item say that it has none of the persons in this facet?
def Denied (item : Item) (facet : Facet) : Prop :=
  facet = .teacher ∧ item.uniqueTeachers = some 0

theorem counted_or_of_mem (hp : p ∈ (ofItem item : Facets Float).entries) :
    Counted p ∧ ¬Denied item p.1 ∨ p.2.count = Float.ofNat 0 ∧ Denied item p.1 := by
  have ⟨front, hentries, hfront⟩ := exists_entries_ofItem item
  rw [hentries, List.mem_append, List.mem_append] at hp
  obtain (hp | hp) | hp := hp
  · have ⟨hfacet, hcounted⟩ := hfront p hp
    exact .inl ⟨hcounted, fun h => hfacet h.1⟩
  · by_cases hunique : item.uniqueTeachers = some 0
    case pos =>
      have ⟨_, _, hfacet, hcount⟩ := eq_of_mem_ofFields hp
      rw [hunique] at hcount
      exact .inr ⟨hcount, hfacet, hunique⟩
    case neg => exact .inl ⟨counted_teacher hunique hp, fun h => hunique h.2⟩
  · have ⟨hfacet, hcounted⟩ := counted_ofTexts hp
    exact .inl ⟨hcounted, fun h => hfacet h.1⟩

end Facets

section Weigh

variable {common : Float}

theorem below_half : Below 4 (unpacked (Score.half : Float)) := by
  have hone : Below 4 (unpacked (Float.ofNat 1)) := below_ofNat (i := 1) (by decide) (by decide)
  have htwo : AtLeast 1 (unpacked (Float.ofNat 2)) :=
    atLeast_ofNat (by decide) (by decide) (by decide)
  exact div_below hone htwo (by decide) (by decide)

theorem below_total (hcommon : Below 4 (unpacked common)) (parts : List WeighedPart) :
    Below 58 (unpacked (Weigher.total common parts)) := by
  refine below_sum (fun x hx => ?_) (by decide) (by decide)
  have ⟨p, _, hp⟩ := List.mem_map.mp hx
  rw [← hp]
  split
  case isTrue => exact hcommon
  case isFalse => exact below_ofNat (i := 1) (by decide) (by decide)

theorem below_weigh (hcommon : Below 4 (unpacked common)) (w : Weigher) (blob : Text) :
    Below 68 (unpacked (w.weigh blob common)) := by
  have hthree : Below 5 (unpacked (Float.ofNat 3)) := below_ofNat (i := 2) (by decide) (by decide)
  have hwhole : Below 4 (unpacked (Float.ofNat (if w.matchesWhole blob then 1 else 0))) := by
    refine below_ofNat (i := 1) ?_ (by decide)
    split <;> decide
  have hfield := mul_below hthree hwhole (by decide) (by decide)
  have hfull := fun parts => mul_below hthree (below_total hcommon parts) (by decide) (by decide)
  have hsum := fun parts =>
    add_below (hfield.mono (by decide)) (hfull parts) (by decide) (by decide)
  have hpartly := fun parts => (below_total hcommon parts).mono (show (58 : Int) ≤ 66 by decide)
  exact add_below (hsum _) (hpartly _) (by decide) (by decide)

theorem below_factor {count : Float} (h : AtLeast (-1) (unpacked count)) :
    Below 8 (unpacked (Float.ofNat 1 + Score.half / count)) := by
  have hone : Below 4 (unpacked (Float.ofNat 1)) := below_ofNat (i := 1) (by decide) (by decide)
  exact add_below (hone.mono (by decide)) (div_below below_half h (by decide) (by decide))
    (by decide) (by decide)

theorem infinite_quotient : unpacked (Score.half / Float.ofNat 0) = .infinity .positive :=
  rfl

theorem infinite_factor :
    unpacked (Float.ofNat 1 + Score.half / Float.ofNat 0) = .infinity .positive :=
  rfl

end Weigh

section Score

variable {w : Weigher} {score : Float} {p : Facet × FacetText Float}
  {entries : List (Facet × FacetText Float)}

theorem below_weight (facet : Facet) : Below 6 (unpacked (Float.ofNat facet.weight)) := by
  refine below_ofNat (i := 3) ?_ (by decide)
  unfold Facet.weight
  split <;> decide

theorem atLeast_weight (facet : Facet) : AtLeast 0 (unpacked (Float.ofNat facet.weight)) := by
  refine atLeast_ofNat ?_ (by decide) (by omega)
  unfold Facet.weight
  split <;> decide

theorem addFacet_eq (w : Weigher) (score : Float) (p : Facet × FacetText Float) :
    addFacet w score p =
      if p.1 = .featuredTag || Score.isZero (w.weigh p.2.text (Score.half : Float)) then score
      else score + w.weigh p.2.text Score.half * Float.ofNat p.1.weight *
        (Float.ofNat 1 + Score.half / p.2.count) :=
  rfl

theorem below_matched (w : Weigher) (p : Facet × FacetText Float) :
    Below 75 (unpacked (w.weigh p.2.text Score.half * Float.ofNat p.1.weight)) :=
  mul_below (below_weigh below_half w p.2.text) (below_weight p.1) (by decide) (by decide)

theorem below_addFacet
    (h : Facets.Counted p ∨ Score.isZero (w.weigh p.2.text (Score.half : Float)) = true)
    (hs : Below 140 (unpacked score)) :
    Below 140 (unpacked (addFacet w score p)) := by
  rw [addFacet_eq]
  split
  case isTrue => exact hs
  case isFalse hnone =>
    have hcounted := h.resolve_right fun hzero => hnone (by simp [hzero])
    have hadded := mul_below (below_matched w p) (below_factor hcounted) (by decide) (by decide)
    exact add_below_small hs (hadded.mono (by decide)) (by decide) (by decide)

theorem infinite_addFacet (h : Facets.Counted p) (hs : unpacked score = .infinity .positive) :
    unpacked (addFacet w score p) = .infinity .positive := by
  rw [addFacet_eq]
  split
  case isTrue => exact hs
  case isFalse =>
    have hadded := mul_below (below_matched w p) (below_factor h) (by decide) (by decide)
    exact add_infinite_left hs hadded.nonNeg

theorem below_foldl_addFacet
    (h : ∀ p ∈ entries, Facets.Counted p ∨
      Score.isZero (w.weigh p.2.text (Score.half : Float)) = true)
    (hs : Below 140 (unpacked score)) :
    Below 140 (unpacked (entries.foldl (addFacet w) score)) := by
  induction entries generalizing score with
  | nil => exact hs
  | cons p entries ih =>
    have ⟨hp, hentries⟩ := List.forall_mem_cons.mp h
    exact ih hentries (below_addFacet hp hs)

theorem infinite_foldl_addFacet (h : ∀ p ∈ entries, Facets.Counted p)
    (hs : unpacked score = .infinity .positive) :
    unpacked (entries.foldl (addFacet w) score) = .infinity .positive := by
  induction entries generalizing score with
  | nil => exact hs
  | cons p entries ih =>
    have ⟨hp, hentries⟩ := List.forall_mem_cons.mp h
    exact ih hentries (infinite_addFacet hp hs)

theorem infinite_addFacet_of_zero (hfacet : p.1 ≠ .featuredTag) (hcount : p.2.count = Float.ofNat 0)
    (hweigh : Score.isZero (w.weigh p.2.text (Score.half : Float)) = false)
    (hs : Below 140 (unpacked score)) : unpacked (addFacet w score p) = .infinity .positive := by
  rw [addFacet_eq]
  split
  case isTrue h => simp [hfacet, hweigh] at h
  case isFalse =>
    have hmatched := mul_atLeast (atLeast_of_ne_zero (below_weigh below_half w p.2.text) hweigh)
      (atLeast_weight p.1) (by decide)
    refine add_infinite_right hs.nonNeg (mul_infinite_right hmatched ?_)
    exact hcount ▸ infinite_factor

theorem below_featured {t : FacetText Float} {common : Float} (hcount : Below 67 (unpacked t.count))
    (hcommon : Below 4 (unpacked common)) (w : Weigher) (counts : Bool) :
    Below 140 (unpacked (
      if counts then Float.ofNat 900 * w.weigh t.text common + t.count * Float.ofNat 100
      else Float.ofNat 900 * w.weigh t.text common)) := by
  have hnine : Below 13 (unpacked (Float.ofNat 900)) :=
    below_ofNat (i := 10) (by decide) (by decide)
  have hscore := mul_below hnine (below_weigh hcommon w t.text) (by decide) (by decide)
  split
  case isTrue =>
    have hhundred : Below 10 (unpacked (Float.ofNat 100)) :=
      below_ofNat (i := 7) (by decide) (by decide)
    have hcounts : Below 82 (unpacked (t.count * Float.ofNat 100)) :=
      (mul_below hcount hhundred (by decide) (by decide)).mono (by decide)
    have hsum := add_below hscore hcounts (by decide) (by decide)
    exact hsum.mono (show (84 : Int) ≤ 140 by decide)
  case isFalse => exact hscore.mono (show (82 : Int) ≤ 140 by decide)

theorem below_featuredScore {item : Item}
    (hfew : (distinctFields featuredTags item.blobs).length < 2 ^ 64) (w : Weigher)
    (o : SearchOptions) :
    Below 140 (unpacked (featuredScore w o (Facets.ofItem item : Facets Float))) := by
  unfold featuredScore
  split
  case h_2 => exact below_zero
  case h_1 t _ ht =>
    rw [Facets.get?_featured] at ht
    split at ht
    case isTrue => exact nomatch ht
    case isFalse =>
      have hcount : Below 67 (unpacked t.count) := by
        cases ht
        exact below_ofNat hfew (by decide)
      have hcommon : Below 4 (unpacked (if o.relevant then Float.ofNat 0 else Score.half)) := by
        split
        case isTrue => exact below_zero
        case isFalse => exact below_half
      exact below_featured hcount hcommon w _

-- A denied facet is the only one of its item.
theorem exists_entries_of_denied {item : Item}
    (hp : p ∈ (Facets.ofItem item : Facets Float).entries) (hdenied : Facets.Denied item p.1) :
    ∃ front back : List (Facet × FacetText Float),
      (Facets.ofItem item : Facets Float).entries = front ++ p :: back ∧
      (∀ p ∈ front, Facets.Counted p) ∧ ∀ p ∈ back, Facets.Counted p := by
  have ⟨front, hentries, hfront⟩ := Facets.exists_entries_ofItem item
  rw [hentries, List.mem_append, List.mem_append] at hp
  obtain (hp | hp) | hp := hp
  · exact absurd hdenied.1 (hfront p hp).1
  · have ⟨hsingle, _⟩ := Facets.eq_of_mem_ofFields hp
    refine ⟨front, Facets.ofTexts item.blobs, ?_, fun p hp => (hfront p hp).2,
      fun p hp => (Facets.counted_ofTexts hp).2⟩
    rw [hentries, hsingle, List.append_assoc, List.singleton_append]
  · exact absurd hdenied.1 (Facets.counted_ofTexts hp).1

theorem infinite_scoreOf {item : Item} {o : SearchOptions} (hrelevant : o.relevant = true)
    (hfew : (distinctFields featuredTags item.blobs).length < 2 ^ 64)
    (hp : p ∈ (Facets.ofItem item : Facets Float).entries) (hdenied : Facets.Denied item p.1)
    (hweigh : Score.isZero (w.weigh p.2.text (Score.half : Float)) = false) :
    unpacked (scoreOf w o (Facets.ofItem item : Facets Float)) = .infinity .positive := by
  have hcount : p.2.count = Float.ofNat 0 := by
    cases Facets.counted_or_of_mem hp with
    | inl h => exact absurd hdenied h.2
    | inr h => exact h.1
  have ⟨front, back, hentries, hfront, hback⟩ := exists_entries_of_denied hp hdenied
  have hbefore := below_foldl_addFacet (w := w) (fun p hp => .inl (hfront p hp))
    (below_featuredScore hfew w o)
  have hfacet : p.1 ≠ .featuredTag := hdenied.1 ▸ nofun
  rw [scoreOf, if_pos hrelevant, hentries, List.foldl_append, List.foldl_cons]
  exact infinite_foldl_addFacet hback (infinite_addFacet_of_zero hfacet hcount hweigh hbefore)

theorem below_scoreOf {item : Item} {o : SearchOptions}
    (hfew : (distinctFields featuredTags item.blobs).length < 2 ^ 64)
    (h : o.relevant = true → ∀ p ∈ (Facets.ofItem item : Facets Float).entries,
      Facets.Denied item p.1 → Score.isZero (w.weigh p.2.text (Score.half : Float)) = true) :
    Below 140 (unpacked (scoreOf w o (Facets.ofItem item : Facets Float))) := by
  have hfeatured := below_featuredScore hfew w o
  by_cases hrelevant : o.relevant = true
  case neg =>
    rw [scoreOf, if_neg hrelevant]
    exact hfeatured
  case pos =>
    rw [scoreOf, if_pos hrelevant]
    refine below_foldl_addFacet (fun p hp => ?_) hfeatured
    cases Facets.counted_or_of_mem hp with
    | inl hcounted => exact .inl hcounted.1
    | inr hdenied => exact .inr (h hrelevant p hp hdenied.2)

-- A count is positive unless the item denies the facet, and a score is finite unless a match counts
-- in a facet that the item denies.
theorem count_pos_iff_and_isFinite_scoreOf_iff (item : Item) :
    (∀ p ∈ (Facets.ofItem item : Facets Float).entries,
      (0 < p.2.count ↔ ¬Facets.Denied item p.1) ∧
      ((Score.half / p.2.count).isFinite = true ↔ ¬Facets.Denied item p.1)) ∧
    ∀ (w : Weigher) (o : SearchOptions),
      (distinctFields featuredTags item.blobs).length < 2 ^ 64 →
      ((scoreOf w o (Facets.ofItem item : Facets Float)).isFinite = true ↔
        ¬(o.relevant = true ∧ ∃ p ∈ (Facets.ofItem item : Facets Float).entries,
          Facets.Denied item p.1 ∧
            Score.isZero (w.weigh p.2.text (Score.half : Float)) = false)) := by
  constructor
  case left =>
    intro p hp
    cases Facets.counted_or_of_mem hp with
    | inl h =>
      have hdiv := div_below below_half h.1 (by decide) (by decide)
      exact ⟨iff_of_true (pos_of_atLeast h.1) h.2, iff_of_true (isFinite_of_below hdiv) h.2⟩
    | inr h =>
      have hzero : ¬0 < Float.ofNat 0 := by decide
      have hinfinite := not_isFinite_of_infinite infinite_quotient
      rw [h.1, hinfinite]
      exact ⟨iff_of_false hzero (not_not.mpr h.2), iff_of_false nofun (not_not.mpr h.2)⟩
  case right =>
    intro w o hfew
    constructor
    case mp =>
      rintro hfinite ⟨hrelevant, p, hp, hdenied, hweigh⟩
      have hinfinite := infinite_scoreOf hrelevant hfew hp hdenied hweigh
      exact absurd hfinite (by simp [not_isFinite_of_infinite hinfinite])
    case mpr =>
      intro h
      refine isFinite_of_below (below_scoreOf hfew fun hrelevant p hp hdenied => ?_)
      by_contra hweigh
      exact h ⟨hrelevant, p, hp, hdenied, Bool.eq_false_iff.mpr hweigh⟩

def Item.ofTeacher (n : Nat) : Item where
  blobs          := ["{a}".toList]
  uniqueTeachers := some n

theorem few_featuredTags (n : Nat) :
    (distinctFields featuredTags (Item.ofTeacher n).blobs).length < 2 ^ 64 := by
  have hnone : distinctFields featuredTags ["{a}".toList] = [] := by cbv
  rw [Item.ofTeacher, hnone]
  decide

theorem count_pos_iff_and_isFinite_scoreOf_iff_one :
    (∀ p ∈ (Facets.ofItem (.ofTeacher 1) : Facets Float).entries,
      0 < p.2.count ∧ (Score.half / p.2.count).isFinite = true) ∧
    ∀ (w : Weigher) (o : SearchOptions),
      (scoreOf w o (Facets.ofItem (.ofTeacher 1) : Facets Float)).isFinite = true := by
  have ⟨hcounts, hscores⟩ := count_pos_iff_and_isFinite_scoreOf_iff (.ofTeacher 1)
  have hadmits : ∀ facet, ¬Facets.Denied (.ofTeacher 1) facet := fun _ h => nomatch h.2
  constructor
  case left =>
    intro p hp
    have ⟨hpos, hfinite⟩ := hcounts p hp
    exact ⟨hpos.mpr (hadmits _), hfinite.mpr (hadmits _)⟩
  case right =>
    intro w o
    exact (hscores w o (few_featuredTags 1)).mpr fun ⟨_, _, _, hdenied, _⟩ => hadmits _ hdenied

theorem exists_infinite_scoreOf :
    ∃ q w, Query.parse "{a}".toList false = .ok q ∧ Weigher.ofQuery q [] = .ok w ∧
      (∃ p ∈ (Facets.ofItem (.ofTeacher 0) : Facets Float).entries, ¬0 < p.2.count) ∧
      (scoreOf w { relevant := true } (Facets.ofItem (.ofTeacher 0) : Facets Float)).isFinite =
        false := by
  have hquery : (Query.parse "{a}".toList false).toOption.any (fun q =>
      (Weigher.ofQuery q []).toOption.any fun w =>
        !Score.isZero (w.weigh ["{a}".toList].flatten (Score.half : Float))) = true := by
    simp only [Weigher.ofQuery, Weigher.wholeFieldPatterns, Query.parse,
      Query.normalize_eq_quickNormalize]
    decide +kernel
  obtain ⟨q, hq, hweigher⟩ := Query.exists_of_any_toOption hquery
  obtain ⟨w, hw, hweigh⟩ := Query.exists_of_any_toOption hweigher
  have hteachers : distinctFields teachers ["{a}".toList] = ["{a}".toList] := by cbv
  have hp : (.teacher, ⟨["{a}".toList].flatten, Float.ofNat 0⟩) ∈
      (Facets.ofItem (.ofTeacher 0) : Facets Float).entries := by
    obtain ⟨front, hentries, _⟩ := Facets.exists_entries_ofItem (.ofTeacher 0)
    rw [hentries, Item.ofTeacher, hteachers]
    exact List.mem_append_left _ (List.mem_append_right front (.head _))
  have hinfinite := infinite_scoreOf (o := { relevant := true }) rfl (few_featuredTags 0) hp
    ⟨rfl, rfl⟩ (by simpa using hweigh)
  exact ⟨q, w, hq, hw, ⟨_, hp, by decide⟩, not_isFinite_of_infinite hinfinite⟩

end Score
end ExcerptSearch
