import ExcerptSearch.Proofs.Query.Spaces
import ExcerptSearch.Proofs.Search.Weighing

namespace ExcerptSearch

open Query

namespace Weigher

variable {text common t : Text} {strict : Bool} {q q' : Query} {w w' : Weigher} {m n : Nat}

theorem map_parts_ofQuery (h : Query.parse text strict = .ok q) (common : Text) :
    (ofQuery q common).map (·.parts) = q.searchParts.mapM (weighPart common) := by
  obtain ⟨ms, highlighter, -, -, rfl⟩ := exists_members_of_parse h
  obtain ⟨ps, hps⟩ := exists_wholeFieldPatterns (stripped_normalize text)
  simp only [ofQuery, hps]
  cases List.mapM (weighPart common) (Query.searchParts _) with
  | error e => rfl
  | ok parts => rfl

theorem wholeFieldPatterns_of_special (h : t.any specialChars.contains = true) :
    wholeFieldPatterns t = .ok [] := by
  simp [wholeFieldPatterns, h]

theorem any_specialChars_padded (h : t.any specialChars.contains = true) :
    (padded m n t).any specialChars.contains = true := by
  simp only [padded, List.any_append, h, Bool.or_true, Bool.true_or]

theorem weigh_congr {α : Type} [Score α] {blob : Text} {weight : α} (hparts : w'.parts = w.parts)
    (hwhole : w'.matchesWhole blob = w.matchesWhole blob) :
    w'.weigh blob weight = w.weigh blob weight := by
  simp only [weigh, hparts, hwhole]

end Weigher

namespace SectionSearcher

variable {α : Type} [Score α] {s : SectionSearcher} {q q' : Query} {o : SearchOptions}

theorem search_congr (hroot : q'.root = q.root)
    (hweigher : s.ranks = true → o.ranks = true →
      Weigher.ofQuery q' s.archive.commonWords = Weigher.ofQuery q s.archive.commonWords) :
    (s.search q' o : Except QueryError (FoundSection α)) = s.search q o := by
  have hfound : s.found q' = s.found q := by
    simp only [found, Query.isMatch, hroot]
  have hitems : (s.foundItems q' o : Except QueryError (List (FoundItem α))) =
      s.foundItems q o := by
    unfold foundItems
    split
    case isTrue h =>
      obtain ⟨hs, ho⟩ := Bool.and_eq_true_iff.mp h
      rw [hweigher hs ho, hfound]
    case isFalse => rw [hfound]
  simp only [search, hitems]

end SectionSearcher

namespace Query

variable {text : Text} {strict : Bool} {q : Query}

-- With spaces around it a query is accepted or refused as before, and it matches the same items. It
-- is weighed by the same parts, so weights only differ for a blob that one of the two is the whole
-- field of, and not the other. There is none if the query has a special character. Searches give
-- the same results then, and where they do not rank.
theorem search_padded (text : Text) (strict : Bool) (m n : Nat) :
    parse (padded m n text) strict =
      (parse text strict).map (fun q => { q with text := padded m n q.text }) ∧
    ∀ q q', parse text strict = .ok q → parse (padded m n text) strict = .ok q' →
      (∀ blobs, q'.isMatch blobs = q.isMatch blobs) ∧
      (∀ common, (Weigher.ofQuery q' common).map (·.parts) =
        (Weigher.ofQuery q common).map (·.parts)) ∧
      (∀ common w w', Weigher.ofQuery q common = .ok w → Weigher.ofQuery q' common = .ok w' →
        ∀ {α : Type} [Score α] (blob : Text) (weight : α),
          (w'.matchesWhole blob = w.matchesWhole blob ∨
            q.text.any Weigher.specialChars.contains = true) →
          w'.weigh blob weight = w.weigh blob weight) ∧
      ∀ {α : Type} [Score α] (s : SectionSearcher) (o : SearchOptions),
        (s.ranks = true → o.ranks = true → q.text.any Weigher.specialChars.contains = true) →
        (s.search q' o : Except QueryError (FoundSection α)) = s.search q o := by
  refine ⟨parse_padded m n text strict, fun q q' hq hq' => ?_⟩
  obtain rfl : { q with text := padded m n q.text } = q' := by
    rw [parse_padded, hq] at hq'
    exact Except.ok.inj hq'
  have hparts : ∀ common, (Weigher.ofQuery { q with text := padded m n q.text } common).map
      (·.parts) = (Weigher.ofQuery q common).map (·.parts) := by
    intro common
    rw [Weigher.map_parts_ofQuery hq, Weigher.map_parts_ofQuery hq']
    rfl
  have hspecial : q.text.any Weigher.specialChars.contains = true → ∀ common,
      Weigher.ofQuery { q with text := padded m n q.text } common = Weigher.ofQuery q common := by
    intro h common
    simp only [Weigher.ofQuery, Weigher.wholeFieldPatterns_of_special h,
      Weigher.wholeFieldPatterns_of_special (Weigher.any_specialChars_padded h)]
    rfl
  refine ⟨fun _ => rfl, hparts, ?weigh, ?search⟩
  case weigh =>
    intro common w w' hw hw' α _ blob weight h
    obtain hwhole | h := h
    · have hsame := hparts common
      rw [hw, hw'] at hsame
      exact Weigher.weigh_congr (Except.ok.inj hsame) hwhole
    · obtain rfl : w' = w := Except.ok.inj (hw'.symm.trans ((hspecial h common).trans hw))
      rfl
  case search =>
    intro α _ s o h
    exact SectionSearcher.search_congr rfl fun hs ho => hspecial (h hs ho) _

theorem search_padded_unclosed :
    ∃ q q', parse ['"', 'a', '\\'] true = .ok q ∧
      parse (padded 1 2 ['"', 'a', '\\']) true = .ok q' ∧
      q.text.any Weigher.specialChars.contains = true ∧
      q'.isMatch [['a', '\\']] = q.isMatch [['a', '\\']] ∧
      (∃ w w', Weigher.ofQuery q [] = .ok w ∧ Weigher.ofQuery q' [] = .ok w' ∧
        w'.weigh ['a', '\\'] (Score.half : Rat) = w.weigh ['a', '\\'] Score.half) ∧
      (SectionSearcher.threeExcerpts.search q' { relevant := true } :
        Except QueryError (FoundSection Float)) =
        SectionSearcher.threeExcerpts.search q { relevant := true } := by
  obtain ⟨hparse, hsame⟩ := search_padded ['"', 'a', '\\'] true 1 2
  have hnormal : normalize ['"', 'a', '\\'] = ['"', 'a', '\\'] := by
    have ha : Inert 'a' := .of_ascii (by decide) (by decide) rfl
    rw [inert_quote.normalize_cons, ha.normalize_cons, normalize_ascii rfl, lowered_slash]
  have hraw : '`' ∉ normalize ['"', 'a', '\\'] := by
    rw [hnormal]
    decide
  obtain ⟨q, w, hq, hw⟩ := Weigher.exists_ofQuery_of_not_mem hraw true []
  have hspecial : q.text.any Weigher.specialChars.contains = true := by
    obtain ⟨_, _, -, -, rfl⟩ := exists_members_of_parse hq
    rw [hnormal]
    rfl
  rw [hq] at hparse
  obtain ⟨q', hq'⟩ : ∃ q', parse (padded 1 2 ['"', 'a', '\\']) true = .ok q' := ⟨_, hparse⟩
  obtain ⟨hmatch, hparts, hweigh, hsearch⟩ := hsame q q' hq hq'
  refine ⟨q, q', hq, hq', hspecial, hmatch _, ?_, hsearch _ _ fun _ _ => hspecial⟩
  have hsome := hparts []
  rw [hw] at hsome
  cases hw' : Weigher.ofQuery q' [] with
  | error e => exact nomatch hw' ▸ hsome
  | ok w' => exact ⟨w, w', hw, rfl, hweigh [] w w' hw hw' _ _ (.inr hspecial)⟩

-- A space before a single word makes several words of it for the search of whole texts, and the
-- word counts twice.
theorem weigh_padded_ne :
    ∃ q q' w w', parse ['a', 'b'] false = .ok q ∧ parse (padded 1 0 ['a', 'b']) false = .ok q' ∧
      Weigher.ofQuery q [] = .ok w ∧ Weigher.ofQuery q' [] = .ok w' ∧
      w.weigh ['^', 'c', ' ', 'a', 'b', '^'] (Score.half : Rat) = 3 ∧
      w'.weigh ['^', 'c', ' ', 'a', 'b', '^'] (Score.half : Rat) = 6 := by
  have hweight : ((parse ['a', 'b'] false).toOption.any fun q =>
      (Weigher.ofQuery q []).toOption.any fun w =>
        w.weigh ['^', 'c', ' ', 'a', 'b', '^'] (Score.half : Rat) = 3) = true := by
    simp only [Weigher.ofQuery, Weigher.wholeFieldPatterns, parse, normalize_eq_quickNormalize]
    decide +kernel
  have hweight' : ((parse (padded 1 0 ['a', 'b']) false).toOption.any fun q =>
      (Weigher.ofQuery q []).toOption.any fun w =>
        w.weigh ['^', 'c', ' ', 'a', 'b', '^'] (Score.half : Rat) = 6) = true := by
    simp only [Weigher.ofQuery, Weigher.wholeFieldPatterns, parse, normalize_eq_quickNormalize]
    decide +kernel
  obtain ⟨q, hq, hw⟩ := exists_of_any_toOption hweight
  obtain ⟨q', hq', hw'⟩ := exists_of_any_toOption hweight'
  obtain ⟨w, hw, h⟩ := exists_of_any_toOption hw
  obtain ⟨w', hw', h'⟩ := exists_of_any_toOption hw'
  exact ⟨q, q', w, w', hq, hq', hw, hw', of_decide_eq_true h, of_decide_eq_true h'⟩

end Query
end ExcerptSearch
