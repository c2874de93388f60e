import ExcerptSearch.Proofs.Query.Phrases
import ExcerptSearch.Proofs.Query.Sides
import ExcerptSearch.Proofs.Search.Facets

namespace ExcerptSearch

open Query

namespace TermPattern

variable {p : Regex.Compiled} {h t : Text}

theorem onQuestionSide_iff (hcovers : ∀ {u v w}, p.regex.Covers u v w ↔ v = t) :
    OnQuestionSide p h ↔ ∃ u w, h = u ++ t ++ w ∧ sideMarker <:+: w := by
  constructor
  case mp =>
    rintro ⟨i, hlast, a, b, ho, hbi⟩
    have ⟨u, v, w, hh, _, hb, hv⟩ := ho.exists_covers
    obtain rfl := hcovers.mp hv
    refine ⟨u, w, hh, ?_⟩
    have hdrop : h.drop i <:+ w := by
      have hw : h.drop b = w := by simp [hh, hb]
      rw [← hw, ← Nat.add_sub_of_le hbi, ← List.drop_drop]
      exact List.drop_suffix _ _
    exact hlast.1.isInfix.trans hdrop.isInfix
  case mpr =>
    rintro ⟨u, w, rfl, hin⟩
    have ⟨i, hlast⟩ := Text.exists_lastAt sideMarker_ne_nil
      (hin.trans (List.suffix_append (u ++ t) w).isInfix)
    have ho := (hcovers.mpr rfl : p.regex.Covers u t w).occurs
    refine ⟨i, hlast, _, _, ho, ?_⟩
    have ⟨x, y, hw⟩ := hin
    have hmark : sideMarker <+: (u ++ t ++ w).drop ((u ++ t).length + x.length) :=
      ⟨y, by simp [← hw, ← List.drop_drop]⟩
    exact Nat.le_trans (Nat.le_add_right _ _) (hlast.2 _ hmark)

end TermPattern

namespace Term

variable {t text : Text}

theorem seesMetadata_of_ofText {s : Term} (h : ofText text = .ok s) :
    s.seesMetadata = looksAtMetadata text := by
  unfold ofText at h
  split at h
  case h_1 =>
    split at h
    case h_1 => exact (congrArg seesMetadata (Except.ok.inj h)).symm
    case h_2 => exact nomatch h
  case h_2 =>
    simp only at h
    split at h
    case h_1 => exact (congrArg seesMetadata (Except.ok.inj h)).symm
    case h_2 => exact nomatch h

theorem exists_ofText_question (hopen : '[' ∉ t) (hclose : ']' ∉ t)
    (hplain : t.any isWildcard = false) : ∃ s, ofText (inBrackets t ++ sideMarker) = .ok s ∧
      ∀ h, s.pattern.isMatch h = true ↔
        ∃ u w, h = u ++ inBrackets t ++ w ∧ sideMarker <:+: w := by
  obtain ⟨p, hp, hseparate⟩ := exists_compiled_inBrackets hopen hclose
  have helement : element (inBrackets t ++ sideMarker) = (inBrackets t, .question) := by
    have hside := questionSide_marked (t := t) []
    rw [List.nil_append] at hside
    simp only [element, hside, answerSide_unmarked, TagScope.restrict]
  obtain ⟨s, hs, hpattern⟩ :=
    exists_ofText_of_element hp (by simp [inBrackets]) (by simp [inBrackets]) helement
  have hplain' : ∀ c ∈ inBrackets t, isWildcard c = false := by
    have hnone : (inBrackets t).any isWildcard = false := by
      simp [inBrackets, List.any_append, hplain, isWildcard]
    simpa using hnone
  have hcovers : ∀ {u v w}, p.regex.Covers u v w ↔ v = inBrackets t := by
    obtain ⟨r, hr, hcovers⟩ := exists_parse?_expandWildcards (inBrackets t)
    have hregex : p.regex = r :=
      Regex.Compiled.regex_eq_of_parse? (Regex.Compiled.source_of_ofSource? hp ▸ hr)
    intro u v w
    rw [hregex, hcovers, bounded_inBrackets, readsAs_of_plain hplain']
  refine ⟨s, hs, fun h => ?_⟩
  rw [hpattern, TermPattern.isMatch_question_iff (hseparate h)]
  exact TermPattern.onQuestionSide_iff hcovers

end Term

namespace Facets

variable {α : Type} [Score α] {s t u w : Text}

-- Does a tag stand between these two parts of a text, with a marker somewhere behind it?
def TagBefore (t s u w : Text) : Prop :=
  s = u ++ inBrackets t ++ w ∧ sideMarker <:+: w

instance : Decidable (TagBefore t s u w) :=
  inferInstanceAs (Decidable (_ ∧ _))

theorem before_tag_append (h : ¬sideMarker <:+: u ++ inBrackets t) :
    Text.before sideMarker (u ++ inBrackets t ++ w) =
      u ++ inBrackets t ++ Text.before sideMarker w := by
  apply Text.before_append
  intro s' hne hs' hp
  have hlast : s'.getLast? = some ']' := by
    have ⟨x, hx⟩ := hs'
    have hall : (x ++ s').getLast? = some ']' := by
      rw [hx, inBrackets, List.getLast?_append_of_ne_nil u (List.cons_ne_nil _ _)]
      exact List.getLast?_concat (l := '[' :: t)
    rwa [List.getLast?_append_of_ne_nil _ hne] at hall
  cases s' with
  | nil => exact hne rfl
  | cons c s' =>
    cases s' with
    | nil =>
      obtain rfl : c = ']' := Option.some.inj hlast
      simp [sideMarker] at hp
    | cons d s' =>
      have hmark : sideMarker <+: c :: d :: s' := by simpa [sideMarker] using hp
      exact h (hmark.isInfix.trans hs'.isInfix)

def FoundBehind (t u : Text) : Prop :=
  ¬sideMarker <:+: u ++ inBrackets t ∧ ¬LeavesOpen '[' ']' u

theorem mem_tags_before_iff (hclose : ']' ∉ t) (hmarker : sideMarker <:+: s) :
    inBrackets t ∈ tags (Text.before sideMarker s) ↔ ∃ u w, TagBefore t s u w ∧
      FoundBehind t u := by
  refine (mem_fields_iff (by decide) hclose).trans ?_
  constructor
  case mp =>
    rintro ⟨u, w, hbefore, hu⟩
    have ⟨w', hs, hw'⟩ := Text.mark_prefix_of_before TermPattern.sideMarker_ne_nil hmarker
    rw [hbefore] at hs
    refine ⟨u, w ++ w', ⟨by simpa [inBrackets] using hs, ?_⟩, ?_, hu⟩
    case refine_1 => exact hw'.isInfix.trans (List.suffix_append w w').isInfix
    case refine_2 =>
      rintro ⟨x, y, hxy⟩
      have hsplit : s = x ++ sideMarker ++ (y ++ (w ++ w')) := by
        rw [hs, ← List.append_assoc, hxy]
        simp [inBrackets]
      have hlength := (Text.before_isPrefix hsplit TermPattern.sideMarker_ne_nil).length_le
      have hbefore' := congrArg List.length hbefore
      have hxy' := congrArg List.length hxy
      have hpos := List.length_pos_iff.mpr TermPattern.sideMarker_ne_nil
      simp only [inBrackets, List.length_append, List.length_cons] at hbefore' hxy'
      omega
  case mpr =>
    rintro ⟨u, w, ⟨rfl, -⟩, hmark, hu⟩
    exact ⟨u, Text.before sideMarker w, before_tag_append hmark, hu⟩

theorem exists_matchesBlob_iff (hopen : '[' ∉ t) (hclose : ']' ∉ t)
    (hplain : t.any isWildcard = false) (hmetadata : Term.looksAtMetadata t = false) :
    ∃ s, Term.ofText (inBrackets t ++ sideMarker) = .ok s ∧ ∀ blob, s.matchesBlob blob = true ↔
      ∃ u w, TagBefore t (Text.before Term.metadataSeparator blob) u w := by
  have ⟨s, hs, hpattern⟩ := Term.exists_ofText_question hopen hclose hplain
  have hsees : s.seesMetadata = false := by
    rw [Term.seesMetadata_of_ofText hs, ← hmetadata]
    simp [Term.looksAtMetadata, Term.metadataMarks, inBrackets, sideMarker]
  refine ⟨s, hs, fun blob => ?_⟩
  rw [Term.matchesBlob, Term.visible, hsees]
  exact hpattern _

theorem mem_questionTags_iff {item : Item} {first : Text} (hfirst : item.blobs.head? = some first)
    (hmarker : sideMarker <:+: Text.before Term.metadataSeparator first) (hclose : ']' ∉ t)
    (hlower : t.any Char.isLower = true) : inBrackets t ∈ questionTags item ↔
      ∃ u w, TagBefore t (Text.before Term.metadataSeparator first) u w ∧ FoundBehind t u := by
  have hbefore : Text.before sideMarker first =
      Text.before sideMarker (Text.before Term.metadataSeparator first) := by
    have ⟨w, hw, _⟩ := Text.exists_eq_before_append Term.metadataSeparator first
    calc Text.before sideMarker first
      _ = Text.before sideMarker (Text.before Term.metadataSeparator first ++ w) :=
          congrArg (Text.before sideMarker) hw
      _ = Text.before sideMarker (Text.before Term.metadataSeparator first) :=
          Text.before_append_of_infix hmarker
  have hlower' : (inBrackets t).any Char.isLower = true := by simp [inBrackets, hlower]
  rw [mem_questionTags, ← mem_tags_before_iff hclose hmarker, ← hbefore]
  simp [hfirst, hlower']

-- A question tag of the ranking is one that the query finds. The query also finds tags behind the
-- first marker, with a marker in them or within another tag.
theorem questionTag_iff_and_matchesBlob_iff {item : Item} {first seg : Text}
    (hfirst : item.blobs.head? = some first)
    (hseg : Text.before Term.metadataSeparator first = seg) (hmarker : sideMarker <:+: seg)
    (hopen : '[' ∉ t) (hclose : ']' ∉ t) (hplain : t.any isWildcard = false)
    (hmetadata : Term.looksAtMetadata t = false) (hlower : t.any Char.isLower = true) :
    ∃ s, Term.ofText (inBrackets t ++ sideMarker) = .ok s ∧
      (s.matchesBlob first = true ↔ ∃ u w, TagBefore t seg u w) ∧
      (inBrackets t ∈ (ofItem item : Facets α).tagsOf .questionTag ↔
        ∃ u w, TagBefore t seg u w ∧ FoundBehind t u) ∧
      (inBrackets t ∈ (ofItem item : Facets α).tagsOf .questionTag → s.matchesBlob first = true) ∧
      ((∀ u w, TagBefore t seg u w → FoundBehind t u) →
        (inBrackets t ∈ (ofItem item : Facets α).tagsOf .questionTag ↔
          s.matchesBlob first = true)) := by
  subst hseg
  have ⟨s, hs, hall⟩ := exists_matchesBlob_iff hopen hclose hplain hmetadata
  have hmatches := hall first
  have hquestion := mem_questionTags_iff hfirst hmarker hclose hlower
  have himp : inBrackets t ∈ questionTags item → s.matchesBlob first = true := by
    intro h
    have ⟨u, w, htag, _⟩ := hquestion.mp h
    exact hmatches.mpr ⟨u, w, htag⟩
  rw [tagsOf_question]
  refine ⟨s, hs, hmatches, hquestion, himp, fun hfound => ⟨himp, fun h => ?_⟩⟩
  have ⟨u, w, htag⟩ := hmatches.mp h
  exact hquestion.mpr ⟨u, w, htag, hfound u w htag⟩

theorem questionTag_iff_and_matchesBlob_iff_merit :
    ∃ s, Term.ofText "[merit]//".toList = .ok s ∧
      s.matchesBlob "[merit]//[death]|#story#".toList = true ∧
      "[merit]".toList ∈ (ofItem { blobs := ["[merit]//[death]|#story#".toList] } :
        Facets Rat).tagsOf .questionTag := by
  have hmarker : sideMarker <:+: "[merit]//[death]".toList :=
    ⟨"[merit]".toList, "[death]".toList, rfl⟩
  have ⟨s, hs, _, hquestion, himp, _⟩ :=
    @questionTag_iff_and_matchesBlob_iff Rat _ "merit".toList
      { blobs := ["[merit]//[death]|#story#".toList] } _ _ rfl rfl hmarker
      (by decide) (by decide) (by decide) (by decide) (by decide)
  have hbefore : TagBefore "merit".toList "[merit]//[death]".toList [] "//[death]".toList := by
    decide
  have hfound : FoundBehind "merit".toList [] := by
    refine ⟨by decide, ?_⟩
    rintro ⟨v, x, hopen, -⟩
    cases v <;> exact nomatch hopen
  have hmem := hquestion.mpr ⟨[], _, hbefore, hfound⟩
  exact ⟨s, hs, himp hmem, hmem⟩

-- Is this a tag of a blob that the query finds, but that is no question tag of the ranking?
def OnlyQueried (t blob : Text) : Prop :=
  ('[' ∉ t ∧ ']' ∉ t ∧ '|' ∉ t ∧ t.any isWildcard = false ∧ Term.looksAtMetadata t = false ∧
    t.any Char.isLower = true ∧ sideMarker <:+: Text.before Term.metadataSeparator blob) ∧
  inBrackets t ∈ tags (Text.before Term.metadataSeparator blob) ∧
  inBrackets t ∉ (ofItem { blobs := [blob] } : Facets Rat).tagsOf .questionTag ∧
  ∃ s, Term.ofText (inBrackets t ++ sideMarker) = .ok s ∧ s.matchesBlob blob = true

theorem onlyQueried_of {blob : Text}
    (ht : '[' ∉ t ∧ ']' ∉ t ∧ '|' ∉ t ∧ t.any isWildcard = false ∧
      Term.looksAtMetadata t = false ∧ t.any Char.isLower = true ∧
      sideMarker <:+: Text.before Term.metadataSeparator blob)
    (htag : TagBefore t (Text.before Term.metadataSeparator blob) u w)
    (hscan : inBrackets t ∈ tags (Text.before Term.metadataSeparator blob))
    (hbefore : inBrackets t ∉ tags (Text.before sideMarker blob)) : OnlyQueried t blob := by
  have ⟨hopen, hclose, _, hplain, hmetadata, _⟩ := ht
  have ⟨s, hs, hall⟩ := exists_matchesBlob_iff hopen hclose hplain hmetadata
  refine ⟨ht, hscan, fun hmem => ?_, s, hs, (hall blob).mpr ⟨u, w, htag⟩⟩
  rw [tagsOf_question, mem_questionTags] at hmem
  have ⟨⟨_, hfirst, hmem'⟩, _⟩ := hmem
  exact hbefore (Option.some.inj hfirst ▸ hmem')

-- A tag behind the first marker, one with a marker in it and one within another tag.
theorem onlyQueried_several : OnlyQueried "b".toList "[a]//[b]//".toList ∧
    OnlyQueried "a//b".toList "[a//b]//".toList ∧ OnlyQueried "a".toList "[x[a]//[a]".toList := by
  have hbehind : TagBefore "b".toList (Text.before Term.metadataSeparator "[a]//[b]//".toList)
      "[a]//".toList "//".toList := by decide +kernel
  have hmark : TagBefore "a//b".toList (Text.before Term.metadataSeparator "[a//b]//".toList)
      [] "//".toList := by decide +kernel
  have hwithin : TagBefore "a".toList (Text.before Term.metadataSeparator "[x[a]//[a]".toList)
      "[x".toList "//[a]".toList := by decide +kernel
  exact ⟨onlyQueried_of (by decide +kernel) hbehind (by decide_cbv) (by decide_cbv),
    onlyQueried_of (by decide +kernel) hmark (by decide_cbv) (by decide_cbv),
    onlyQueried_of (by decide +kernel) hwithin (by decide_cbv) (by decide_cbv)⟩

end Facets
end ExcerptSearch
