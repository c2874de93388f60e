import ExcerptSearch.Proofs.Text
import ExcerptSearch.Query.Highlighter

namespace ExcerptSearch.Highlighter

variable {html s t rest : Text} {c d : Char} {rs : List Run}

def markupSigns : Text :=
  ['<', '>', '&']

theorem mem_markupSigns : c ∈ markupSigns ↔ c = '<' ∨ c = '>' ∨ c = '&' := by
  simp [markupSigns]

-- Is this a bold tag, a text up to the first tag behind it, which closes it, and this tag?
def IsBoldRun (s : Text) : Prop :=
  ∃ body, '>' ∉ body ∧ s = openBold ++ body ++ closeBold

inductive Markup : Text → Text → Prop
  | boldRun {s rest : Text} : IsBoldRun s → Markup s rest
  -- A tag, unless a bold run begins here.
  | tag {body rest : Text} : '>' ∉ body →
    (∀ s, IsBoldRun s → ¬s <+: '<' :: (body ++ '>' :: rest)) → Markup ('<' :: (body ++ ['>'])) rest
  | entity {body rest : Text} : ';' ∉ body → Markup ('&' :: (body ++ [';'])) rest
  -- A sign that begins neither a tag nor an entity.
  | loose {c : Char} {rest : Text} : c ∈ markupSigns → (c = '<' → '>' ∉ rest) →
    (c = '&' → ';' ∉ rest) → Markup [c] rest

theorem boldRun?_append : boldRun? (openBold ++ t) = (Text.through? '>' t).bind fun p =>
    if closeBold.isSuffixOf p.1 then some (openBold ++ p.1, p.2) else none := by
  have hopen : openBold.isPrefixOf (openBold ++ t) = true := by simp
  rw [boldRun?, if_pos hopen, List.drop_left]
  rfl

theorem append_closeBold (s : Text) : s ++ closeBold = s ++ ['<', '/', 'b'] ++ ['>'] := by
  simp [closeBold]

theorem boldRun?_eq_some_iff : boldRun? t = some (s, rest) ↔ t = s ++ rest ∧ IsBoldRun s := by
  constructor
  case mp =>
    intro h
    by_cases hopen : openBold <+: t
    case neg =>
      rw [boldRun?, if_neg (mt List.isPrefixOf_iff_prefix.mp hopen)] at h
      exact nomatch h
    case pos =>
      obtain ⟨t, rfl⟩ := hopen
      rw [boldRun?_append] at h
      have ⟨⟨run, rest'⟩, hrun, hif⟩ := Option.bind_eq_some_iff.mp h
      obtain ⟨inner, hinner, rfl, rfl⟩ := Text.eq_append_of_through? hrun
      obtain ⟨hclose, hs⟩ := Option.ite_none_right_eq_some.mp hif
      obtain ⟨rfl, rfl⟩ := Prod.mk.inj (Option.some.inj hs)
      have ⟨body, hsuffix⟩ := List.isSuffixOf_iff_suffix.mp hclose
      rw [append_closeBold] at hsuffix
      have hbody := List.append_cancel_right hsuffix
      refine ⟨by simp, body, ?_, ?_⟩
      · exact fun hm => hinner (hbody ▸ List.mem_append_left _ hm)
      · rw [List.append_assoc, append_closeBold, hbody]
  case mpr =>
    rintro ⟨rfl, body, hbody, rfl⟩
    have hinner : '>' ∉ body ++ ['<', '/', 'b'] := by simpa using hbody
    have ht : openBold ++ body ++ closeBold ++ rest =
        openBold ++ (body ++ ['<', '/', 'b'] ++ '>' :: rest) := by simp [closeBold]
    have hclose : closeBold.isSuffixOf (body ++ ['<', '/', 'b'] ++ ['>']) = true := by
      rw [← append_closeBold]
      exact List.isSuffixOf_iff_suffix.mpr (List.suffix_append _ _)
    rw [ht, boldRun?_append, Text.through?_append hinner, Option.bind_some, if_pos hclose,
      ← append_closeBold, List.append_assoc]

theorem markup?_angle : markup? ('<' :: t) =
    (boldRun? ('<' :: t)).or ((Text.through? '>' ('<' :: t)).or (some (['<'], t))) :=
  rfl

theorem markup?_ampersand : markup? ('&' :: t) =
    (Text.through? ';' ('&' :: t)).or (some (['&'], t)) :=
  rfl

theorem markup?_eq_none_iff : markup? (c :: t) = none ↔ c ∉ markupSigns := by
  constructor
  case mp =>
    intro hnone hc
    obtain rfl | rfl | rfl := mem_markupSigns.mp hc
    · simp [markup?_angle] at hnone
    · exact nomatch hnone
    · simp [markup?_ampersand] at hnone
  case mpr =>
    intro hc
    simp only [mem_markupSigns, not_or] at hc
    simp [markup?, hc]

theorem markup_of_markup? (h : markup? t = some (s, rest)) : t = s ++ rest ∧ Markup s rest := by
  cases t with
  | nil => exact nomatch h
  | cons c t =>
    have hc : c ∈ markupSigns := by
      by_contra hc
      exact nomatch (markup?_eq_none_iff.mpr hc).symm.trans h
    obtain rfl | rfl | rfl := mem_markupSigns.mp hc
    · rw [markup?_angle] at h
      obtain hbold | ⟨hnone, h⟩ := Option.or_eq_some_iff.mp h
      · have ⟨ht, hs⟩ := boldRun?_eq_some_iff.mp hbold
        exact ⟨ht, .boldRun hs⟩
      · obtain htag | ⟨hunclosed, h⟩ := Option.or_eq_some_iff.mp h
        · obtain ⟨body, hbody, rfl, rfl⟩ := Text.eq_append_of_through?_cons (by decide) htag
          refine ⟨by simp, .tag hbody ?_⟩
          rintro s hs ⟨rest', ht⟩
          have hsome := boldRun?_eq_some_iff.mpr ⟨ht.symm, hs⟩
          exact nomatch hnone.symm.trans hsome
        · obtain ⟨rfl, rfl⟩ := Prod.mk.inj (Option.some.inj h)
          have hstop := Text.through?_eq_none_iff.mp hunclosed
          exact ⟨rfl, .loose hc (fun _ hm => hstop (.tail _ hm)) (by simp)⟩
    · obtain ⟨rfl, rfl⟩ := Prod.mk.inj (Option.some.inj h)
      exact ⟨rfl, .loose hc (by simp) (by simp)⟩
    · rw [markup?_ampersand] at h
      obtain hentity | ⟨hunclosed, h⟩ := Option.or_eq_some_iff.mp h
      · obtain ⟨body, hbody, rfl, rfl⟩ := Text.eq_append_of_through?_cons (by decide) hentity
        exact ⟨by simp, .entity hbody⟩
      · obtain ⟨rfl, rfl⟩ := Prod.mk.inj (Option.some.inj h)
        have hstop := Text.through?_eq_none_iff.mp hunclosed
        exact ⟨rfl, .loose hc (by simp) (fun _ hm => hstop (.tail _ hm))⟩

theorem boldRun?_eq_none (h : ∀ s, IsBoldRun s → ¬s <+: t) : boldRun? t = none := by
  apply Option.eq_none_iff_forall_ne_some.mpr
  intro ⟨s, rest⟩ hsome
  obtain ⟨rfl, hs⟩ := boldRun?_eq_some_iff.mp hsome
  exact h s hs (List.prefix_append s rest)

theorem markup?_of_markup (h : Markup s rest) : markup? (s ++ rest) = some (s, rest) := by
  cases h with
  | boldRun hs =>
    have hbold : boldRun? (s ++ rest) = some (s, rest) := boldRun?_eq_some_iff.mpr ⟨rfl, hs⟩
    obtain ⟨body, _, rfl⟩ := hs
    exact congrArg (Option.or · _) hbold
  | @tag body rest hbody hno =>
    have hnone := boldRun?_eq_none hno
    have htag : Text.through? '>' ('<' :: (body ++ '>' :: rest)) =
        some ('<' :: (body ++ ['>']), rest) :=
      Text.through?_append (s := '<' :: body) (by simpa using hbody)
    simp [markup?_angle, hnone, htag]
  | @entity body rest hbody =>
    have hentity : Text.through? ';' ('&' :: (body ++ ';' :: rest)) =
        some ('&' :: (body ++ [';']), rest) :=
      Text.through?_append (s := '&' :: body) (by simpa using hbody)
    simp [markup?_ampersand, hentity]
  | @loose c rest hc hopen hamp =>
    obtain rfl | rfl | rfl := mem_markupSigns.mp hc
    · have htag : Text.through? '>' ('<' :: rest) = none :=
        Text.through?_eq_none_iff.mpr (by simpa using hopen)
      have hnone : boldRun? ('<' :: rest) = none := by
        apply boldRun?_eq_none
        rintro _ ⟨body, _, rfl⟩ hp
        exact Text.through?_eq_none_iff.mp htag (hp.subset (by simp [closeBold]))
      simp [markup?_angle, hnone, htag]
    · rfl
    · have hentity : Text.through? ';' ('&' :: rest) = none :=
        Text.through?_eq_none_iff.mpr (by simpa using hamp)
      simp [markup?_ampersand, hentity]

theorem markup?_eq_some_iff : markup? t = some (s, rest) ↔ t = s ++ rest ∧ Markup s rest := by
  constructor
  case mp => exact markup_of_markup?
  case mpr =>
    rintro ⟨rfl, hs⟩
    exact markup?_of_markup hs

namespace Run

def text : Run → Text
  | plain t | markup t => t

end Run

theorem Markup.exists_cons {rest : Text} (h : Markup s rest) :
    ∃ c t, s = c :: t ∧ c ∈ markupSigns := by
  cases h with
  | boldRun hs =>
    obtain ⟨body, -, rfl⟩ := hs
    exact ⟨'<', _, rfl, by decide⟩
  | tag => exact ⟨'<', _, rfl, by decide⟩
  | entity => exact ⟨'&', _, rfl, by decide⟩
  | loose hc => exact ⟨_, [], rfl, hc⟩

-- `Cut html rs` says that the text is cut into these runs. From left to right, markup is taken out
-- where it begins, and the stretches between pieces of markup are the plain runs.
inductive Cut : Text → List Run → Prop
  | nil : Cut [] []
  | plain {t rest : Text} {rs : List Run} : t ≠ [] → (∀ c ∈ t, c ∉ markupSigns) →
    (∀ c ∈ rest.head?, c ∈ markupSigns) → Cut rest rs → Cut (t ++ rest) (.plain t :: rs)
  | markup {s rest : Text} {rs : List Run} : Markup s rest → Cut rest rs →
    Cut (s ++ rest) (.markup s :: rs)

namespace Cut

theorem consPlain (hc : c ∉ markupSigns) (h : Cut t rs) : Cut (c :: t) (consPlain c rs) := by
  have hsingle : ∀ d ∈ [c], d ∉ markupSigns := by simpa using hc
  cases h with
  | nil => exact .plain (List.cons_ne_nil c []) hsingle (fun _ hd => nomatch hd) .nil
  | plain _ hplain hrest h =>
    exact .plain (List.cons_ne_nil c _) (List.forall_mem_cons.mpr ⟨hc, hplain⟩) hrest h
  | markup hs h =>
    have ⟨d, t, hd, hsign⟩ := hs.exists_cons
    refine .plain (List.cons_ne_nil c []) hsingle ?_ (.markup hs h)
    rw [hd]
    exact fun e he => Option.some.inj he ▸ hsign

theorem flatMap_text (h : Cut html rs) : rs.flatMap Run.text = html := by
  induction h with
  | nil => rfl
  | plain _ _ _ _ ih | markup _ _ ih => rw [List.flatMap_cons, ih]; rfl

theorem not_mem_markupSigns (h : Cut html rs) (ht : .plain t ∈ rs) (hd : d ∈ t) :
    d ∉ markupSigns := by
  induction h with
  | nil => exact nomatch ht
  | plain _ hplain _ _ ih =>
    cases ht with
    | head => exact hplain d hd
    | tail _ ht => exact ih ht
  | markup _ _ ih =>
    cases ht with
    | tail _ ht => exact ih ht

end Cut

theorem cut_runs (html : Text) : Cut html (runs html) := by
  fun_induction runs html with
  | case1 => exact .nil
  | case2 c cs s rest hm ih =>
    have ⟨hs, hmarkup⟩ := markup?_eq_some_iff.mp hm
    exact hs ▸ .markup hmarkup ih
  | case3 c cs hnone ih => exact ih.consPlain (markup?_eq_none_iff.mp hnone)

theorem bold_of_map {ps : List Text} {m : Highlighter} (hm : ofPatterns? ps = some m)
    (h : (ofPatterns? ps).map (·.bold html) = some t) : m.bold html = t := by
  rw [hm] at h
  exact Option.some.inj h

theorem replace_tag (hs : '<' ∉ s) (h : ¬closeBold ++ openBold <+: '<' :: (s ++ t)) :
    Text.replace (closeBold ++ openBold) [] ('<' :: (s ++ t)) =
      '<' :: (s ++ Text.replace (closeBold ++ openBold) [] t) := by
  rw [Text.replace_cons h]
  exact congrArg ('<' :: ·) (Text.replace_append_of_not_mem hs)

end ExcerptSearch.Highlighter
