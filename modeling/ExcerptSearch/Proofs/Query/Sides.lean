import ExcerptSearch.Proofs.Query.Errors
import ExcerptSearch.Proofs.Regex.Successive
import ExcerptSearch.Proofs.Text

namespace ExcerptSearch

open Regex Query

-- The parts of a text from one opening bracket to the next closing one.
structure Bracketed (h : Text) (i j : Nat) : Prop where
  lt      : i + 1 < j
  opening : h[i]? = some '['
  closing : h[j - 1]? = some ']'
  inside  : ∀ k, i < k → k + 1 < j → h[k]? ≠ some '[' ∧ h[k]? ≠ some ']'

namespace Bracketed

variable {h : Text} {i j k l : Nat}

theorem not_inside (p : Bracketed h i j) (q : Bracketed h k l) (hik : i < k) : j ≤ k := by
  by_contra hkj
  obtain hkj | rfl : k + 1 < j ∨ j = k + 1 := by omega
  · exact (p.inside k hik hkj).1 q.opening
  · have hclosing := p.closing
    rw [Nat.add_sub_cancel, q.opening] at hclosing
    exact absurd hclosing (by decide)

theorem stop_le (p : Bracketed h i j) (q : Bracketed h i l) : j ≤ l := by
  by_contra hlj
  have := q.lt
  exact (p.inside (l - 1) (by omega) (by omega)).2 q.closing

theorem apart (p : Bracketed h i j) (q : Bracketed h k l) : i = k ∧ j = l ∨ j ≤ k ∨ l ≤ i := by
  obtain hik | rfl | hki := Nat.lt_trichotomy i k
  · exact .inr (.inl (p.not_inside q hik))
  · exact .inl ⟨rfl, Nat.le_antisymm (p.stop_le q) (q.stop_le p)⟩
  · exact .inr (.inr (q.not_inside p hki))

end Bracketed

def inBrackets (t : Text) : Text :=
  '[' :: (t ++ [']'])

theorem bracketed_append {u s w : Text} (hopen : '[' ∉ s) (hclose : ']' ∉ s) :
    Bracketed (u ++ inBrackets s ++ w) u.length (u ++ inBrackets s).length where
  lt := by simp [inBrackets]
  opening := by simp [inBrackets]
  closing := by simp [inBrackets]
  inside := by
    intro k hk hk'
    -- Such a place is one of `s`.
    obtain ⟨k, rfl⟩ : ∃ n, k = u.length + (n + 1) := ⟨k - u.length - 1, by omega⟩
    have hks : k < s.length := by
      simp [inBrackets] at hk'
      omega
    have hget : (u ++ inBrackets s ++ w)[u.length + (k + 1)]? = some s[k] := by
      rw [List.append_assoc, List.getElem?_append_right (Nat.le_add_right _ _),
        Nat.add_sub_cancel_left]
      simp [inBrackets, List.getElem?_append_left hks]
    have hmem := List.getElem_mem hks
    rw [hget]
    constructor
    · exact fun h => hopen (Option.some.inj h ▸ hmem)
    · exact fun h => hclose (Option.some.inj h ▸ hmem)

namespace Query

variable {t u v w : Text}

theorem mem_of_readsAs {d : Char} (h : ReadsAs u t v w) (hd : d ∈ v) :
    d ∈ t ∨ d ∉ fieldDelimiters := by
  induction h with
  | nil => exact nomatch hd
  | self _ _ ih =>
    cases hd with
    | head => exact .inl (.head _)
    | tail _ hd => exact (ih hd).imp_left (.tail _)
  | one hd' _ ih =>
    cases hd with
    | head => exact .inr hd'
    | tail _ hd => exact (ih hd).imp_left (.tail _)
  | run hs _ ih =>
    cases List.mem_append.mp hd with
    | inl hd => exact .inr (hs d hd)
    | inr hd => exact (ih hd).imp_left (.tail _)
  | border _ _ ih => exact (ih hd).imp_left (.tail _)

theorem bounded_of_ends (hfirst : ∀ c ∈ t.head?, isEdge c = false)
    (hlast : ∀ c ∈ t.getLast?, isEdge c = false) : bounded t = t := by
  have hlead : leadingEdge t = [] := takeWhile_of_stop hfirst
  have htrail : trailingEdge t = [] :=
    congrArg List.reverse (takeWhile_of_stop (by rwa [List.head?_reverse]))
  have hcore : core t = t := by rw [core, dropWhile_of_stop hfirst, dropEndWhile_of_stop hlast]
  simp [bounded, hlead, htrail, hcore, edgeMark]

theorem bounded_inBrackets (t : Text) : bounded (inBrackets t) = inBrackets t := by
  apply bounded_of_ends
  · exact fun c hc => Option.some.inj hc ▸ rfl
  · rw [inBrackets, ← List.cons_append, List.getLast?_concat]
    exact fun c hc => Option.some.inj hc ▸ rfl

theorem bracketed_of_readsAs (hopen : '[' ∉ t) (hclose : ']' ∉ t)
    (h : ReadsAs u (inBrackets t) v w) :
    Bracketed (u ++ v ++ w) u.length (u ++ v).length := by
  obtain ⟨_, rfl, hrest⟩ := (readsAs_plain rfl).mp h
  obtain ⟨s, _, rfl, hs, hlast⟩ := readsAs_append.mp hrest
  obtain ⟨_, rfl, hnil⟩ := (readsAs_plain rfl).mp hlast
  obtain rfl := readsAs_nil.mp hnil
  have hmem : ∀ d ∈ fieldDelimiters, d ∉ t → d ∉ s := fun d hd ht hds =>
    (mem_of_readsAs hs hds).elim ht (absurd hd)
  exact bracketed_append (hmem _ (by decide) hopen) (hmem _ (by decide) hclose)

theorem exists_compiled_inBrackets (hopen : '[' ∉ t) (hclose : ']' ∉ t) :
    ∃ p, Compiled.ofSource? (expandWildcards (inBrackets t)) = some p ∧
      ∀ h : Text, Separate p.regex h.toArray := by
  have ⟨r, hr, hcovers⟩ := exists_parse?_expandWildcards (inBrackets t)
  obtain ⟨p, hp, rfl⟩ := Compiled.exists_ofSource? hr
  have hbracketed : ∀ {h : Text} {i j}, p.regex.Occurs h.toArray i j → Bracketed h i j := by
    intro h i j ho
    obtain ⟨u, v, w, rfl, rfl, rfl, hv⟩ := ho.exists_covers
    rw [hcovers, bounded_inBrackets] at hv
    exact bracketed_of_readsAs hopen hclose hv
  refine ⟨p, hp, fun h => ⟨fun ho => ?pos, fun ho ho' => ?apart⟩⟩
  case pos => exact Nat.lt_of_succ_lt (hbracketed ho).lt
  case apart => exact (hbracketed ho).apart (hbracketed ho')

end Query

namespace Term

variable {t : Text}

theorem quoteNumber_of_mem {c : Char} (hc : c ∈ t) (hdigit : c.isDigit = false) :
    quoteNumber t = t := by
  have hall : t.all Char.isDigit = false :=
    List.all_eq_false.mpr ⟨c, hc, by simp [hdigit]⟩
  simp [quoteNumber, hall]

theorem dropLooseDollar_of_head (h : t.head? ≠ some '$') : dropLooseDollar t = t := by
  unfold dropLooseDollar
  split
  case h_1 => exact absurd rfl h
  case h_2 => rfl

theorem quotesToBoundaries_of_ends (hfirst : ∀ c ∈ t.head?, c ≠ '"' ∧ c ≠ '$')
    (hlast : ∀ c ∈ t.getLast?, c ≠ '"' ∧ c ≠ '$') : quotesToBoundaries t = t := by
  have hstart : t.dropWhile (· == '"') = t :=
    dropWhile_of_stop fun c hc => beq_false_of_ne (hfirst c hc).1
  have hend : Text.dropEndWhile (· == '"') t = t :=
    dropEndWhile_of_stop fun c hc => beq_false_of_ne (hlast c hc).1
  have hquoted : dollarQuoted t = t := by
    have hhead : t.head? ≠ some '"' := fun h => (hfirst _ h).1 rfl
    have hgetLast : t.getLast? ≠ some '"' := fun h => (hlast _ h).1 rfl
    simp [dollarQuoted, hstart, hend, hhead, hgetLast]
  have hreverse : t.reverse.head? ≠ some '$' := by
    rw [List.head?_reverse]
    exact fun h => (hlast _ h).2 rfl
  rw [quotesToBoundaries, hquoted, dropLooseDollar_of_head fun h => (hfirst _ h).2 rfl,
    dropLooseDollar_of_head hreverse, List.reverse_reverse]

theorem quotesToBoundaries_inBrackets (t : Text) :
    quotesToBoundaries (inBrackets t) = inBrackets t := by
  apply quotesToBoundaries_of_ends
  · exact fun c hc => Option.some.inj hc ▸ by decide
  · rw [inBrackets, ← List.cons_append, List.getLast?_concat]
    exact fun c hc => Option.some.inj hc ▸ by decide

theorem questionSide_unmarked (u : Text) :
    questionSide (u ++ inBrackets t) = (u ++ inBrackets t, .any) := by
  simp [questionSide, inBrackets, List.isSuffixOf]

theorem questionSide_marked (u : Text) :
    questionSide (u ++ inBrackets t ++ sideMarker) = (u ++ inBrackets t, .question) := by
  simp [questionSide, inBrackets, sideMarker, isSlash, Text.dropEndWhile, List.isSuffixOf]

theorem answerSide_unmarked : answerSide (inBrackets t) = (inBrackets t, .any) := by
  simp [answerSide, inBrackets]

theorem answerSide_marked : answerSide (sideMarker ++ inBrackets t) = (inBrackets t, .answer) := by
  simp [answerSide, inBrackets, sideMarker, isSlash]

theorem exists_ofText_of_element {text : Text} {scope : TagScope} {p : Compiled}
    (hp : Compiled.ofSource? (expandWildcards (inBrackets t)) = some p)
    (hraw : text.head? ≠ some '`') (hmem : '[' ∈ text)
    (he : element text = (inBrackets t, scope)) :
    ∃ s, ofText text = .ok s ∧ s.pattern = ⟨p, scope⟩ := by
  have ⟨q, hq, hs⟩ := exists_ofText_plain hraw
  have hpattern : some ⟨p, scope⟩ = some q := by
    simpa [plainSource, quoteNumber_of_mem hmem, he, quotesToBoundaries_inBrackets,
      TermPattern.ofSource?, hp] using hq
  exact ⟨_, hs, (Option.some.inj hpattern).symm⟩

end Term

namespace TermPattern

variable {p : Compiled} {h : Text}

-- Does a match stop before the last marker?
def OnQuestionSide (p : Compiled) (h : Text) : Prop :=
  ∃ i, Text.LastAt sideMarker h i ∧ ∃ a b, p.regex.Occurs h.toArray a b ∧ b ≤ i

-- Is there a match and, if there is a marker, one that stops behind the start of the last?
def OnAnswerSide (p : Compiled) (h : Text) : Prop :=
  (∃ a b, p.regex.Occurs h.toArray a b) ∧
    (sideMarker <:+: h →
      ∃ i, Text.LastAt sideMarker h i ∧ ∃ a b, p.regex.Occurs h.toArray a b ∧ i < b)

theorem sideMarker_ne_nil : sideMarker ≠ [] :=
  List.cons_ne_nil _ _

theorem isMatch_any : isMatch ⟨p, .any⟩ h = p.isMatch h := by
  unfold isMatch
  cases Text.lastIndexOf? sideMarker h <;> rfl

theorem isMatch_iff_covers {p : TermPattern} (hscope : p.scope = .any) :
    p.isMatch h = true ↔ ∃ u v w, h = u ++ v ++ w ∧ p.pattern.regex.Covers u v w := by
  obtain ⟨c, scope⟩ := p
  obtain rfl : scope = .any := hscope
  rw [isMatch_any, Compiled.isMatch_iff_covers]

def Finds (p : TermPattern) (t : Text) : Prop :=
  ∀ h, p.isMatch h = true ↔ ∃ u v w, h = u ++ v ++ w ∧ ReadsAs u t v w

theorem finds_of_source {p : TermPattern} {t : Text} (hscope : p.scope = .any)
    (hsource : p.source = t.flatMap charPattern) : p.Finds t := by
  obtain ⟨r, hr, hcovers⟩ := exists_parse?_flatMap_charPattern t
  have hregex : p.pattern.regex = r :=
    Compiled.regex_eq_of_parse? (hsource.symm ▸ hr : parse? p.source = some r)
  intro h
  simp only [isMatch_iff_covers hscope, hregex, hcovers]

theorem isMatch_never : isMatch ⟨p, .never⟩ h = false := by
  unfold isMatch
  cases Text.lastIndexOf? sideMarker h <;> rfl

theorem isMatch_question_iff (hs : Separate p.regex h.toArray) :
    isMatch ⟨p, .question⟩ h = true ↔ OnQuestionSide p h := by
  simp only [OnQuestionSide, ← Text.lastIndexOf?_eq_some sideMarker_ne_nil]
  unfold isMatch
  cases Text.lastIndexOf? sideMarker h with
  | none => simp
  | some i => simp [Compiled.any_findAll_iff hs]

theorem isMatch_answer_iff (hs : Separate p.regex h.toArray) :
    isMatch ⟨p, .answer⟩ h = true ↔ OnAnswerSide p h := by
  unfold OnAnswerSide
  cases hi : Text.lastIndexOf? sideMarker h with
  | none =>
    have hnone := Text.lastIndexOf?_eq_none sideMarker_ne_nil hi
    simp [isMatch, hi, hnone, Compiled.isMatch_iff_occurs]
  | some i =>
    have hlast := (Text.lastIndexOf?_eq_some sideMarker_ne_nil).mp hi
    have hmatch : isMatch ⟨p, .answer⟩ h = true ↔
        ∃ a b, p.regex.Occurs h.toArray a b ∧ i < b := by
      simp [isMatch, hi, Compiled.any_findAll_iff hs]
    rw [hmatch]
    constructor
    case mp =>
      intro ⟨a, b, ho, hib⟩
      exact ⟨⟨a, b, ho⟩, fun _ => ⟨i, hlast, a, b, ho, hib⟩⟩
    case mpr =>
      intro ⟨_, hmarked⟩
      have ⟨j, hj, a, b, ho, hjb⟩ := hmarked hlast.isInfix
      obtain rfl := hj.unique hlast
      exact ⟨a, b, ho, hjb⟩

theorem isMatch_any_iff : isMatch ⟨p, .any⟩ h = true ↔ OnQuestionSide p h ∨ OnAnswerSide p h := by
  rw [isMatch_any, Compiled.isMatch_iff_occurs]
  constructor
  case mp =>
    intro ⟨a, b, ho⟩
    by_cases hmark : ∃ i, Text.LastAt sideMarker h i ∧ b ≤ i
    case pos =>
      have ⟨i, hi, hbi⟩ := hmark
      exact .inl ⟨i, hi, a, b, ho, hbi⟩
    case neg =>
      refine .inr ⟨⟨a, b, ho⟩, fun hinfix => ?_⟩
      have ⟨i, hi⟩ := Text.exists_lastAt sideMarker_ne_nil hinfix
      exact ⟨i, hi, a, b, ho, Nat.lt_of_not_le fun hbi => hmark ⟨i, hi, hbi⟩⟩
  case mpr =>
    intro hsides
    cases hsides with
    | inl hquestion =>
      have ⟨_, _, a, b, ho, _⟩ := hquestion
      exact ⟨a, b, ho⟩
    | inr hanswer => exact hanswer.1

end TermPattern

namespace Term

-- A tag in brackets is looked for on the side of the last marker that the slashes next to it tell.
-- Every match of the tag counts, not only the successive ones. Slashes at both ends ask for what is
-- nowhere.
theorem ofText_sides (t : Text) (hopen : '[' ∉ t) (hclose : ']' ∉ t) :
    ∃ tag question answer both : Term,
      ofText (inBrackets t) = .ok tag ∧
      ofText (inBrackets t ++ sideMarker) = .ok question ∧
      ofText (sideMarker ++ inBrackets t) = .ok answer ∧
      ofText (sideMarker ++ inBrackets t ++ sideMarker) = .ok both ∧
      ∀ h : Text,
        (question.pattern.isMatch h = true ↔ TermPattern.OnQuestionSide tag.pattern.pattern h) ∧
        (answer.pattern.isMatch h = true ↔ TermPattern.OnAnswerSide tag.pattern.pattern h) ∧
        (tag.pattern.isMatch h = true ↔
          question.pattern.isMatch h = true ∨ answer.pattern.isMatch h = true) ∧
        both.pattern.isMatch h = false := by
  have ⟨p, hp, hseparate⟩ := exists_compiled_inBrackets hopen hclose
  have ⟨tag, htag, hany⟩ : ∃ s, ofText (inBrackets t) = .ok s ∧ s.pattern = ⟨p, .any⟩ := by
    apply exists_ofText_of_element hp (by simp [inBrackets]) (by simp [inBrackets])
    have hside := questionSide_unmarked (t := t) []
    rw [List.nil_append] at hside
    simp only [element, hside, answerSide_unmarked, TagScope.restrict]
  have ⟨question, hquestion, hbefore⟩ : ∃ s, ofText (inBrackets t ++ sideMarker) = .ok s ∧
      s.pattern = ⟨p, .question⟩ := by
    apply exists_ofText_of_element hp (by simp [inBrackets]) (by simp [inBrackets])
    have hside := questionSide_marked (t := t) []
    rw [List.nil_append] at hside
    simp only [element, hside, answerSide_unmarked, TagScope.restrict]
  have ⟨answer, hanswer, hbehind⟩ : ∃ s, ofText (sideMarker ++ inBrackets t) = .ok s ∧
      s.pattern = ⟨p, .answer⟩ := by
    apply exists_ofText_of_element hp (by simp [sideMarker]) (by simp [inBrackets])
    simp only [element, questionSide_unmarked, answerSide_marked, TagScope.restrict]
  have ⟨both, hboth, hnever⟩ : ∃ s, ofText (sideMarker ++ inBrackets t ++ sideMarker) = .ok s ∧
      s.pattern = ⟨p, .never⟩ := by
    apply exists_ofText_of_element hp (by simp [sideMarker]) (by simp [inBrackets])
    simp only [element, questionSide_marked, answerSide_marked]
    rfl
  refine ⟨tag, question, answer, both, htag, hquestion, hanswer, hboth, fun h => ?_⟩
  simp only [hany, hbefore, hbehind, hnever, TermPattern.isMatch_any_iff,
    TermPattern.isMatch_question_iff (hseparate h), TermPattern.isMatch_answer_iff (hseparate h),
    TermPattern.isMatch_never, and_self]

theorem ofText_sides_star : '[' ∉ ['a', '*'] ∧ ']' ∉ ['a', '*'] ∧ ∃ tag : Term,
    ofText ['[', 'a', '*', ']'] = .ok tag ∧
    TermPattern.OnQuestionSide tag.pattern.pattern ['[', 'a', 'b', ']', '/', '/', 'a'] ∧
    ¬TermPattern.OnAnswerSide tag.pattern.pattern ['[', 'a', 'b', ']', '/', '/', 'a'] := by
  have ⟨tag, question, answer, _, htag, hquestion, hanswer, _, hsides⟩ :=
    ofText_sides ['a', '*'] (by decide) (by decide)
  have hbefore : (ofText (inBrackets ['a', '*'] ++ sideMarker)).toOption.any
      (·.pattern.isMatch ['[', 'a', 'b', ']', '/', '/', 'a']) = true := by decide +kernel
  have hbehind : (ofText (sideMarker ++ inBrackets ['a', '*'])).toOption.any
      (·.pattern.isMatch ['[', 'a', 'b', ']', '/', '/', 'a']) = false := by decide +kernel
  rw [hquestion] at hbefore
  rw [hanswer] at hbehind
  refine ⟨by decide, by decide, tag, htag, (hsides _).1.mp hbefore, fun hside => ?_⟩
  exact absurd ((hsides _).2.1.mpr hside) (Bool.eq_false_iff.mp hbehind)

end Term
end ExcerptSearch
