import ExcerptSearch.Proofs.Query.Words
import ExcerptSearch.Proofs.Search.Spaces
import ExcerptSearch.Proofs.Search.WholeWords

namespace ExcerptSearch

open Query Regex Regex.Parser Unicode

section Signs

variable {t h u v w : Text} {opener closer : Char} {p : TermPattern}

theorem readsAs_between (hopener : isWildcard opener = false)
    (hcloser : isWildcard closer = false) : ReadsAs u (opener :: (t ++ [closer])) v w ↔
      ∃ v', v = opener :: (v' ++ [closer]) ∧ ReadsAs (u ++ [opener]) t v' (closer :: w) := by
  have hplain : ∀ c ∈ [closer], isWildcard c = false := by simpa using hcloser
  simp only [readsAs_plain hopener, readsAs_append, readsAs_of_plain hplain]
  constructor
  case mp =>
    rintro ⟨_, rfl, v', _, rfl, hread, rfl⟩
    exact ⟨v', rfl, hread⟩
  case mpr =>
    rintro ⟨v', rfl, hread⟩
    exact ⟨_, rfl, v', _, rfl, hread, rfl⟩

theorem isMatch_between (hp : p.Finds (opener :: (Term.bordered t ++ [closer])))
    (hopener : isWildcard opener = false ∧ isWord opener = false)
    (hcloser : isWildcard closer = false ∧ isWord closer = false) (hquote : '"' ∉ t)
    (ht : ∀ c ∈ t, isWildcard c = false) (hstart : t.head?.any Term.isWordChar = true)
    (hstop : t.getLast?.any Term.isWordChar = true) :
    p.isMatch h = true ↔ opener :: (t ++ [closer]) <:+: h := by
  have hstart' := Term.any_isWord_of_any_isWordChar hstart
  have hstop' := Term.any_isWord_of_any_isWordChar hstop
  have hborders : ∀ u w, WordBorder (u ++ [opener]) (t ++ closer :: w) ∧
      WordBorder (u ++ [opener] ++ t) (closer :: w) := fun u w => by
    rw [wordBorder_start_iff hstart', wordBorder_stop_iff hstop', List.getLast?_concat,
      List.head?_cons, Option.any_some, Option.any_some]
    exact ⟨hopener.2, hcloser.2⟩
  simp only [hp h, readsAs_between hopener.1 hcloser.1,
    Term.readsAs_bordered (ne_nil_of_any_head? hstart') hquote ht]
  constructor
  case mp =>
    rintro ⟨u, _, w, rfl, _, rfl, rfl, -⟩
    exact ⟨u, w, rfl⟩
  case mpr =>
    rintro ⟨u, w, rfl⟩
    exact ⟨u, _, w, rfl, t, rfl, rfl, fun _ => (hborders u w).1, fun _ => (hborders u w).2⟩

theorem any_getLast?_cons (hc : isWord opener = false) :
    (opener :: u).getLast?.any isWord = u.getLast?.any isWord := by
  cases u with
  | nil => rw [List.getLast?_singleton, Option.any_some, hc, List.getLast?_nil, Option.any_none]
  | cons d u => rw [List.getLast?_cons_cons]

theorem any_head?_concat (hc : isWord closer = false) :
    (w ++ [closer]).head?.any isWord = w.head?.any isWord := by
  cases w with
  | nil => rw [List.nil_append, List.head?_singleton, Option.any_some, hc, List.head?_nil,
      Option.any_none]
  | cons d w => rfl

theorem standsAlone_between (hopener : isWord opener = false) (hcloser : isWord closer = false)
    (hstart : t.head?.any isWord = true) (hstop : t.getLast?.any isWord = true) :
    StandsAlone t (opener :: (h ++ [closer])) ↔ StandsAlone t h := by
  constructor
  case mp =>
    rintro ⟨u, w, heq, hu, hw⟩
    cases u with
    | nil =>
      have hhead := congrArg List.head? heq
      rw [List.nil_append, List.head?_append_of_ne_nil _ (ne_nil_of_any_head? hstart)] at hhead
      rw [← hhead, List.head?_cons, Option.any_some, hopener] at hstart
      exact nomatch hstart
    | cons c u =>
      obtain rfl := List.head_eq_of_cons_eq heq
      have heq : h ++ [closer] = u ++ t ++ w := List.tail_eq_of_cons_eq heq
      obtain rfl | ⟨w, d, rfl⟩ := List.eq_nil_or_concat w
      · have hlast := congrArg List.getLast? heq
        rw [List.append_nil, List.getLast?_append_of_ne_nil _ (ne_nil_of_any_getLast? hstop),
          List.getLast?_concat] at hlast
        rw [← hlast, Option.any_some, hcloser] at hstop
        exact nomatch hstop
      · rw [List.concat_eq_append, ← List.append_assoc] at heq
        obtain ⟨rfl, hclosers⟩ := List.append_inj' heq rfl
        obtain rfl := List.singleton_inj.mp hclosers
        rw [any_getLast?_cons hopener] at hu
        rw [List.concat_eq_append, any_head?_concat hcloser] at hw
        exact ⟨u, w, rfl, hu, hw⟩
  case mpr =>
    rintro ⟨u, w, rfl, hu, hw⟩
    exact ⟨opener :: u, w ++ [closer], by simp, (any_getLast?_cons hopener).trans hu,
      (any_head?_concat hcloser).trans hw⟩

end Signs

namespace Weigher

variable {words : List Text} {text common : Text} {strict : Bool} {q : Query} {w : Weigher}

theorem any_specialChars_join (h : PlainWords words) :
    (Text.join [' '] words).any specialChars.contains = false := by
  have hspecial : specialChars.all fun d => d != ' ' && !d.isAlphanum := by decide
  refine List.any_eq_false.mpr fun c hc hcontains => ?_
  have hc' := List.all_eq_true.mp hspecial c (List.contains_iff_mem.mp hcontains)
  rw [Bool.and_eq_true, bne_iff_ne, Bool.not_eq_true'] at hc'
  exact h.not_mem_join hc'.1 hc'.2 hc

-- How the weigher looks for the text as the whole of a field.
structure LooksFor (w : Weigher) (t : Text) (tag teacher phrase : TermPattern) : Prop where
  wholeField_eq : w.wholeField = [('[', tag), ('{', teacher)] ++
    if t.contains ' ' then [('^', phrase)] else []
  tag_iff       : ∀ b, tag.isMatch b = true ↔ '[' :: (t ++ [']']) <:+: b
  teacher_iff   : ∀ b, teacher.isMatch b = true ↔ '{' :: (t ++ ['}']) <:+: b
  phrase_iff    : ∀ b, phrase.isMatch b = true ↔ StandsAlone t b

theorem exists_looksFor (h : PlainWords words) (strict : Bool) (common : Text) :
    ∃ q w tag teacher phrase, Query.parse (Text.join [' '] words) strict = .ok q ∧
      ofQuery q common = .ok w ∧ w.LooksFor (Text.join [' '] words) tag teacher phrase := by
  let t := Text.join [' '] words
  have hnormal : normalize t = t := h.normalize_join
  have hstart : t.head?.any Term.isWordChar = true := h.any_isWordChar_head?
  have hstop : t.getLast?.any Term.isWordChar = true := h.any_isWordChar_getLast?
  have hne : t ≠ [] := ne_nil_of_any_head? (Term.any_isWord_of_any_isWordChar hstart)
  have hquote : '"' ∉ t := h.not_mem_join (by decide) (by decide)
  have hwild : ∀ c ∈ t, isWildcard c = false := h.isWildcard_of_mem
  have hraw : '`' ∉ normalize t := by
    rw [hnormal]
    exact h.not_mem_join (by decide) (by decide)
  obtain ⟨q, w, hq, hw⟩ := exists_ofQuery_of_not_mem hraw strict common
  obtain ⟨tag, teacher, phrase, hfields, htag, hteacher, hphrase⟩ :=
    exists_wholeFieldPatterns_of_plain (hnormal ▸ stripped_normalize t) hne
      (any_specialChars_join h)
  have htext : q.text = t := by
    obtain ⟨ms, highlighter, -, -, rfl⟩ := exists_members_of_parse hq
    exact hnormal
  have hwhole := (eq_ok_of_ofQuery hw).2
  rw [htext, hfields] at hwhole
  rw [hnormal] at htag hteacher hphrase
  refine ⟨q, w, tag, teacher, phrase, hq, hw, (Except.ok.inj hwhole).symm, fun b => ?tag,
    fun b => ?teacher, fun b => ?phrase⟩
  case tag =>
    exact isMatch_between htag ⟨rfl, isWord_ascii (by decide)⟩ ⟨rfl, isWord_ascii (by decide)⟩
      hquote hwild hstart hstop
  case teacher =>
    exact isMatch_between hteacher ⟨rfl, isWord_ascii (by decide)⟩ ⟨rfl, isWord_ascii (by decide)⟩
      hquote hwild hstart hstop
  case phrase =>
    rw [Term.isMatch_iff_occursQuoted hphrase hne hquote hwild, Term.occursQuoted_iff hstart hstop]

namespace LooksFor

variable {t b : Text} {tag teacher phrase : TermPattern}

theorem matchesWhole_tag (h : w.LooksFor t tag teacher phrase) :
    w.matchesWhole ('[' :: b) = true ↔ '[' :: (t ++ [']']) <:+: '[' :: b := by
  rw [matchesWhole, h.wholeField_eq]
  exact h.tag_iff _

theorem matchesWhole_teacher (h : w.LooksFor t tag teacher phrase) :
    w.matchesWhole ('{' :: b) = true ↔ '{' :: (t ++ ['}']) <:+: '{' :: b := by
  rw [matchesWhole, h.wholeField_eq]
  exact h.teacher_iff _

theorem matchesWhole_text (h : w.LooksFor t tag teacher phrase) :
    w.matchesWhole ('^' :: b) = true ↔ ' ' ∈ t ∧ StandsAlone t ('^' :: b) := by
  rw [matchesWhole, h.wholeField_eq, ← h.phrase_iff]
  by_cases hspace : ' ' ∈ t
  case pos => simp [hspace, List.lookup_cons]
  case neg => simp [hspace, List.lookup_cons]

theorem matchesWhole_other (h : w.LooksFor t tag teacher phrase)
    (hb : ∀ c ∈ b.head?, c ≠ '[' ∧ c ≠ '{' ∧ c ≠ '^') : w.matchesWhole b = false := by
  cases b with
  | nil => rfl
  | cons c b =>
    obtain ⟨hbracket, hbrace, hcaret⟩ := hb c rfl
    have hnone : w.wholeField.lookup c = none := by
      rw [List.lookup_eq_none_iff, h.wholeField_eq]
      split <;> simp [hbracket, hbrace, hcaret]
    rw [matchesWhole, hnone, Option.any_none]

end LooksFor

-- A query of plain words counts as the whole of a field among tags if it stands there in brackets,
-- and among teachers, if it stands there in braces. It does so nowhere else, but for texts, and
-- there only if it has several words.
theorem matchesWhole_words (h : PlainWords words) (strict : Bool) (common : Text) :
    ∃ q w, Query.parse (Text.join [' '] words) strict = .ok q ∧ ofQuery q common = .ok w ∧
      (∀ {α : Type} [Score α] (b : Text) (weight : α), w.weigh b weight =
        ((3 : Nat) : α) * ((if w.matchesWhole b then 1 else 0 : Nat) : α) +
          ((3 : Nat) : α) * total weight (w.parts.filter (·.countsTriple b)) +
          total weight (w.parts.filter (·.countsOnce b))) ∧
      (∀ b, w.matchesWhole ('[' :: b) = true ↔
        '[' :: (Text.join [' '] words ++ [']']) <:+: '[' :: b) ∧
      (∀ b, w.matchesWhole ('{' :: b) = true ↔
        '{' :: (Text.join [' '] words ++ ['}']) <:+: '{' :: b) ∧
      (∀ b : Text, (∀ c ∈ b.head?, c ≠ '[' ∧ c ≠ '{' ∧ c ≠ '^') → w.matchesWhole b = false) ∧
      (words.length = 1 → ∀ b, w.matchesWhole ('^' :: b) = false) := by
  obtain ⟨q, w, tag, teacher, phrase, hq, hw, hlooks⟩ := exists_looksFor h strict common
  refine ⟨q, w, hq, hw, w.weigh_eq, fun b => hlooks.matchesWhole_tag,
    fun b => hlooks.matchesWhole_teacher, fun b => hlooks.matchesWhole_other, fun hone b => ?_⟩
  rw [Bool.eq_false_iff, ne_eq, hlooks.matchesWhole_text, h.space_mem_join_iff, hone]
  exact fun hseveral => absurd hseveral.1 (Nat.lt_irrefl 1)

theorem matchesWhole_words_two : PlainWords [['a', 'b'], ['1']] ∧
    ∃ q w, Query.parse ['a', 'b', ' ', '1'] false = .ok q ∧ ofQuery q ['a', 'b'] = .ok w ∧
      w.matchesWhole ['[', 'c', ']', '[', 'a', 'b', ' ', '1', ']'] = true ∧
      w.matchesWhole ['{', 'c', ' ', 'a', 'b', ' ', '1', '}'] = false := by
  have hwords : PlainWords [['a', 'b'], ['1']] := ⟨by decide, by decide, by decide⟩
  have hjoin : Text.join [' '] [['a', 'b'], ['1']] = ['a', 'b', ' ', '1'] := rfl
  obtain ⟨q, w, hq, hw, -, htag, hteacher, -⟩ := matchesWhole_words hwords false ['a', 'b']
  rw [hjoin] at hq htag hteacher
  refine ⟨hwords, q, w, hq, hw, (htag _).mpr ?_, Bool.eq_false_iff.mpr fun hmatch => ?_⟩
  · exact ⟨['[', 'c', ']'], [], rfl⟩
  · exact absurd ((hteacher _).mp hmatch) (by decide)

-- A query of several plain words counts as the whole of a text wherever it stands in it, with no
-- word character directly before or behind it.
theorem matchesWhole_text_words (h : PlainWords words) (hseveral : 1 < words.length)
    (strict : Bool) (common : Text) :
    ∃ q w, Query.parse (Text.join [' '] words) strict = .ok q ∧ ofQuery q common = .ok w ∧
      (∀ {α : Type} [Score α] (b : Text) (weight : α), w.weigh b weight =
        ((3 : Nat) : α) * ((if w.matchesWhole b then 1 else 0 : Nat) : α) +
          ((3 : Nat) : α) * total weight (w.parts.filter (·.countsTriple b)) +
          total weight (w.parts.filter (·.countsOnce b))) ∧
      ∀ s, w.matchesWhole ('^' :: (s ++ ['^'])) = true ↔ StandsAlone (Text.join [' '] words) s := by
  obtain ⟨q, w, tag, teacher, phrase, hq, hw, hlooks⟩ := exists_looksFor h strict common
  have hcaret : isWord '^' = false := isWord_ascii (by decide)
  refine ⟨q, w, hq, hw, w.weigh_eq, fun s => ?_⟩
  rw [hlooks.matchesWhole_text, and_iff_right (h.space_mem_join_iff.mpr hseveral)]
  exact standsAlone_between hcaret hcaret (Term.any_isWord_of_any_isWordChar h.any_isWordChar_head?)
    (Term.any_isWord_of_any_isWordChar h.any_isWordChar_getLast?)

theorem matchesWhole_text_words_two : PlainWords [['a'], ['b']] ∧ 1 < [['a'], ['b']].length ∧
    ∃ q w, Query.parse ['a', ' ', 'b'] false = .ok q ∧ ofQuery q [] = .ok w ∧
      w.matchesWhole ('^' :: (['a', ' ', 'b'] ++ ['^'])) = true ∧
      w.matchesWhole ('^' :: (['c', 'a', ' ', 'b'] ++ ['^'])) = false := by
  have hwords : PlainWords [['a'], ['b']] := ⟨by decide, by decide, by decide⟩
  have hseveral : 1 < [['a'], ['b']].length := by decide
  have hjoin : Text.join [' '] [['a'], ['b']] = ['a', ' ', 'b'] := rfl
  obtain ⟨q, w, hq, hw, -, htext⟩ := matchesWhole_text_words hwords hseveral false []
  rw [hjoin] at hq htext
  refine ⟨hwords, hseveral, q, w, hq, hw, (htext _).mpr ⟨[], [], rfl, rfl, rfl⟩, ?_⟩
  rw [Bool.eq_false_iff, ne_eq, htext]
  exact Term.not_standsAlone_cons (isWord_ascii (by decide)) (by decide) (by decide)

-- So a text that is longer than the query gets the weight of a whole field.
theorem matchesWhole_longer_text : ∃ q w, Query.parse ['a', ' ', 'b'] false = .ok q ∧
    ofQuery q [] = .ok w ∧ '^' ∉ ['c', ' ', 'a', ' ', 'b'] ∧
    ['c', ' ', 'a', ' ', 'b'] ≠ Text.join [' '] [['a'], ['b']] ∧
    w.matchesWhole ('^' :: (['c', ' ', 'a', ' ', 'b'] ++ ['^'])) = true ∧
    w.weigh ('^' :: (['c', ' ', 'a', ' ', 'b'] ++ ['^'])) (Score.half : Rat) = 9 := by
  have hcheck : ((Query.parse ['a', ' ', 'b'] false).toOption.any fun q =>
      (ofQuery q []).toOption.any fun w =>
        w.matchesWhole ('^' :: (['c', ' ', 'a', ' ', 'b'] ++ ['^'])) &&
        w.weigh ('^' :: (['c', ' ', 'a', ' ', 'b'] ++ ['^'])) (Score.half : Rat) = 9) = true := by
    simp only [ofQuery, wholeFieldPatterns, Query.parse, Query.normalize_eq_quickNormalize]
    decide +kernel
  obtain ⟨q, hq, hcheck⟩ := exists_of_any_toOption hcheck
  obtain ⟨w, hw, hcheck⟩ := exists_of_any_toOption hcheck
  simp only [Bool.and_eq_true, decide_eq_true_eq] at hcheck
  exact ⟨q, w, hq, hw, by decide, by decide, hcheck.1, hcheck.2⟩

end Weigher
end ExcerptSearch
