import ExcerptSearch.Proofs.Query.Emphasis
import ExcerptSearch.Proofs.Query.Listing
import ExcerptSearch.Proofs.Query.Normalize
import ExcerptSearch.Proofs.Regex.Alternation
import ExcerptSearch.Query.Basic

namespace ExcerptSearch

open Regex Query

namespace TermPattern

theorem isSome_ofSource? {s : Text} {scope : TagScope} :
    (ofSource? s scope).isSome = (parse? s).isSome := by
  simp [ofSource?, Compiled.ofSource?_isSome]

theorem exists_ofSource?_expandWildcards (t : Text) (scope : TagScope) :
    ∃ p, ofSource? (expandWildcards t) scope = some p := by
  have ⟨r, hr, _⟩ := exists_parse?_expandWildcards t
  rw [← Option.isSome_iff_exists, isSome_ofSource?, hr]
  rfl

end TermPattern

namespace Term

variable {text : Text}

-- Is the text a raw term whose pattern, between backquotes of which the last may be missing, is
-- malformed?
def Malformed (text : Text) : Prop :=
  ∃ inner, text = '`' :: inner ∧
    parse? (if inner.getLast? = some '`' then inner.dropLast else inner) = none

theorem ofText_of_malformed (h : Malformed text) :
    ofText text = .error (.invalidPattern text true) := by
  obtain ⟨inner, rfl, hnone⟩ := h
  have hp : TermPattern.ofSource? (if inner.getLast? = some '`' then inner.dropLast else inner)
      .any = none := by
    rw [← Option.isNone_iff_eq_none, ← Option.isSome_eq_false_iff, TermPattern.isSome_ofSource?,
      hnone]
    rfl
  simp [ofText, rawSource?, hp]

theorem rawSource?_of_head (h : text.head? ≠ some '`') : rawSource? text = none := by
  unfold rawSource?
  split
  case h_1 => exact absurd rfl h
  case h_2 => rfl

def plainSource (text : Text) : Text :=
  expandWildcards (quotesToBoundaries (element (quoteNumber text)).1)

theorem exists_ofText_plain (hraw : text.head? ≠ some '`') : ∃ p,
    TermPattern.ofSource? (plainSource text) (element (quoteNumber text)).2 = some p ∧
    ofText text = .ok
      { pattern := p, seesMetadata := looksAtMetadata text, raw := false
        emphasis := if looksAtMetadata text then none else emphasis? (plainSource text) } := by
  have ⟨p, hp⟩ := TermPattern.exists_ofSource?_expandWildcards
    (quotesToBoundaries (element (quoteNumber text)).1) (element (quoteNumber text)).2
  exact ⟨p, hp, by simp [ofText, rawSource?_of_head hraw, hp, plainSource]⟩

theorem exists_ofText (h : ¬Malformed text) : ∃ t, ofText text = .ok t ∧
    ∀ e, t.emphasis = some e → ∃ s : Text, e = s.flatMap emphasisPattern := by
  by_cases hraw : text.head? = some '`'
  case pos =>
    have ⟨inner, htext⟩ := List.head?_eq_some_iff.mp hraw
    have hsome : (TermPattern.ofSource?
        (if inner.getLast? = some '`' then inner.dropLast else inner) .any).isSome := by
      rw [TermPattern.isSome_ofSource?, Option.isSome_iff_ne_none]
      exact fun hnone => h ⟨inner, htext, hnone⟩
    have ⟨p, hp⟩ := Option.isSome_iff_exists.mp hsome
    simp [htext, ofText, rawSource?, hp]
  case neg =>
    have ⟨p, _, ht⟩ := exists_ofText_plain hraw
    refine ⟨_, ht, fun e he => ?_⟩
    simp only [plainSource, emphasis?_expandWildcards] at he
    split at he
    case isTrue => exact nomatch he
    case isFalse =>
      split at he
      · exact nomatch he
      · exact ⟨_, (Option.some.inj he).symm⟩

theorem exists_source_eq {t : Term} (h : ofText text = .ok t) (hraw : text.head? ≠ some '`') :
    ∃ e, t.pattern.source = expandWildcards e := by
  have ⟨p, hp, ht⟩ := exists_ofText_plain hraw
  obtain rfl := Except.ok.inj (h.symm.trans ht)
  obtain ⟨c, hc, rfl⟩ := Option.map_eq_some_iff.mp hp
  exact ⟨_, Compiled.source_of_ofSource? hc⟩

theorem not_malformed_of_ofText {t : Term} (h : ofText text = .ok t) : ¬Malformed text := by
  intro hmalformed
  rw [ofText_of_malformed hmalformed] at h
  exact nomatch h

theorem exists_of_emphasis {t : Term} {e : Text} (h : ofText text = .ok t)
    (he : t.emphasis = some e) : ∃ s : Text, e = s.flatMap emphasisPattern := by
  have ⟨t', ht', hemphasis⟩ := exists_ofText (not_malformed_of_ofText h)
  obtain rfl : t' = t := Except.ok.inj (ht'.symm.trans h)
  exact hemphasis e he

end Term

namespace Highlighter

theorem isSome_ofPatterns? {es : List Text}
    (h : ∀ e ∈ es, ∃ s : Text, e = s.flatMap emphasisPattern) : (ofPatterns? es).isSome := by
  by_cases hne : es = []
  case pos =>
    subst hne
    rfl
  case neg =>
    choose! source hsource using h
    let pieces (e : Text) : List Parser.Piece := (source e).map (emphasisPiece (termFlags true))
    have hspells : ∀ e ∈ es, Parser.Spells (termFlags true) e (pieces e) := by
      intro e he
      have hs : Parser.Spells (termFlags true) ((source e).flatMap emphasisPattern) (pieces e) :=
        .flatMap fun c _ => spells_emphasisPattern c
      rwa [← hsource e he] at hs
    have hdepth : ∀ e ∈ es, ∀ p ∈ pieces e, p.depth + 2 ≤ Parser.maxNesting := by
      intro e _ p hp
      obtain ⟨c, -, rfl⟩ := List.mem_map.mp hp
      have hc := depth_emphasisPiece_le (termFlags true) c
      exact Nat.le_trans (Nat.add_le_add_right hc 2) (by decide)
    have ⟨r, hr, _⟩ := Parser.exists_parse?_alternation hne hspells hdepth
    have ⟨p, hp, _⟩ := Compiled.exists_ofSource? hr
    simp [ofPatterns?, hne, hp]

end Highlighter

namespace Query

variable {text : Text} {ts : List Token} {ms : List Node}

theorem allCompile_iff :
    AllCompile ts ↔ ∀ negated text, .term negated text ∈ ts → ¬Term.Malformed text := by
  constructor
  case mp =>
    intro h negated text hm
    have ⟨t, ht⟩ := h negated text hm
    exact Term.not_malformed_of_ofText ht
  case mpr =>
    intro h negated text hm
    have ⟨t, ht, _⟩ := Term.exists_ofText (h negated text hm)
    exact ⟨t, ht⟩

theorem exists_of_mem_emphasesOf {e : Text} (h : membersOfTokens ts = .ok ms)
    (he : e ∈ Node.emphasesOf ms) : ∃ s : Text, e = s.flatMap emphasisPattern := by
  have ⟨ms', hms, hlisting⟩ := membersOfTokens_of_allCompile (allCompile_of_members h)
  obtain rfl : ms' = ms := Except.ok.inj (hms.symm.trans h)
  rw [Node.emphasesOf_eq_flatMap, List.mem_flatMap] at he
  have ⟨v, hv, he⟩ := he
  cases v with
  | opening | closing => exact nomatch he
  | term t negated =>
    have ⟨text, _, ht⟩ := exists_ofText_of_mem_listing hlisting hv
    exact Term.exists_of_emphasis ht (Option.mem_toList.mp he)

theorem exists_highlighter (h : membersOfTokens ts = .ok ms) :
    ∃ highlighter, Highlighter.ofPatterns? (Node.emphasesOf ms) = some highlighter :=
  Option.isSome_iff_exists.mp <| Highlighter.isSome_ofPatterns? fun _ => exists_of_mem_emphasesOf h

theorem parse_of_members {strict : Bool} {highlighter : Highlighter}
    (h : membersOfTokens (tokenize (normalize text)) = .ok ms)
    (hh : Highlighter.ofPatterns? (Node.emphasesOf ms) = some highlighter) :
    parse text strict = .ok ⟨normalize text, .group (rootKind strict) false ms, highlighter⟩ := by
  simp only [parse, treeOfTokens_eq, h, Except.map, bind, Except.bind, Node.emphases, hh]
  rfl

theorem exists_parse_of_members {strict : Bool}
    (h : membersOfTokens (tokenize (normalize text)) = .ok ms) :
    ∃ q, parse text strict = .ok q := by
  have ⟨_, hh⟩ := exists_highlighter h
  exact ⟨_, parse_of_members h hh⟩

theorem parse_of_error {strict : Bool} {e : QueryError}
    (h : membersOfTokens (tokenize (normalize text)) = .error e) :
    parse text strict = .error e := by
  simp only [parse, treeOfTokens_eq, h, Except.map, bind, Except.bind]

theorem exists_members_of_parse {strict : Bool} {q : Query} (h : parse text strict = .ok q) :
    ∃ ms highlighter, membersOfTokens (tokenize (normalize text)) = .ok ms ∧
      Highlighter.ofPatterns? (Node.emphasesOf ms) = some highlighter ∧
      q = ⟨normalize text, .group (rootKind strict) false ms, highlighter⟩ := by
  cases hms : membersOfTokens (tokenize (normalize text)) with
  | error e => exact nomatch (parse_of_error hms).symm.trans h
  | ok ms =>
    have ⟨highlighter, hh⟩ := exists_highlighter hms
    exact ⟨ms, highlighter, rfl, hh, Except.ok.inj (h.symm.trans (parse_of_members hms hh))⟩

theorem exists_of_mem_searchParts {strict : Bool} {q : Query} {p : TermPattern}
    (h : parse text strict = .ok q) (hp : p ∈ q.searchParts) :
    ∃ negated t s, .term negated t ∈ tokenize (normalize text) ∧ Term.ofText t = .ok s ∧
      s.pattern = p := by
  obtain ⟨ms, highlighter, hms, -, rfl⟩ := exists_members_of_parse h
  obtain ⟨s, negated, hlisting, rfl⟩ := Node.exists_of_mem_searchPartsOf ms hp
  obtain ⟨ms', hms', hcompiles⟩ := membersOfTokens_of_allCompile (allCompile_of_members hms)
  obtain rfl : ms' = ms := Except.ok.inj (hms'.symm.trans hms)
  obtain ⟨t, ht, hs⟩ := exists_ofText_of_mem_listing hcompiles hlisting
  exact ⟨negated, t, s, mem_of_mem_balance ht, hs, rfl⟩

theorem parse_of_malformed {strict : Bool} {pre post : List Token} {negated : Bool} {t : Text}
    (hts : tokenize (normalize text) = pre ++ .term negated t :: post) (hpre : AllCompile pre)
    (ht : Term.Malformed t) : parse text strict = .error (.invalidPattern t true) := by
  apply parse_of_error
  rw [hts]
  exact membersOfTokens_of_error hpre (Term.ofText_of_malformed ht)

theorem exists_parse_or_malformed (text : Text) (strict : Bool) :
    AllCompile (tokenize (normalize text)) ∧ (∃ q, parse text strict = .ok q) ∨
    ∃ pre negated t post, tokenize (normalize text) = pre ++ .term negated t :: post ∧
      AllCompile pre ∧ Term.Malformed t := by
  obtain h | ⟨pre, negated, t, post, e, hts, hpre, he⟩ :=
    allCompile_or_error (tokenize (normalize text))
  · have ⟨ms, hms, _⟩ := membersOfTokens_of_allCompile h
    exact .inl ⟨h, exists_parse_of_members hms⟩
  · refine .inr ⟨pre, negated, t, post, hts, hpre, ?_⟩
    by_contra hwell
    have ⟨s, hs, _⟩ := Term.exists_ofText hwell
    rw [hs] at he
    exact nomatch he

-- A query is refused just if a raw term is malformed, and the first that is makes the error. No
-- other term fails to compile, and what the terms of a tree mark can always be joined.
theorem parse_error_iff (text : Text) (strict : Bool) :
    ((∃ e, parse text strict = .error e) ↔
      ∃ negated t, .term negated t ∈ tokenize (normalize text) ∧ Term.Malformed t) ∧
    (∀ e, parse text strict = .error e ↔ ∃ pre negated t post,
      tokenize (normalize text) = pre ++ .term negated t :: post ∧
      (∀ negated t, .term negated t ∈ pre → ¬Term.Malformed t) ∧
      Term.Malformed t ∧ e = .invalidPattern t true) ∧
    (∀ t : Text, t.head? ≠ some '`' → ∃ s, Term.ofText t = .ok s) ∧
    ∀ ts members, membersOfTokens ts = .ok members →
      (Highlighter.ofPatterns? (Node.emphasesOf members)).isSome := by
  simp only [← allCompile_iff]
  refine ⟨?error, ?first, ?ordinary, ?joined⟩
  case error =>
    obtain ⟨hall, q, hq⟩ | ⟨pre, negated, t, post, hts, hpre, ht⟩ :=
      exists_parse_or_malformed text strict
    · constructor
      case mp => exact fun ⟨e, he⟩ => nomatch hq.symm.trans he
      case mpr => exact fun ⟨negated, t, hm, ht⟩ => absurd ht (allCompile_iff.mp hall negated t hm)
    · have hm : .term negated t ∈ tokenize (normalize text) := by simp [hts]
      exact iff_of_true ⟨_, parse_of_malformed hts hpre ht⟩ ⟨negated, t, hm, ht⟩
  case first =>
    intro e
    constructor
    case mp =>
      intro he
      obtain ⟨-, q, hq⟩ | ⟨pre, negated, t, post, hts, hpre, ht⟩ :=
        exists_parse_or_malformed text strict
      · exact nomatch hq.symm.trans he
      · have herror := he.symm.trans (parse_of_malformed hts hpre ht)
        exact ⟨pre, negated, t, post, hts, hpre, ht, Except.error.inj herror⟩
    case mpr =>
      rintro ⟨pre, negated, t, post, hts, hpre, ht, rfl⟩
      exact parse_of_malformed hts hpre ht
  case ordinary =>
    intro t ht
    have hwell : ¬Term.Malformed t := by
      rintro ⟨inner, rfl, -⟩
      exact ht rfl
    have ⟨s, hs, _⟩ := Term.exists_ofText hwell
    exact ⟨s, hs⟩
  case joined =>
    intro ts members h
    exact Highlighter.isSome_ofPatterns? fun e => exists_of_mem_emphasesOf h

theorem parse_error_iff_second_raw :
    parse ['`', '\\', 'p', 'l', '`', ' ', '(', '`', '(', '`', 'A', '\\'] true =
      .error (.invalidPattern ['`', '(', '`'] true) ∧
    (∃ s, Term.ofText ['a', '\\'] = .ok s) ∧
    ∃ members, membersOfTokens [.term true ['a', '\\'], .closing, .term false ['[']] =
      .ok members ∧ (Highlighter.ofPatterns? (Node.emphasesOf members)).isSome := by
  have h := parse_error_iff ['`', '\\', 'p', 'l', '`', ' ', '(', '`', '(', '`', 'A', '\\'] true
  refine ⟨(h.2.1 _).mpr ?first, h.2.2.1 _ (by decide), ?joined⟩
  case first =>
    have hnormal : normalize ['`', '\\', 'p', 'l', '`', ' ', '(', '`', '(', '`', 'A', '\\'] =
        ['`', '\\', 'p', 'l', '`', ' ', '(', '`', '(', '`', 'a', '\\'] := by
      rw [normalize_eq_quickNormalize]
      decide +kernel
    have htokens : tokenize ['`', '\\', 'p', 'l', '`', ' ', '(', '`', '(', '`', 'a', '\\'] =
        [.term false ['`', '\\', 'p', 'l', '`'], .opening .all false] ++
          [.term false ['`', '(', '`'], .term false ['a', '\\']] := by cbv
    refine ⟨_, _, _, _, hnormal ▸ htokens, ?_, ⟨_, rfl, rfl⟩, rfl⟩
    intro negated t hm hmalformed
    obtain ⟨rfl, rfl⟩ : negated = false ∧ t = ['`', '\\', 'p', 'l', '`'] := by simpa using hm
    obtain ⟨inner, hinner, hnone⟩ := hmalformed
    obtain ⟨-, rfl⟩ := List.cons.inj hinner
    exact absurd hnone (by decide)
  case joined =>
    have hall : AllCompile [.term true ['a', '\\'], .closing, .term false ['[']] := by
      intro negated t hm
      refine h.2.2.1 t ?_
      simp at hm
      grind
    obtain ⟨members, hmembers, -⟩ := membersOfTokens_of_allCompile hall
    exact ⟨members, hmembers, h.2.2.2 _ _ hmembers⟩

end Query
end ExcerptSearch
