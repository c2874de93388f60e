import ExcerptSearch.Proofs.Query.Quoted
import ExcerptSearch.Proofs.Unicode.Word

namespace ExcerptSearch

open Regex Unicode

-- Does the phrase occur in the text with no word character directly before or behind it?
def StandsAlone (t h : Text) : Prop :=
  ∃ u w, h = u ++ t ++ w ∧ u.getLast?.any isWord = false ∧ w.head?.any isWord = false

section Borders

variable {t u w : Text}

theorem ne_nil_of_any_head? (ht : t.head?.any isWord = true) : t ≠ [] := by
  rintro rfl
  exact nomatch ht

theorem ne_nil_of_any_getLast? (ht : t.getLast?.any isWord = true) : t ≠ [] := by
  rintro rfl
  exact nomatch ht

theorem wordBorder_start_iff (ht : t.head?.any isWord = true) :
    WordBorder u (t ++ w) ↔ u.getLast?.any isWord = false := by
  rw [WordBorder, List.head?_append_of_ne_nil _ (ne_nil_of_any_head? ht), ht, ne_eq,
    Bool.not_eq_true]

theorem wordBorder_stop_iff (ht : t.getLast?.any isWord = true) :
    WordBorder (u ++ t) w ↔ w.head?.any isWord = false := by
  rw [WordBorder, List.getLast?_append_of_ne_nil _ (ne_nil_of_any_getLast? ht), ht, ne_comm, ne_eq,
    Bool.not_eq_true]

end Borders

namespace Query

variable {t u v w : Text} {c : Char}

theorem readsAs_of_plain (ht : ∀ c ∈ t, isWildcard c = false) : ReadsAs u t v w ↔ v = t := by
  induction t generalizing u v with
  | nil => exact readsAs_nil
  | cons c t ih =>
    rw [List.forall_mem_cons] at ht
    simp only [readsAs_plain ht.1, ih ht.2]
    simp

theorem isEdge_of_not_isWildcard (hc : isWildcard c = false) : isEdge c = false := by
  have ⟨hstar, _, hdollar⟩ := ne_of_isWildcard hc
  simp [isEdge, hstar, hdollar]

section Edges

variable {r s : Text}

theorem isEdge_head?_append (hne : t ≠ []) (ht : ∀ c ∈ t, isEdge c = false) :
    ∀ c ∈ (t ++ r).head?, isEdge c = false := by
  intro c hc
  rw [List.head?_append_of_ne_nil _ hne] at hc
  exact ht c (List.mem_of_mem_head? hc)

theorem leadingEdge_append (hs : ∀ c ∈ s, isEdge c = true) (hne : t ≠ [])
    (ht : ∀ c ∈ t, isEdge c = false) : leadingEdge (s ++ t ++ r) = s := by
  rw [leadingEdge, List.append_assoc, takeWhile_append_of_stop hs (isEdge_head?_append hne ht)]

theorem trailingEdge_append (hr : ∀ c ∈ r, isEdge c = true) (hne : t ≠ [])
    (ht : ∀ c ∈ t, isEdge c = false) : trailingEdge (s ++ t ++ r) = r := by
  have hreverse : leadingEdge (r.reverse ++ t.reverse ++ s.reverse) = r.reverse := by
    apply leadingEdge_append
    · simpa using hr
    · simpa using hne
    · simpa using ht
  have hlead : trailingEdge (s ++ t ++ r) =
      (leadingEdge (r.reverse ++ t.reverse ++ s.reverse)).reverse := by
    simp [trailingEdge, leadingEdge]
  rw [hlead, hreverse, List.reverse_reverse]

theorem core_append (hs : ∀ c ∈ s, isEdge c = true) (hr : ∀ c ∈ r, isEdge c = true) (hne : t ≠ [])
    (ht : ∀ c ∈ t, isEdge c = false) : core (s ++ t ++ r) = t := by
  exact dropEndWhile_dropWhile_append hs hr hne (fun c hc => ht c (List.mem_of_mem_head? hc))
    fun c hc => ht c (List.mem_of_mem_getLast? hc)

end Edges
end Query

namespace Term

open Query

variable {c : Option Char} {t : Text}

def quoteMark (c : Option Char) : Text :=
  if c.any isWordChar then ['$'] else []

theorem reverse_quoteMark : (quoteMark c).reverse = quoteMark c := by
  unfold quoteMark
  split <;> rfl

theorem isEdge_of_mem_quoteMark {d : Char} (hd : d ∈ quoteMark c) : isEdge d = true := by
  unfold quoteMark at hd
  split at hd
  case isTrue => rw [List.mem_singleton.mp hd]; rfl
  case isFalse => exact nomatch hd

theorem dropLooseDollar_dollar (hne : t ≠ []) :
    dropLooseDollar ('$' :: t) = quoteMark t.head? ++ t := by
  obtain ⟨c, t, rfl⟩ := List.exists_cons_of_ne_nil hne
  cases hc : isWordChar c with
  | true => simp [dropLooseDollar, quoteMark, hc]
  | false => simp [dropLooseDollar, quoteMark, hc]

theorem dollarQuoted_inQuotes (hne : t ≠ []) (hquote : '"' ∉ t) :
    dollarQuoted (inQuotes t) = '$' :: (t ++ ['$']) := by
  have hstop : ∀ s : Text, (∀ c ∈ s, c ∈ t) → ∀ c ∈ s.head?, (c == '"') = false :=
    fun s hs c hc => by simpa using ne_of_mem_of_not_mem (hs c (List.mem_of_mem_head? hc)) hquote
  have hstart : (t ++ ['"']).dropWhile (· == '"') = t ++ ['"'] := by
    apply dropWhile_of_stop
    rw [List.head?_append_of_ne_nil _ hne]
    exact hstop t fun _ => id
  have hend : t.reverse.dropWhile (· == '"') = t.reverse :=
    dropWhile_of_stop (hstop t.reverse fun _ => List.mem_reverse.mp)
  simp [dollarQuoted, inQuotes, Text.dropEndWhile, hstart, hend]

theorem quotesToBoundaries_inQuotes (hne : t ≠ []) (hquote : '"' ∉ t) :
    quotesToBoundaries (inQuotes t) = quoteMark t.head? ++ t ++ quoteMark t.getLast? := by
  have hstart : dropLooseDollar (dollarQuoted (inQuotes t)) =
      quoteMark t.head? ++ t ++ ['$'] := by
    rw [dollarQuoted_inQuotes hne hquote,
      dropLooseDollar_dollar (List.append_ne_nil_of_left_ne_nil hne _),
      List.head?_append_of_ne_nil _ hne, List.append_assoc]
  have hreverse : (quoteMark t.head? ++ t ++ ['$']).reverse =
      '$' :: (t.reverse ++ quoteMark t.head?) := by
    simp [reverse_quoteMark]
  have hne' : t.reverse ≠ [] := by simpa
  unfold quotesToBoundaries
  rw [hstart, hreverse, dropLooseDollar_dollar (List.append_ne_nil_of_left_ne_nil hne' _),
    List.head?_append_of_ne_nil _ hne', List.head?_reverse]
  simp [reverse_quoteMark]

theorem getLast?_quoteMark : (quoteMark c).getLast? = some '$' ↔ c.any isWordChar = true := by
  unfold quoteMark
  split <;> simp_all

theorem head?_quoteMark : (quoteMark c).head? = some '$' ↔ c.any isWordChar = true := by
  rw [← reverse_quoteMark, List.head?_reverse, getLast?_quoteMark]

theorem readsAs_bounded_phrase {d : Option Char} {u v w : Text} (hne : t ≠ [])
    (ht : ∀ c ∈ t, isWildcard c = false) :
    ReadsAs u (bounded (quoteMark c ++ t ++ quoteMark d)) v w ↔ v = t ∧
      (c.any isWordChar = true → WordBorder u (t ++ w)) ∧
      (d.any isWordChar = true → WordBorder (u ++ t) w) := by
  have hedge : ∀ c, ∀ d ∈ quoteMark c, isEdge d = true := fun _ _ => isEdge_of_mem_quoteMark
  have hplain : ∀ c ∈ t, isEdge c = false := fun c hc => isEdge_of_not_isWildcard (ht c hc)
  rw [readsAs_bounded, core_append (hedge c) (hedge d) hne hplain,
    leadingEdge_append (hedge c) hne hplain, trailingEdge_append (hedge d) hne hplain,
    readsAs_of_plain ht, getLast?_quoteMark, head?_quoteMark]
  exact and_congr_right fun hv => hv ▸ .rfl

-- Does the phrase occur in the text between word borders, where its ends ask for them?
def OccursQuoted (t h : Text) : Prop :=
  ∃ u w, h = u ++ t ++ w ∧ (t.head?.any isWordChar = true → WordBorder u (t ++ w)) ∧
    (t.getLast?.any isWordChar = true → WordBorder (u ++ t) w)

theorem isWord_of_isWordChar {c : Char} (h : isWordChar c = true) : isWord c = true := by
  simp only [isWordChar, Bool.or_eq_true, beq_iff_eq] at h
  obtain h | rfl := h
  · exact isWord_of_isAlphanum h
  · exact isWord_ascii (by decide)

theorem any_isWord_of_any_isWordChar (h : c.any isWordChar = true) : c.any isWord = true := by
  cases c with
  | none => exact nomatch h
  | some c =>
    rw [Option.any_some] at h ⊢
    exact isWord_of_isWordChar h

theorem occursQuoted_iff (hstart : t.head?.any isWordChar = true)
    (hstop : t.getLast?.any isWordChar = true) {h : Text} : OccursQuoted t h ↔ StandsAlone t h := by
  simp only [OccursQuoted, StandsAlone, hstart, hstop, forall_const,
    wordBorder_start_iff (any_isWord_of_any_isWordChar hstart),
    wordBorder_stop_iff (any_isWord_of_any_isWordChar hstop)]

theorem readsAs_bordered {u v w : Text} (hne : t ≠ []) (hquote : '"' ∉ t)
    (ht : ∀ c ∈ t, isWildcard c = false) : ReadsAs u (bordered t) v w ↔ v = t ∧
      (t.head?.any isWordChar = true → WordBorder u (t ++ w)) ∧
      (t.getLast?.any isWordChar = true → WordBorder (u ++ t) w) := by
  rw [bordered, quotesToBoundaries_inQuotes hne hquote, readsAs_bounded_phrase hne ht]

theorem isMatch_iff_occursQuoted {p : TermPattern} {h : Text} (hp : p.Finds (bordered t))
    (hne : t ≠ []) (hquote : '"' ∉ t) (ht : ∀ c ∈ t, isWildcard c = false) :
    p.isMatch h = true ↔ OccursQuoted t h := by
  simp only [hp h, readsAs_bordered hne hquote ht]
  constructor
  case mp =>
    rintro ⟨u, _, w, rfl, rfl, hborders⟩
    exact ⟨u, w, rfl, hborders⟩
  case mpr =>
    rintro ⟨u, w, rfl, hborders⟩
    exact ⟨u, t, w, rfl, rfl, hborders⟩

theorem exists_ofText_phrase (hne : t ≠ []) (hquote : '"' ∉ t)
    (ht : ∀ c ∈ t, isWildcard c = false) : ∃ s, ofText (inQuotes t) = .ok s ∧
      ∀ h, s.pattern.isMatch h = true ↔ OccursQuoted t h := by
  obtain ⟨s, hs, hsource, hscope⟩ := exists_ofText_inQuotes t
  have hfinds := TermPattern.finds_of_source hscope (hsource.trans (quotedSource_eq_flatMap t))
  exact ⟨s, hs, fun h => isMatch_iff_occursQuoted hfinds hne hquote ht⟩

section Exact

variable {c : Char} {h u v w : Text}

theorem occursQuoted_cons (hstart : t.head?.any isWordChar = false)
    (hstop : t.getLast?.any isWord = true) : OccursQuoted t (c :: t) :=
  ⟨[c], [], by simp, fun h => absurd h (Bool.eq_false_iff.mp hstart),
    fun _ => (wordBorder_stop_iff hstop).mpr rfl⟩

theorem occursQuoted_concat (hstart : t.head?.any isWord = true)
    (hstop : t.getLast?.any isWordChar = false) : OccursQuoted t (t ++ [c]) :=
  ⟨[], [c], rfl, fun _ => (wordBorder_start_iff hstart).mpr rfl,
    fun h => absurd h (Bool.eq_false_iff.mp hstop)⟩

theorem eq_nil_or_eq_nil_of_length (h : (u ++ t ++ w).length = t.length + 1) :
    (u = [] ∧ ∃ d, w = [d]) ∨ ((∃ d, u = [d]) ∧ w = []) := by
  have hlength : u.length + w.length = 1 := by
    simp only [List.length_append] at h
    omega
  obtain ⟨hu, hw⟩ | ⟨hu, hw⟩ : u.length = 0 ∧ w.length = 1 ∨ u.length = 1 ∧ w.length = 0 := by omega
  · exact .inl ⟨List.length_eq_zero_iff.mp hu, List.length_eq_one_iff.mp hw⟩
  · exact .inr ⟨List.length_eq_one_iff.mp hu, List.length_eq_zero_iff.mp hw⟩

theorem not_standsAlone_cons (hc : isWord c = true) (ht : t.head? ≠ some c) (hne : t ≠ []) :
    ¬StandsAlone t (c :: t) := by
  rintro ⟨u, w, h, hu, -⟩
  obtain ⟨rfl, d, rfl⟩ | ⟨⟨d, rfl⟩, rfl⟩ := eq_nil_or_eq_nil_of_length (h ▸ List.length_cons)
  case inl =>
    have hhead := congrArg List.head? h
    rw [List.nil_append, List.head?_append_of_ne_nil _ hne] at hhead
    exact ht hhead.symm
  case inr =>
    obtain rfl : c = d := by simpa using h
    rw [List.getLast?_singleton, Option.any_some, hc] at hu
    exact nomatch hu

theorem not_standsAlone_concat (hc : isWord c = true) (ht : t.getLast? ≠ some c) (hne : t ≠ []) :
    ¬StandsAlone t (t ++ [c]) := by
  rintro ⟨u, w, h, -, hw⟩
  obtain ⟨rfl, d, rfl⟩ | ⟨⟨d, rfl⟩, rfl⟩ := eq_nil_or_eq_nil_of_length (h ▸ List.length_append)
  case inl =>
    obtain rfl : c = d := by simpa using h
    rw [List.head?_singleton, Option.any_some, hc] at hw
    exact nomatch hw
  case inr =>
    have hlast := congrArg List.getLast? h
    rw [List.append_nil, List.getLast?_concat, List.getLast?_append_of_ne_nil _ hne] at hlast
    exact ht hlast.symm

theorem ne_some_of_any_eq_false {o : Option Char} {p : Char → Bool} (hc : p c = true)
    (h : o.any p = false) : o ≠ some c := by
  rintro rfl
  rw [Option.any_some, hc] at h
  exact nomatch h

end Exact

-- A phrase in quotes matches where it occurs between the word borders that the quotes ask for.
-- These keep all word characters away exactly if the phrase begins and ends with letters or digits
-- of ASCII.
theorem isMatch_inQuotes (hquote : '"' ∉ t) (ht : ∀ c ∈ t, isWildcard c = false)
    (hstart : t.head?.any isWord = true) (hstop : t.getLast?.any isWord = true) :
    ∃ s, ofText (inQuotes t) = .ok s ∧ (∀ h, s.pattern.isMatch h = true ↔ OccursQuoted t h) ∧
      ((∀ h, s.pattern.isMatch h = true ↔ StandsAlone t h) ↔
        t.head?.any isWordChar = true ∧ t.getLast?.any isWordChar = true) := by
  have hne : t ≠ [] := ne_nil_of_any_head? hstart
  have ha : isWordChar 'a' = true := rfl
  obtain ⟨s, hs, hmatch⟩ := exists_ofText_phrase hne hquote ht
  refine ⟨s, hs, hmatch, ?_⟩
  simp only [hmatch]
  constructor
  case mp =>
    intro hall
    constructor
    case left =>
      by_contra hhead
      have hhead := Bool.eq_false_iff.mpr hhead
      exact not_standsAlone_cons (isWord_of_isWordChar ha) (ne_some_of_any_eq_false ha hhead) hne
        ((hall _).mp (occursQuoted_cons hhead hstop))
    case right =>
      by_contra hlast
      have hlast := Bool.eq_false_iff.mpr hlast
      exact not_standsAlone_concat (isWord_of_isWordChar ha) (ne_some_of_any_eq_false ha hlast) hne
        ((hall _).mp (occursQuoted_concat hstart hlast))
  case mpr => exact fun ⟨hhead, hlast⟩ _ => occursQuoted_iff hhead hlast

theorem isMatch_inQuotes_words : ∃ s, ofText (inQuotes ['a', '-', 'b']) = .ok s ∧
    s.pattern.isMatch ['c', ' ', 'a', '-', 'b'] = true ∧
    s.pattern.isMatch ['c', 'a', '-', 'b'] = false := by
  obtain ⟨s, hs, -, hexact⟩ := isMatch_inQuotes (t := ['a', '-', 'b']) (by decide)
    (by simp [isWildcard]) (by simp [isWord_ascii]) (by decide +kernel)
  have hmatch := hexact.mpr ⟨rfl, rfl⟩
  refine ⟨s, hs, (hmatch _).mpr ⟨['c', ' '], [], rfl, by simp [isWord_ascii], rfl⟩, ?_⟩
  rw [← Bool.not_eq_true, hmatch]
  exact not_standsAlone_cons (isWord_ascii (by decide)) (by decide) (by decide)

-- A Russian word in quotes matches at the beginning of a longer one.
theorem isMatch_inQuotes_within_word : ∃ s, ofText (inQuotes ['я']) = .ok s ∧
    isWord 'я' = true ∧ s.pattern.isMatch ['я', 'м', 'а'] = true ∧
    ¬StandsAlone ['я'] ['я', 'м', 'а'] := by
  obtain ⟨s, hs, hmatch⟩ := exists_ofText_phrase (t := ['я']) (by decide) (by decide)
    (by simp [isWildcard])
  have hletter : isWordChar 'я' = false := by decide
  refine ⟨s, hs, by decide +kernel, (hmatch _).mpr ⟨[], ['м', 'а'], rfl, ?_, ?_⟩, ?_⟩
  case refine_1 => exact fun h => absurd h (by simp [hletter])
  case refine_2 => exact fun h => absurd h (by simp [hletter])
  case refine_3 =>
    rintro ⟨u, w, h, -, hw⟩
    cases u with
    | nil =>
      obtain rfl : ['м', 'а'] = w := List.tail_eq_of_cons_eq h
      have hm : isWord 'м' = true := by decide +kernel
      rw [List.head?_cons, Option.any_some, hm] at hw
      cases hw
    | cons c u =>
      have hmem : 'я' ∈ ['м', 'а'] := by
        rw [List.tail_eq_of_cons_eq h]
        simp
      exact absurd hmem (by decide)

section Numbers

variable {n : Text}

theorem quoteNumber_digits (hne : n ≠ []) (hn : ∀ c ∈ n, c.isDigit = true) :
    quoteNumber n = inQuotes n := by
  have hall : n.all Char.isDigit = true := List.all_eq_true.mpr hn
  simp [quoteNumber, inQuotes, hne, hall]

theorem looksAtMetadata_inQuotes : looksAtMetadata (inQuotes n) = looksAtMetadata n := by
  simp [looksAtMetadata, inQuotes, metadataMarks]

theorem ofText_inQuotes_digits (hne : n ≠ []) (hn : ∀ c ∈ n, c.isDigit = true) :
    ofText (inQuotes n) = ofText n := by
  have hraw : rawSource? n = none :=
    rawSource?_of_head fun h => nomatch hn '`' (List.mem_of_mem_head? h)
  have hquoted : quoteNumber (inQuotes n) = inQuotes n :=
    quoteNumber_of_mem (.head _) (by decide : '"'.isDigit = false)
  have hrawQuoted : rawSource? (inQuotes n) = none := rfl
  simp only [ofText, hraw, hrawQuoted, hquoted, quoteNumber_digits hne hn,
    looksAtMetadata_inQuotes]

theorem isWildcard_of_isDigit {c : Char} (hc : c.isDigit = true) : isWildcard c = false := by
  obtain rfl | rfl | rfl | hplain := wildcard_cases c
  · exact nomatch hc
  · exact nomatch hc
  · exact nomatch hc
  · exact hplain

theorem isWordChar_of_isDigit {c : Char} (hc : c.isDigit = true) : isWordChar c = true := by
  simp [isWordChar, Char.isAlphanum, hc]

theorem any_isWordChar_digits {o : Option Char} (hn : ∀ c ∈ n, c.isDigit = true)
    (ho : ∃ c, o = some c ∧ c ∈ n) : o.any isWordChar = true := by
  obtain ⟨c, rfl, hc⟩ := ho
  rw [Option.any_some]
  exact isWordChar_of_isDigit (hn c hc)

theorem eq_nil_of_any_getLast? {p : Char → Bool} {u : Text} (hu : ∀ c ∈ u, p c = true)
    (h : u.getLast?.any p = false) : u = [] := by
  by_contra hne
  rw [List.getLast?_eq_some_getLast hne, Option.any_some, hu _ (List.getLast_mem hne)] at h
  exact nomatch h

theorem eq_nil_of_any_head? {p : Char → Bool} {u : Text} (hu : ∀ c ∈ u, p c = true)
    (h : u.head?.any p = false) : u = [] := by
  by_contra hne
  rw [List.head?_eq_some_head hne, Option.any_some, hu _ (List.head_mem hne)] at h
  exact nomatch h

theorem standsAlone_of_word {h : Text} (hword : ∀ c ∈ h, isWord c = true) :
    StandsAlone n h ↔ h = n := by
  constructor
  case mp =>
    rintro ⟨u, w, rfl, hu, hw⟩
    have hbefore : u = [] := eq_nil_of_any_getLast? (fun c hc => hword c (by simp [hc])) hu
    have hbehind : w = [] := eq_nil_of_any_head? (fun c hc => hword c (by simp [hc])) hw
    rw [hbefore, hbehind, List.nil_append, List.append_nil]
  case mpr =>
    rintro rfl
    exact ⟨[], [], by simp, rfl, rfl⟩

end Numbers

-- A number is the term that it is in quotes, which matches where the number occurs with no word
-- character before or behind it. So it matches in no longer number or word.
theorem ofText_digits {n : Text} (hne : n ≠ []) (hn : ∀ c ∈ n, c.isDigit = true) :
    ∃ s, ofText n = .ok s ∧ ofText (inQuotes n) = .ok s ∧
      (∀ h, s.pattern.isMatch h = true ↔ StandsAlone n h) ∧
      ∀ h, (∀ c ∈ h, isWord c = true) → (s.pattern.isMatch h = true ↔ h = n) := by
  have hquote : '"' ∉ n := fun h => nomatch hn '"' h
  have hplain : ∀ c ∈ n, isWildcard c = false := fun c hc => isWildcard_of_isDigit (hn c hc)
  have hstart : n.head?.any isWordChar = true :=
    any_isWordChar_digits hn ⟨_, List.head?_eq_some_head hne, List.head_mem hne⟩
  have hstop : n.getLast?.any isWordChar = true :=
    any_isWordChar_digits hn ⟨_, List.getLast?_eq_some_getLast hne, List.getLast_mem hne⟩
  obtain ⟨s, hs, hoccurs⟩ := exists_ofText_phrase hne hquote hplain
  have hmatch : ∀ h, s.pattern.isMatch h = true ↔ StandsAlone n h :=
    fun h => (hoccurs h).trans (occursQuoted_iff hstart hstop)
  refine ⟨s, ofText_inQuotes_digits hne hn ▸ hs, hs, hmatch, fun h hword => ?_⟩
  rw [hmatch, standsAlone_of_word hword]

theorem ofText_digits_overlapping : ∃ s, ofText ['1', '1'] = .ok s ∧
    s.pattern.isMatch ['1', '1', '1', ' ', '1', '1'] = true ∧
    s.pattern.isMatch ['1', '1', '1'] = false := by
  obtain ⟨s, hs, -, hmatch, hword⟩ := ofText_digits (n := ['1', '1']) (by decide)
    (List.all_eq_true.mp rfl)
  refine ⟨s, hs, (hmatch _).mpr ⟨['1', '1', '1', ' '], [], rfl, by simp [isWord_ascii], rfl⟩, ?_⟩
  rw [← Bool.not_eq_true, hword _ (List.all_eq_true.mp (by simp [isWord_ascii]))]
  decide

end Term
end ExcerptSearch
