import ExcerptSearch.Proofs.Query.Phrases

namespace ExcerptSearch

open Query Unicode

def isPlainChar (c : Char) : Bool :=
  c.isLower || c.isDigit

structure PlainWords (words : List Text) : Prop where
  ne_nil      : words ≠ []
  word_ne_nil : ∀ word ∈ words, word ≠ []
  plain       : ∀ word ∈ words, word.all isPlainChar = true

section PlainChars

variable {c : Char}

theorem isAlphanum_of_isPlainChar (hc : isPlainChar c = true) : c.isAlphanum = true := by
  have halphanum : c.isAlphanum = (c.isUpper || c.isLower || c.isDigit) := rfl
  rw [halphanum, Bool.or_assoc, show (c.isLower || c.isDigit) = true from hc, Bool.or_true]

theorem isWordChar_of_isPlainChar (hc : isPlainChar c = true) : Term.isWordChar c = true := by
  rw [Term.isWordChar, isAlphanum_of_isPlainChar hc, Bool.true_or]

theorem inert_of_isPlainChar (hc : isPlainChar c = true) : Inert c := by
  have hall : ∀ n < 0x80, isPlainChar (Char.ofNat n) = true →
      Char.ofNat n ≠ '\\' ∧ (Char.ofNat n).isUpper = false := by decide
  have hlt := toNat_lt_of_isAlphanum (isAlphanum_of_isPlainChar hc)
  have hcode := hall c.toNat hlt
  rw [Char.ofNat_toNat] at hcode
  exact .of_ascii hlt (hcode hc).1 (hcode hc).2

end PlainChars

section Join

variable {words : List Text} {c : Char}

theorem mem_join (h : c ∈ Text.join [' '] words) : c = ' ' ∨ ∃ word ∈ words, c ∈ word := by
  induction words with
  | nil => exact nomatch h
  | cons word words ih =>
    cases words with
    | nil => exact .inr ⟨word, .head _, by simpa [Text.join] using h⟩
    | cons next words =>
      rw [Text.join, List.intercalate_cons_cons, List.mem_append, List.mem_append] at h
      obtain (h | h) | h := h
      · exact .inr ⟨word, .head _, h⟩
      · exact .inl (List.mem_singleton.mp h)
      · exact (ih h).imp_right (Exists.imp fun _ => And.imp_left (.tail word))

theorem exists_join_eq_word_append (hne : words ≠ []) :
    ∃ word ∈ words, ∃ t, Text.join [' '] words = word ++ t := by
  obtain ⟨word, words, rfl⟩ := List.exists_cons_of_ne_nil hne
  refine ⟨word, .head _, ?_⟩
  cases words with
  | nil => exact ⟨[], by simp [Text.join]⟩
  | cons next words => exact ⟨_, by rw [Text.join, List.intercalate_cons_cons, List.append_assoc]⟩

theorem exists_join_eq_append_word (hne : words ≠ []) :
    ∃ word ∈ words, ∃ t, Text.join [' '] words = t ++ word := by
  induction words with
  | nil => exact absurd rfl hne
  | cons word words ih =>
    cases words with
    | nil => exact ⟨word, .head _, [], by simp [Text.join]⟩
    | cons next words =>
      obtain ⟨last, hlast, t, ht⟩ := ih (List.cons_ne_nil next words)
      refine ⟨last, .tail _ hlast, word ++ [' '] ++ t, ?_⟩
      rw [List.append_assoc, ← ht]
      exact List.intercalate_cons_cons

end Join

namespace PlainWords

variable {words : List Text} {word : Text} {c : Char}

theorem isPlainChar_of_mem (h : PlainWords words) (hword : word ∈ words) (hc : c ∈ word) :
    isPlainChar c = true :=
  List.all_eq_true.mp (h.plain word hword) c hc

theorem inert_of_mem (h : PlainWords words) : ∀ c ∈ Text.join [' '] words, Inert c := by
  intro c hc
  obtain rfl | ⟨word, hword, hc⟩ := mem_join hc
  · exact inert_space
  · exact inert_of_isPlainChar (h.isPlainChar_of_mem hword hc)

theorem normalize_join (h : PlainWords words) :
    normalize (Text.join [' '] words) = Text.join [' '] words :=
  Inert.normalize_eq_self h.inert_of_mem

theorem not_mem_join (h : PlainWords words) (hspace : c ≠ ' ') (hc : c.isAlphanum = false) :
    c ∉ Text.join [' '] words := by
  intro hm
  obtain rfl | ⟨word, hword, hm⟩ := mem_join hm
  · exact hspace rfl
  · rw [isAlphanum_of_isPlainChar (h.isPlainChar_of_mem hword hm)] at hc
    exact nomatch hc

theorem space_mem_join_iff (h : PlainWords words) :
    ' ' ∈ Text.join [' '] words ↔ 1 < words.length := by
  match words, h with
  | [word], h =>
    have hnot : ' ' ∉ word := fun hm =>
      absurd (h.isPlainChar_of_mem (.head _) hm) (by decide)
    simpa [Text.join] using hnot
  | word :: next :: words, _ => simp [Text.join]

theorem isWildcard_of_mem (h : PlainWords words) :
    ∀ c ∈ Text.join [' '] words, isWildcard c = false := by
  intro c hc
  by_contra hwild
  simp only [isWildcard, Bool.not_eq_false, Bool.or_eq_true, beq_iff_eq] at hwild
  obtain (rfl | rfl) | rfl := hwild
  all_goals exact h.not_mem_join (by decide) (by decide) hc

theorem any_isWordChar_head? (h : PlainWords words) :
    (Text.join [' '] words).head?.any Term.isWordChar = true := by
  obtain ⟨word, hword, t, ht⟩ := exists_join_eq_word_append h.ne_nil
  obtain ⟨c, word', rfl⟩ := List.exists_cons_of_ne_nil (h.word_ne_nil word hword)
  rw [ht]
  exact isWordChar_of_isPlainChar (h.isPlainChar_of_mem hword (.head word'))

theorem any_isWordChar_getLast? (h : PlainWords words) :
    (Text.join [' '] words).getLast?.any Term.isWordChar = true := by
  obtain ⟨word, hword, t, ht⟩ := exists_join_eq_append_word h.ne_nil
  have hne := h.word_ne_nil word hword
  rw [ht, List.getLast?_append_of_ne_nil _ hne, List.getLast?_eq_some_getLast hne]
  exact isWordChar_of_isPlainChar (h.isPlainChar_of_mem hword (List.getLast_mem hne))

end PlainWords
end ExcerptSearch
