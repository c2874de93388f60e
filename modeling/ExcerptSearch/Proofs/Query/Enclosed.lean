import ExcerptSearch.Proofs.Query.Sides

namespace ExcerptSearch

namespace Query

variable {c o q : Char} {t : Text}

theorem ne_of_isFieldMark (h : isFieldMark c = true) : c ≠ '`' ∧ c ≠ '"' ∧ c ≠ '/' ∧
    isEdge c = false ∧ c.isDigit = false ∧ Term.metadataMarks.contains c = false := by
  simp only [isFieldMark, isEscapedDelimiter, isAngle, Bool.or_eq_true, beq_iff_eq] at h
  obtain ((((rfl | rfl) | rfl) | rfl) | rfl) | rfl | rfl := h
  all_goals decide

theorem unmarked_of_ends (hfirst : ∀ c ∈ t.head?, isFieldMark c = false)
    (hlast : ∀ c ∈ t.getLast?, isFieldMark c = false) : unmarked t = t := by
  rw [unmarked, dropWhile_of_stop hfirst, dropEndWhile_of_stop hlast]

theorem unmarked_enclosed (ho : isFieldMark o = true) (hq : isFieldMark q = true) (hne : t ≠ [])
    (hfirst : ∀ c ∈ t.head?, isFieldMark c = false)
    (hlast : ∀ c ∈ t.getLast?, isFieldMark c = false) : unmarked (o :: (t ++ [q])) = t :=
  @dropEndWhile_dropWhile_append [o] t isFieldMark [q] (by simpa) (by simpa) hne hfirst hlast

end Query

namespace Term

open Query

variable {o q : Char} {t : Text}

-- A text that is looked for character by character. It is no raw term, no number and no tag on a
-- side, and its ends do not say how it is bounded.
structure Verbatim (t : Text) : Prop where
  notNumber   : t.all Char.isDigit = false
  first       : ∀ c ∈ t.head?, c ≠ '`' ∧ c ≠ '"' ∧ isEdge c = false
  last        : ∀ c ∈ t.getLast?, c ≠ '"' ∧ isEdge c = false
  notQuestion : ¬[']', '/', '/'] <:+ t
  notAnswer   : ¬['/', '/', '['] <+: t

namespace Verbatim

theorem element_eq (h : Verbatim t) : element (quoteNumber t) = (t, .any) := by
  have hnumber : quoteNumber t = t := by simp [quoteNumber, h.notNumber]
  have hquestion : questionSide t = (t, .any) := by simp [questionSide, h.notQuestion]
  have hanswer : answerSide t = (t, .any) := by simp [answerSide, h.notAnswer]
  simp [hnumber, element, hquestion, hanswer, TagScope.restrict]

theorem plainSource_eq (h : Verbatim t) : plainSource t = expandWildcards t := by
  have hdollar : ∀ c, isEdge c = false → c ≠ '$' := by
    rintro c hc rfl
    exact nomatch hc
  rw [plainSource, h.element_eq, quotesToBoundaries_of_ends]
  · exact fun c hc => ⟨(h.first c hc).2.1, hdollar c (h.first c hc).2.2⟩
  · exact fun c hc => ⟨(h.last c hc).1, hdollar c (h.last c hc).2⟩

theorem bounded_eq (h : Verbatim t) : bounded t = t :=
  bounded_of_ends (fun c hc => (h.first c hc).2.2) fun c hc => (h.last c hc).2

theorem exists_ofText (h : Verbatim t) : ∃ s, ofText t = .ok s ∧
    s.emphasis = if looksAtMetadata t || (unmarked t).all isWildcard then none
      else some ((unmarked t).flatMap emphasisPattern) := by
  have hraw : t.head? ≠ some '`' := fun hhead => (h.first _ hhead).1 rfl
  have ⟨p, _, hs⟩ := exists_ofText_plain hraw
  refine ⟨_, hs, ?_⟩
  simp only [h.plainSource_eq, emphasis?_expandWildcards, h.bounded_eq]
  cases looksAtMetadata t <;> rfl

theorem enclosed (ho : isFieldMark o = true) (hq : isFieldMark q = true) :
    Verbatim (o :: (t ++ [q])) where
  notNumber := by
    have ⟨_, _, _, _, hdigit, _⟩ := ne_of_isFieldMark ho
    simp [hdigit]
  first := by
    intro c hc
    obtain rfl := Option.some.inj hc
    have ⟨hraw, hquote, _, hedge, _⟩ := ne_of_isFieldMark ho
    exact ⟨hraw, hquote, hedge⟩
  last := by
    intro c hc
    rw [← List.cons_append, List.getLast?_concat] at hc
    obtain rfl := Option.some.inj hc
    have ⟨_, hquote, _, hedge, _⟩ := ne_of_isFieldMark hq
    exact ⟨hquote, hedge⟩
  notQuestion := by
    intro ⟨u, hu⟩
    have hlast := congrArg List.getLast? hu
    rw [← List.cons_append, List.getLast?_concat,
      List.getLast?_append_of_ne_nil _ (List.cons_ne_nil _ _)] at hlast
    exact (ne_of_isFieldMark hq).2.2.1 (Option.some.inj hlast).symm
  notAnswer := by
    intro ⟨u, hu⟩
    exact (ne_of_isFieldMark ho).2.2.1 (List.cons.inj hu).1.symm

end Verbatim

theorem looksAtMetadata_enclosed (ho : isFieldMark o = true) (hq : isFieldMark q = true) :
    looksAtMetadata (o :: (t ++ [q])) = looksAtMetadata t := by
  have ⟨_, _, _, _, _, hfirst⟩ := ne_of_isFieldMark ho
  have ⟨_, _, _, _, _, hlast⟩ := ne_of_isFieldMark hq
  simp only [looksAtMetadata, List.any_cons, List.any_append, List.any_nil, hfirst, hlast,
    Bool.or_false, Bool.false_or]

-- What would be taken for more than a character of the text at one of its ends, besides brackets:
-- it delimits a field, says how the term is bounded, or quotes it.
def endSigns : Text :=
  ['{', '}', '<', '>', '^', '$', '*', '"']

theorem not_isFieldMark_of_end {e : Option Char} (hopen : '[' ∉ t) (hclose : ']' ∉ t)
    (he : ∀ c ∈ e, c ∈ t) (hsigns : ∀ c ∈ e, c ∉ endSigns) :
    ∀ c ∈ e, isFieldMark c = false ∧ c ≠ '"' ∧ isEdge c = false := by
  intro c hc
  have hopen' : c ≠ '[' := ne_of_mem_of_not_mem (he c hc) hopen
  have hclose' : c ≠ ']' := ne_of_mem_of_not_mem (he c hc) hclose
  have hsigns' := hsigns c hc
  simp_all [endSigns, isFieldMark, isEscapedDelimiter, isAngle, isEdge]

def markedBy (t : Text) : Option Text :=
  if looksAtMetadata t || t.all isWildcard then none else some (t.flatMap emphasisPattern)

theorem markedBy_eq_none_iff :
    markedBy t = none ↔ looksAtMetadata t = true ∨ t.all isWildcard = true := by
  rw [← Bool.or_eq_true, markedBy]
  split
  case isTrue h => exact iff_of_true rfl h
  case isFalse h => exact iff_of_false nofun h

theorem exists_ofText_enclosed (ho : isFieldMark o = true) (hq : isFieldMark q = true)
    (hne : t ≠ []) (hfirst : ∀ c ∈ t.head?, isFieldMark c = false)
    (hlast : ∀ c ∈ t.getLast?, isFieldMark c = false) :
    ∃ s, ofText (o :: (t ++ [q])) = .ok s ∧ s.emphasis = markedBy t := by
  have ⟨s, hs, hemphasis⟩ := (@Verbatim.enclosed o q t ho hq).exists_ofText
  rw [unmarked_enclosed ho hq hne hfirst hlast, looksAtMetadata_enclosed ho hq] at hemphasis
  exact ⟨s, hs, hemphasis⟩

-- A term in the delimiters of a field marks what it marks without them. That is nothing if it looks
-- at metadata or has only wildcards, and else it is something.
theorem ofText_enclosed (hopen : '[' ∉ t) (hclose : ']' ∉ t) (hdigits : t.all Char.isDigit = false)
    (hfirst : ∀ c ∈ t.head?, c ∉ endSigns ∧ c ≠ '`') (hlast : ∀ c ∈ t.getLast?, c ∉ endSigns) :
    ∃ s, ofText t = .ok s ∧
      (s.emphasis = none ↔ looksAtMetadata t = true ∨ t.all isWildcard = true) ∧
      ∀ field ∈ ['[' :: (t ++ [']']), '{' :: (t ++ ['}']), '<' :: (t ++ ['>']),
          '^' :: (t ++ ['^'])],
        ∃ f, ofText field = .ok f ∧ f.emphasis = s.emphasis := by
  have hne : t ≠ [] := by
    rintro rfl
    exact nomatch hdigits
  have hstart := not_isFieldMark_of_end hopen hclose (fun _ => List.mem_of_mem_head?)
    fun c hc => (hfirst c hc).1
  have hstop := not_isFieldMark_of_end hopen hclose (fun _ => List.mem_of_mem_getLast?) hlast
  have hverbatim : Verbatim t :=
    { notNumber   := hdigits
      first       := fun c hc => ⟨(hfirst c hc).2, (hstart c hc).2⟩
      last        := fun c hc => (hstop c hc).2
      notQuestion := fun h => hclose (h.subset (.head _))
      notAnswer   := fun h => hopen (h.subset (by simp)) }
  have ⟨s, hs, hemphasis⟩ := hverbatim.exists_ofText
  rw [unmarked_of_ends (fun c hc => (hstart c hc).1) fun c hc => (hstop c hc).1] at hemphasis
  have hmarked : s.emphasis = markedBy t := hemphasis
  refine ⟨s, hs, hmarked ▸ markedBy_eq_none_iff, fun field hfield => ?_⟩
  have ⟨o, q, ho, hq, hfield⟩ : ∃ o q, isFieldMark o = true ∧ isFieldMark q = true ∧
      field = o :: (t ++ [q]) := by
    simp only [List.mem_cons, List.not_mem_nil, or_false] at hfield
    obtain rfl | rfl | rfl | rfl := hfield
    all_goals exact ⟨_, _, by decide, by decide, rfl⟩
  rw [hfield, hmarked]
  exact exists_ofText_enclosed ho hq hne (fun c hc => (hstart c hc).1) fun c hc => (hstop c hc).1

theorem ofText_enclosed_backslashes :
    '[' ∉ ['\\', '_', '{', 'a', '\\'] ∧ ']' ∉ ['\\', '_', '{', 'a', '\\'] ∧
    ['\\', '_', '{', 'a', '\\'].all Char.isDigit = false ∧
    (∀ c ∈ ['\\', '_', '{', 'a', '\\'].head?, c ∉ endSigns ∧ c ≠ '`') ∧
    (∀ c ∈ ['\\', '_', '{', 'a', '\\'].getLast?, c ∉ endSigns) ∧
    ∃ s f, ofText ['\\', '_', '{', 'a', '\\'] = .ok s ∧ s.emphasis ≠ none ∧
      ofText ['{', '\\', '_', '{', 'a', '\\', '}'] = .ok f ∧ f.emphasis = s.emphasis := by
  have hopen : '[' ∉ ['\\', '_', '{', 'a', '\\'] := by decide
  have hclose : ']' ∉ ['\\', '_', '{', 'a', '\\'] := by decide
  have hdigits : ['\\', '_', '{', 'a', '\\'].all Char.isDigit = false := by decide
  have hfirst : ∀ c ∈ ['\\', '_', '{', 'a', '\\'].head?, c ∉ endSigns ∧ c ≠ '`' := by
    simp [endSigns]
  have hlast : ∀ c ∈ ['\\', '_', '{', 'a', '\\'].getLast?, c ∉ endSigns := by
    simp [endSigns]
  have ⟨s, hs, hnone, hfields⟩ := ofText_enclosed hopen hclose hdigits hfirst hlast
  have hmarks : s.emphasis ≠ none := fun h => absurd (hnone.mp h) (by decide)
  have ⟨f, hf, hsame⟩ := hfields _ (.tail _ (.head _))
  exact ⟨hopen, hclose, hdigits, hfirst, hlast, s, f, hs, hmarks, hf, hsame⟩

end Term
end ExcerptSearch
