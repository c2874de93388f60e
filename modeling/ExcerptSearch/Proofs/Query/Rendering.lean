import ExcerptSearch.Proofs.Query.Errors
import ExcerptSearch.Proofs.Regex.Successive
import ExcerptSearch.Proofs.Unicode.CaseFold
import ExcerptSearch.Proofs.Unicode.Word
import Mathlib.Data.List.Forall2

namespace ExcerptSearch

namespace Query

open Regex Regex.Parser Unicode

variable {c d : Char} {t u u' v v' w w' : Text}

section Displayed

def displayed (c : Char) : Text :=
  match c with
  | 'a'  => ['A', 'ā', 'Ā']
  | 'i'  => ['I', 'ī', 'Ī']
  | 'u'  => ['U', 'ū', 'Ū']
  | 'd'  => ['D', 'ḍ', 'Ḍ']
  | 'l'  => ['L', 'ḷ', 'Ḷ']
  | 't'  => ['T', 'ṭ', 'Ṭ']
  | 'n'  => ['N', 'ñ', 'Ñ', 'ṇ', 'Ṇ', 'ṅ', 'Ṅ']
  | 'm'  => ['M', 'ṁ', 'Ṁ', 'ṃ', 'Ṃ']
  | '\'' => ['‘', '’', '"', '“', '”']
  | c    => if c.isAlpha then [CharSet.otherCase c] else []

-- May `d` be displayed in the place of `c`?
def Renders (c d : Char) : Prop :=
  d = c ∨ d ∈ displayed c

theorem displayed_of_le (hc : 0x80 ≤ c.toNat) : displayed c = [] := by
  fun_cases displayed c
  case case10 h =>
    have halphanum : c.isAlphanum = true := by simp [Char.isAlphanum, h]
    exact absurd (toNat_lt_of_isAlphanum halphanum) (Nat.not_lt_of_le hc)
  case case11 => rfl
  all_goals exact absurd hc (by decide)

-- Only characters in ASCII may be displayed as others: these are few enough to be looked through.
theorem forall_displayed {P : Char → Char → Prop} [DecidableRel P]
    (h : ∀ n < 0x80, (displayed (Char.ofNat n)).all fun d => P (Char.ofNat n) d)
    (hd : d ∈ displayed c) : P c d := by
  by_cases hc : c.toNat < 0x80
  case pos =>
    have hP := h c.toNat hc
    rw [Char.ofNat_toNat] at hP
    exact of_decide_eq_true (List.all_eq_true.mp hP d hd)
  case neg =>
    rw [displayed_of_le (Nat.le_of_not_lt hc)] at hd
    exact nomatch hd

theorem Renders.isWord_eq (h : Renders c d) : isWord d = isWord c := by
  cases h with
  | inl h => rw [h]
  | inr h => exact forall_displayed (P := fun c d => isWord d = isWord c) (by decide +kernel) h

theorem Renders.not_mem_fieldDelimiters (h : Renders c d) (hc : c ∉ fieldDelimiters) :
    d ∉ fieldDelimiters := by
  cases h with
  | inl h => rwa [h]
  | inr h => exact forall_displayed (P := fun _ d => d ∉ fieldDelimiters) (by decide +kernel) h

end Displayed

section Sets

theorem mem_unions_singleton {cs : Text} :
    (CharSet.unions (cs.map .singleton)).mem d = true ↔ d ∈ cs := by
  induction cs with
  | nil => simp [CharSet.unions, CharSet.mem]
  | cons c cs ih =>
    cases cs with
    | nil => simp [CharSet.unions]
    | cons e cs =>
      have hcons : (CharSet.unions ((c :: e :: cs).map .singleton)).mem d =
          ((CharSet.singleton c).mem d || (CharSet.unions ((e :: cs).map .singleton)).mem d) := rfl
      rw [hcons, Bool.or_eq_true, ih, CharSet.mem_singleton, decide_eq_true_iff,
        ← List.mem_cons]

theorem mem_folded {s : CharSet} : (CharSet.folded s).mem d ↔ ∃ e ∈ caseClass d, s.mem e :=
  List.any_eq_true

theorem isSign_of_mem_fieldDelimiters (h : d ∈ fieldDelimiters) : IsSign d.toNat := by
  have hall : (fieldDelimiters.all fun d => IsSign d.toNat) = true := by decide
  exact of_decide_eq_true (List.all_eq_true.mp hall d h)

theorem mem_insideSet_folded : (insideSet (termFlags true)).mem d ↔ d ∉ fieldDelimiters := by
  have hset : (insideSet (termFlags true)).mem d =
      !(CharSet.folded (.unions (fieldDelimiters.map .singleton))).mem d := rfl
  rw [hset, Bool.not_eq_true', ← Bool.not_eq_true, mem_folded]
  simp only [mem_unions_singleton]
  refine not_congr ⟨?mp, ?mpr⟩
  case mp =>
    intro ⟨e, he, hmem⟩
    exact eq_of_mem_caseClass (isSign_of_mem_fieldDelimiters hmem) he ▸ hmem
  case mpr => exact fun hmem => ⟨d, mem_caseClass_self d, hmem⟩

def markedSet (c : Char) : CharSet :=
  .folded (if Escape.isMeta c then .singleton c else .unions ((forms c).map .singleton))

theorem regex_emphasisPiece (hc : isWildcard c = false) :
    (emphasisPiece (termFlags true) c).regex = .set (markedSet c) := by
  unfold emphasisPiece markedSet
  cases hm : Escape.isMeta c with
  | true =>
    simp [charPiece, ne_of_isWildcard hc]
    rfl
  | false =>
    simp only [hc, Bool.or_self, Bool.false_eq_true, if_false]
    unfold formsPiece
    split
    case h_1 hforms =>
      rw [hforms]
      rfl
    case h_2 => rfl

theorem mem_forms_self (hc : Escape.isMeta c = false) : c ∈ forms c := by
  unfold forms
  fun_cases variants c
  case case10 =>
    split
    case h_1 h =>
      obtain ⟨rfl, -⟩ := List.cons.inj h
      exact absurd hc (by decide)
    case h_2 => exact .head _
  all_goals decide

theorem Renders.mem_markedSet (h : Renders c d) : (markedSet c).mem d := by
  cases h with
  | inl h =>
    rw [h, markedSet, mem_folded]
    refine ⟨c, mem_caseClass_self c, ?_⟩
    split
    case isTrue => simp
    case isFalse hm => exact mem_unions_singleton.mpr (mem_forms_self (by simpa using hm))
  | inr h => exact forall_displayed (P := fun c d => (markedSet c).mem d) (by decide +kernel) h

end Sets

section Transport

theorem any_isWord_head? (h : List.Forall₂ Renders w w') :
    w'.head?.any isWord = w.head?.any isWord := by
  cases h with
  | nil => rfl
  | cons hd _ => simp [hd.isWord_eq]

theorem any_isWord_getLast? (h : List.Forall₂ Renders u u') :
    u'.getLast?.any isWord = u.getLast?.any isWord := by
  rw [List.getLast?_eq_head?_reverse, List.getLast?_eq_head?_reverse]
  exact any_isWord_head? (List.forall₂_reverse_iff.mpr h)

theorem wordBorder_iff (hu : List.Forall₂ Renders u u') (hw : List.Forall₂ Renders w w') :
    WordBorder u' w' ↔ WordBorder u w := by
  unfold WordBorder
  rw [any_isWord_getLast? hu, any_isWord_head? hw]

theorem exists_append_of_forall₂ {d : Text} (h : List.Forall₂ Renders (u ++ v) d) :
    ∃ u' v', d = u' ++ v' ∧ List.Forall₂ Renders u u' ∧ List.Forall₂ Renders v v' := by
  induction u generalizing d with
  | nil => exact ⟨[], d, rfl, .nil, h⟩
  | cons c u ih =>
    cases h with
    | cons hc h =>
      have ⟨u', v', hd, hu, hv⟩ := ih h
      exact ⟨_ :: u', v', by rw [hd, List.cons_append], .cons hc hu, hv⟩

theorem not_mem_fieldDelimiters_of_forall₂ (h : List.Forall₂ Renders v v')
    (hv : ∀ c ∈ v, c ∉ fieldDelimiters) : ∀ d ∈ v', d ∉ fieldDelimiters := by
  induction h with
  | nil => exact fun d hd => nomatch hd
  | cons hc _ ih =>
    rw [List.forall_mem_cons] at hv ⊢
    exact ⟨hc.not_mem_fieldDelimiters hv.1, ih hv.2⟩

def markedSequence (t : Text) : Regex :=
  sequence (t.map (emphasisPiece (termFlags true)))

theorem covers_markedSequence_cons : (markedSequence (c :: t)).Covers u v w ↔
    ∃ v₁ v₂, v = v₁ ++ v₂ ∧ (emphasisPiece (termFlags true) c).regex.Covers u v₁ (v₂ ++ w) ∧
      (markedSequence t).Covers (u ++ v₁) v₂ w :=
  covers_sequence_cons

theorem covers_markedSequence (h : ReadsAs u t v w) (hu : List.Forall₂ Renders u u')
    (hv : List.Forall₂ Renders v v') (hw : List.Forall₂ Renders w w') :
    (markedSequence t).Covers u' v' w' := by
  induction h generalizing u' v' w' with
  | nil =>
    obtain rfl := List.forall₂_nil_left_iff.mp hv
    exact covers_sequence_nil.mpr rfl
  | self hc _ ih =>
    cases hv with
    | @cons _ d _ v' hd hv =>
      refine covers_markedSequence_cons.mpr ⟨[d], v', rfl, ?_, ih ?_ hv hw⟩
      · rw [regex_emphasisPiece hc]
        exact covers_set.mpr ⟨d, rfl, hd.mem_markedSet⟩
      · exact List.rel_append hu (.cons hd .nil)
  | one hd _ ih =>
    cases hv with
    | @cons _ d' _ v' hd' hv =>
      refine covers_markedSequence_cons.mpr ⟨[d'], v', rfl, ?_, ih ?_ hv hw⟩
      · have hmem := mem_insideSet_folded.mpr (hd'.not_mem_fieldDelimiters hd)
        exact covers_set.mpr ⟨d', rfl, hmem⟩
      · exact List.rel_append hu (.cons hd' .nil)
  | run hs _ ih =>
    obtain ⟨s', v', rfl, hs', hv⟩ := exists_append_of_forall₂ hv
    refine covers_markedSequence_cons.mpr ⟨s', v', rfl, ?_, ih ?_ hv hw⟩
    · refine covers_any_number_of_set.mpr fun d hd => mem_insideSet_folded.mpr ?_
      exact not_mem_fieldDelimiters_of_forall₂ hs' hs d hd
    · exact List.rel_append hu hs'
  | border hb _ ih =>
    refine covers_markedSequence_cons.mpr ⟨[], v', rfl, ?_, ?_⟩
    · exact covers_boundary.mpr ⟨rfl, (wordBorder_iff hu (List.rel_append hv hw)).mpr hb⟩
    · rw [List.append_nil]
      exact ih hu hv hw

theorem ne_nil_of_covers_markedSequence (ht : t.all isWildcard = false)
    (h : (markedSequence t).Covers u v w) : v ≠ [] := by
  induction t generalizing u v with
  | nil => exact nomatch ht
  | cons c t ih =>
    obtain ⟨v₁, v₂, rfl, hpiece, hrest⟩ := covers_markedSequence_cons.mp h
    cases hc : isWildcard c with
    | true =>
      have hv₂ : v₂ ≠ [] := ih (by simpa [hc] using ht) hrest
      exact List.append_ne_nil_of_right_ne_nil v₁ hv₂
    | false =>
      rw [regex_emphasisPiece hc] at hpiece
      obtain ⟨d, rfl, -⟩ := covers_set.mp hpiece
      exact List.cons_ne_nil d v₂

end Transport

theorem exists_append_unmarked (t : Text) : ∃ a b, t = a ++ unmarked t ++ b := by
  have ⟨a, ha⟩ := List.dropWhile_suffix isFieldMark (l := t)
  have ⟨b, hb⟩ := List.dropWhile_suffix isFieldMark (l := (t.dropWhile isFieldMark).reverse)
  refine ⟨a, b.reverse, ?_⟩
  have hstart : t.dropWhile isFieldMark = unmarked t ++ b.reverse := by
    rw [unmarked, Text.dropEndWhile, ← List.reverse_append, hb, List.reverse_reverse]
  rw [List.append_assoc, ← hstart, ha]

theorem exists_ofPatterns? (t : Text) :
    ∃ c, Highlighter.ofPatterns? [t.flatMap emphasisPattern] = some ⟨some c⟩ ∧
      c.source = ['(', '?', 'i', ')'] ++ t.flatMap emphasisPattern ∧
      ∀ {u v w}, c.regex.Covers u v w ↔ (markedSequence t).Covers u v w := by
  let pieces (_ : Text) : List Piece := t.map (emphasisPiece (termFlags true))
  have hspells : ∀ e ∈ [t.flatMap emphasisPattern], Spells (termFlags true) e (pieces e) := by
    intro e he
    rw [List.mem_singleton.mp he]
    exact .flatMap fun c _ => spells_emphasisPattern c
  have hdepth : ∀ e ∈ [t.flatMap emphasisPattern], ∀ p ∈ pieces e, p.depth + 2 ≤ maxNesting := by
    intro _ _ p hp
    obtain ⟨c, -, rfl⟩ := List.mem_map.mp hp
    have hc := depth_emphasisPiece_le (termFlags true) c
    exact Nat.le_trans (Nat.add_le_add_right hc 2) (by decide)
  obtain ⟨r, hr, hcovers⟩ := exists_parse?_alternation (List.cons_ne_nil _ _) hspells hdepth
  obtain ⟨c, hc, rfl⟩ := Compiled.exists_ofSource? hr
  refine ⟨c, by simp [Highlighter.ofPatterns?, hc], ?source, ?covers⟩
  case source =>
    rw [Compiled.source_of_ofSource? hc]
    simp [Highlighter.alternation, Text.join]
  case covers => exact hcovers.trans (by simp [pieces, markedSequence])

end Query

namespace Term

open Regex Query

variable {text p : Text} {s : Term}

theorem exists_bounded_of_emphasis (hs : ofText text = .ok s) (hp : s.emphasis = some p) :
    ∃ t : Text, (∀ {u v w}, s.pattern.pattern.regex.Covers u v w ↔ ReadsAs u (bounded t) v w) ∧
      (unmarked (bounded t)).all isWildcard = false ∧
      p = (unmarked (bounded t)).flatMap emphasisPattern := by
  unfold ofText at hs
  split at hs
  case h_1 =>
    -- A raw term marks nothing.
    split at hs
    case h_1 =>
      rw [← Except.ok.inj hs] at hp
      cases hp
    case h_2 => cases hs
  case h_2 =>
    generalize element (quoteNumber text) = e at hs
    obtain ⟨e, scope⟩ := e
    let t := quotesToBoundaries e
    obtain ⟨r, hr, hcovers⟩ := exists_parse?_expandWildcards t
    obtain ⟨c, hc, rfl⟩ := Compiled.exists_ofSource? hr
    have hsource : TermPattern.ofSource? (expandWildcards t) scope = some ⟨c, scope⟩ := by
      simp [TermPattern.ofSource?, hc]
    simp only [t, hsource, emphasis?_expandWildcards] at hs
    rw [← Except.ok.inj hs] at hp ⊢
    refine ⟨t, hcovers, ?_⟩
    dsimp only at hp
    split at hp
    case isTrue => cases hp
    case isFalse =>
      split at hp
      case isTrue => cases hp
      case isFalse hall => exact ⟨by simpa using hall, (Option.some.inj hp).symm⟩

-- Whatever a plain term matches, it marks in the rendered text: every part of a text that its
-- pattern matches has a part that is not empty and is marked wherever the text is displayed. So
-- what is marked in rendered text is never nothing when the term matches underneath.
theorem emphasis_marks_rendered (hs : ofText text = .ok s) (hp : s.emphasis = some p) :
    ∃ c, Highlighter.ofPatterns? [p] = some ⟨some c⟩ ∧ c.source = ['(', '?', 'i', ')'] ++ p ∧
      ∀ h d : Text, List.Forall₂ Renders h d →
        (∀ i j, s.pattern.pattern.regex.Occurs h.toArray i j →
          ∃ k l, i ≤ k ∧ k < l ∧ l ≤ j ∧ c.regex.Occurs d.toArray k l) ∧
        (s.pattern.pattern.isMatch h = true → Highlighter.spans ⟨some c⟩ d ≠ []) := by
  obtain ⟨t, hreads, hplain, rfl⟩ := exists_bounded_of_emphasis hs hp
  obtain ⟨c, hc, hsource, hmarks⟩ := exists_ofPatterns? (unmarked (bounded t))
  have hne : ∀ {u v w}, c.regex.Covers u v w → v ≠ [] := fun hcovers =>
    ne_nil_of_covers_markedSequence hplain (hmarks.mp hcovers)
  refine ⟨c, hc, hsource, fun h d hd => ?_⟩
  have hpart : ∀ i j, s.pattern.pattern.regex.Occurs h.toArray i j →
      ∃ k l, i ≤ k ∧ k < l ∧ l ≤ j ∧ c.regex.Occurs d.toArray k l := by
    intro i j ho
    -- The match is what the field marks at the start read as, a part that is marked, and what the
    -- field marks at the end read as. The rendered text is divided at the same places.
    obtain ⟨u, v, w, rfl, rfl, rfl, hv⟩ := ho.exists_covers
    obtain ⟨a, b, hab⟩ := exists_append_unmarked (bounded t)
    rw [hreads, hab] at hv
    obtain ⟨_, v₃, rfl, hv, -⟩ := readsAs_append.mp hv
    obtain ⟨v₁, v₂, rfl, -, hv⟩ := readsAs_append.mp hv
    simp only [← List.append_assoc] at hd
    obtain ⟨_, w', rfl, hd, hw⟩ := exists_append_of_forall₂ hd
    obtain ⟨_, v₃', rfl, hd, hv₃⟩ := exists_append_of_forall₂ hd
    obtain ⟨u', v₂', rfl, hu, hv₂⟩ := exists_append_of_forall₂ hd
    have hcovers : c.regex.Covers u' v₂' (v₃' ++ w') :=
      hmarks.mpr (covers_markedSequence hv hu hv₂ (List.rel_append hv₃ hw))
    have hmark : c.regex.Occurs (u' ++ v₂' ++ v₃' ++ w').toArray u'.length (u' ++ v₂').length := by
      simpa using hcovers.occurs
    have hstart : (u ++ v₁).length = u'.length := hu.length_eq
    have hlength : v₂.length = v₂'.length := hv₂.length_eq
    refine ⟨_, _, ?_, hmark.lt hne, ?_, hmark⟩
    · simp [← hstart]
    · simp only [List.length_append] at hstart ⊢
      omega
  refine ⟨hpart, fun hmatch => ?_⟩
  obtain ⟨i, j, ho⟩ := Compiled.isMatch_iff_occurs.mp hmatch
  obtain ⟨k, l, -, -, -, hmark⟩ := hpart i j ho
  have hfound := Compiled.findAll_ne_nil (Compiled.isMatch_iff_occurs.mpr ⟨k, l, hmark⟩)
  obtain ⟨m, hm⟩ := List.exists_mem_of_ne_nil _ hfound
  have hlt : m.start < m.stop := (Compiled.occurs_of_mem_findAll hm).lt hne
  have hempty : (!m.isEmpty) = true := by simp [Found.isEmpty, Nat.ne_of_lt hlt]
  exact List.ne_nil_of_mem (List.mem_filter.mpr ⟨hm, hempty⟩)

theorem emphasis_marks_rendered_letters : ∃ s p c,
    ofText ['"', 'n', '_', 'n', 'a'] = .ok s ∧ s.emphasis = some p ∧
    Highlighter.ofPatterns? [p] = some ⟨some c⟩ ∧
    List.Forall₂ Renders ['n', 'a', 'n', 'a'] ['Ñ', 'ā', 'Ṇ', 'Ā'] ∧
    s.pattern.pattern.isMatch ['n', 'a', 'n', 'a'] = true ∧
    Highlighter.spans ⟨some c⟩ ['Ñ', 'ā', 'Ṇ', 'Ā'] ≠ [] := by
  have ⟨s, hs, _⟩ : ∃ s, ofText ['"', 'n', '_', 'n', 'a'] = .ok s ∧ _ :=
    exists_ofText fun ⟨_, hraw, _⟩ => absurd hraw (by simp)
  have hany : (ofText ['"', 'n', '_', 'n', 'a']).toOption.any (fun s => s.emphasis.isSome &&
      s.pattern.pattern.isMatch ['n', 'a', 'n', 'a']) = true := by decide +kernel
  rw [hs] at hany
  obtain ⟨hsome, hmatch⟩ := Bool.and_eq_true_iff.mp hany
  obtain ⟨p, hp⟩ := Option.isSome_iff_exists.mp hsome
  have hrenders : List.Forall₂ Renders ['n', 'a', 'n', 'a'] ['Ñ', 'ā', 'Ṇ', 'Ā'] := by
    unfold Renders
    decide
  obtain ⟨c, hc, -, hrendered⟩ := emphasis_marks_rendered hs hp
  exact ⟨s, p, c, hs, hp, hc, hrenders, hmatch, (hrendered _ _ hrenders).2 hmatch⟩

end Term
end ExcerptSearch
