import ExcerptSearch.Proofs.Unicode.CanonicalOrder
import ExcerptSearch.Proofs.Unicode.Lower
import ExcerptSearch.Query.Normalize

namespace ExcerptSearch.Query

open Unicode

variable {c d : Char} {s t : Text}

section Plain

def Plain (c : Char) : Prop :=
  c ≠ '\\' ∧ isDiacritic c = false

def PlainRun (lo hi : Nat) : Prop :=
  (hi < 0x5c ∨ 0x5c < lo) ∧ (hi < 0x0300 ∨ 0x036f < lo)

instance (lo hi : Nat) : Decidable (PlainRun lo hi) :=
  inferInstanceAs (Decidable (_ ∧ _))

theorem not_isDiacritic_iff : isDiacritic c = false ↔ c.toNat < 0x0300 ∨ 0x036f < c.toNat := by
  simp only [isDiacritic, Bool.and_eq_false_iff, decide_eq_false_iff_not]
  omega

theorem PlainRun.plain {lo hi : Nat} (h : PlainRun lo hi) (hlo : lo ≤ c.toNat)
    (hhi : c.toNat ≤ hi) : Plain c := by
  obtain ⟨hslash, hmark⟩ := h
  constructor
  · rintro rfl
    have hcode : '\\'.toNat = 0x5c := rfl
    omega
  · rw [not_isDiacritic_iff]
    omega

theorem lowerRows_plain : ∀ row ∈ lowerRows, RowRuns PlainRun row := by
  decide +kernel

theorem eq_or_plain_of_lower (h : lower c = [d]) : d = c ∨ Plain c ∧ Plain d := by
  obtain hlow | ⟨row, hrow, l, hm, hl⟩ | rfl := lower_cases c
  · rw [hlow.lower_eq] at h
    exact .inl (List.singleton_inj.mp h).symm
  · rw [hl] at h
    rw [← List.singleton_inj.mp h]
    exact .inr ((lowerRows_plain row hrow).of_moves PlainRun.plain hm)
  · have hdot : lower 'İ' = ['i', Char.ofNat 0x0307] := if_pos rfl
    rw [hdot] at h
    exact nomatch h

theorem slash_iff_of_lower (h : lower c = [d]) : d = '\\' ↔ c = '\\' := by
  obtain rfl | ⟨hc, hd⟩ := eq_or_plain_of_lower h
  · rfl
  · exact iff_of_false hd.1 hc.1

theorem lower_ascii (hc : c.toNat < 0x80) :
    (∀ d ∈ lower c, d.toNat < 0x80) ∧ (c.isUpper = false → lower c = [c]) := by
  have hall : ∀ n < 0x80, (lower (Char.ofNat n)).all (·.toNat < 0x80) = true ∧
      ((Char.ofNat n).isUpper = false → lower (Char.ofNat n) = [Char.ofNat n]) := by
    decide +kernel
  have hcode := hall c.toNat hc
  rw [Char.ofNat_toNat] at hcode
  exact ⟨by simpa using hcode.1, hcode.2⟩

theorem lower_slash : lower '\\' = ['\\'] :=
  (lower_ascii (by decide)).2 rfl

theorem combiningClass_ascii (hc : c.toNat < 0x80) : combiningClass c = 0 := by
  have hall : ∀ n < 0x80, combiningClass (Char.ofNat n) = 0 := by decide +kernel
  have hcode := hall c.toNat hc
  rwa [Char.ofNat_toNat] at hcode

theorem combiningClass_slash : combiningClass '\\' = 0 :=
  combiningClass_ascii (by decide)

theorem decompose_slash : decompose '\\' = ['\\'] :=
  (final_of_lt (by decide)).decompose_eq

theorem decompositions_no_slash : ∀ row ∈ decompositions, 0x5c ∉ row.2 := by
  decide +kernel

theorem eq_slash_of_mem_decompose (h : '\\' ∈ decompose c) : c = '\\' :=
  (eq_of_mem_decompose (d := '\\') (by decide) (by decide) decompositions_no_slash h).symm

end Plain

section Lowered

theorem lowered_escape : lowered ('\\' :: c :: t) = '\\' :: c :: lowered t :=
  rfl

theorem lowered_slash : lowered ['\\'] = ['\\'] := by
  rw [lowered, lower_slash]
  · rfl
  · exact fun _ _ _ h => nomatch h

theorem lowered_cons (hc : c ≠ '\\') : lowered (c :: t) = lower c ++ lowered t := by
  rw [lowered]
  exact fun _ _ h _ => hc h

theorem lowered_induction {P : Text → Prop} (hnil : P []) (hslash : P ['\\'])
    (hescape : ∀ c t, P t → P ('\\' :: c :: t)) (hcons : ∀ c t, c ≠ '\\' → P t → P (c :: t))
    (t : Text) : P t := by
  fun_induction lowered t with
  | case1 => exact hnil
  | case2 c t ih => exact hescape c t ih
  | case3 c t hpair ih =>
    by_cases hc : c = '\\'
    case pos =>
      cases t with
      | nil => exact hc ▸ hslash
      | cons d t => exact (hpair d t hc rfl).elim
    case neg => exact hcons c t hc ih

theorem lowered_append (hs : '\\' ∉ s) : lowered (s ++ t) = s.flatMap lower ++ lowered t := by
  induction s with
  | nil => rfl
  | cons c s ih =>
    rw [List.mem_cons, not_or] at hs
    rw [List.cons_append, lowered_cons (Ne.symm hs.1), ih hs.2, List.flatMap_cons,
      List.append_assoc]

theorem lowered_append_of_low (hs : '\\' ∉ s) (hlow : ∀ c ∈ s, lower c = [c]) :
    lowered (s ++ t) = s ++ lowered t := by
  rw [lowered_append hs, flatMap_lower_eq_self hlow]

theorem slash_not_mem_tail : '\\' ∉ (decompose c).tail := by
  intro h
  have hc : c = '\\' := eq_slash_of_mem_decompose (List.mem_of_mem_tail h)
  rw [hc, decompose_slash] at h
  exact nomatch h

-- An escaped character that decomposes leaves its marks behind, but these have no case to lose. So
-- it is, too, if some of what it decomposes to is left out, but not all of it.
theorem lowered_escape_append {u : Text} (hu : u.Sublist (decompose c)) (hne : u ≠ []) :
    lowered ('\\' :: (u ++ t)) = '\\' :: (u ++ lowered t) := by
  obtain ⟨d, ds, rfl⟩ := List.exists_cons_of_ne_nil hne
  have htail : ∀ e ∈ ds, e ∈ (decompose c).tail := fun e he => hu.tail.subset he
  have hslash : '\\' ∉ ds := fun h => slash_not_mem_tail (htail _ h)
  have hlow : ∀ e ∈ ds, lower e = [e] := fun e he => lower_of_mem_tail (htail e he)
  rw [List.cons_append, lowered_escape, lowered_append_of_low hslash hlow]
  rfl

theorem lowered_escape_decompose :
    lowered ('\\' :: (decompose c ++ t)) = '\\' :: (decompose c ++ lowered t) :=
  lowered_escape_append (.refl _) (decompose_ne_nil c)

theorem flatMap_decompose_lowered (t : Text) :
    (lowered t).flatMap decompose = lowered (t.flatMap decompose) := by
  induction t using lowered_induction with
  | hnil => rfl
  | hslash =>
    rw [lowered_slash, List.flatMap_singleton, decompose_slash, lowered_slash]
  | hescape c t ih =>
    rw [lowered_escape, List.flatMap_cons, List.flatMap_cons, List.flatMap_cons, List.flatMap_cons,
      decompose_slash, ih, List.singleton_append, List.singleton_append, lowered_escape_decompose]
  | hcons c t hc ih =>
    have hslash : '\\' ∉ decompose c := fun h => hc (eq_slash_of_mem_decompose h)
    rw [lowered_cons hc, List.flatMap_append, List.flatMap_cons, ih, flatMap_decompose_lower,
      lowered_append hslash]

end Lowered

def Decomposed (t : Text) : Prop :=
  ∀ c ∈ t, decompose c = [c]

theorem decomposed_cons : Decomposed (c :: t) ↔ decompose c = [c] ∧ Decomposed t :=
  List.forall_mem_cons

theorem decomposed_flatMap (t : Text) : Decomposed (t.flatMap decompose) := by
  intro d hd
  obtain ⟨c, -, hd⟩ := List.mem_flatMap.mp hd
  exact decompose_of_mem hd

theorem Decomposed.canonicalOrder (h : Decomposed t) : Decomposed (canonicalOrder t) :=
  fun c hc => h c ((canonicalOrder_perm t).mem_iff.mp hc)

section Reordering

theorem mayFollow_head?_lowered (ht : Decomposed t) :
    (∀ e ∈ (lowered t).head?, MayFollow c e) ↔ ∀ e ∈ t.head?, MayFollow c e := by
  cases t with
  | nil => rfl
  | cons d t =>
    by_cases hd : d = '\\'
    case pos =>
      subst hd
      cases t with
      | nil => rw [lowered_slash]
      | cons e t => rfl
    case neg =>
      have ⟨e, he⟩ := exists_recased (decomposed_cons.mp ht).1
      rw [lowered_cons hd, he.lower_left]
      simp [MayFollow, he.class_eq]

theorem mayFollow_iff_of_recased {e : Char} (h : Recased c d) : MayFollow d e ↔ MayFollow c e := by
  unfold MayFollow
  rw [h.class_eq]

theorem lowered_mark (hc : decompose c = [c]) (hmark : combiningClass c ≠ 0) :
    lowered (c :: t) = c :: lowered t := by
  have hslash : c ≠ '\\' := by
    rintro rfl
    exact hmark combiningClass_slash
  have ⟨d, hd⟩ := exists_recased hc
  rw [lowered_cons hslash, hd.lower_left, hd.mark hmark]
  rfl

theorem lowered_insertMark (h : Recased c d) (hc : c ≠ '\\') (ht : Decomposed t) :
    lowered (insertMark c t) = insertMark d (lowered t) := by
  induction t with
  | nil =>
    rw [insertMark, lowered_cons hc, h.lower_left]
    rfl
  | cons e t ih =>
    obtain ⟨he, ht'⟩ := decomposed_cons.mp ht
    by_cases hce : MayFollow c e
    case pos =>
      have hhead : ∀ x ∈ (lowered (e :: t)).head?, MayFollow d x := by
        simp only [mayFollow_iff_of_recased h, mayFollow_head?_lowered ht]
        simpa using hce
      rw [insertMark_of_mayFollow (by simpa using hce), insertMark_of_mayFollow hhead,
        lowered_cons hc, h.lower_left]
      rfl
    case neg =>
      have hde : ¬MayFollow d e := (mayFollow_iff_of_recased h).not.mpr hce
      have hmark : combiningClass e ≠ 0 := fun h => hce (.inl h)
      rw [insertMark_of_not_mayFollow hce, lowered_mark he hmark, ih ht', lowered_mark he hmark,
        insertMark_of_not_mayFollow hde]

-- Behind a backslash a character is put before the same marks, and keeps its case. Where it passes
-- a mark it is a mark itself, so another one may well be kept in its place.
theorem lowered_escape_insertMark (hc : decompose c = [c]) (ht : Decomposed t) :
    lowered ('\\' :: insertMark c t) = '\\' :: insertMark c (lowered t) := by
  cases t with
  | nil => rfl
  | cons e t =>
    have ⟨he, ht'⟩ := decomposed_cons.mp ht
    by_cases hce : MayFollow c e
    case pos =>
      have hhead : ∀ x ∈ (lowered (e :: t)).head?, MayFollow c x :=
        (mayFollow_head?_lowered ht).mpr (by simpa using hce)
      rw [insertMark_of_mayFollow (by simpa using hce), insertMark_of_mayFollow hhead,
        lowered_escape]
    case neg =>
      have hmark : combiningClass e ≠ 0 := fun h => hce (.inl h)
      have hmark' : combiningClass c ≠ 0 := by
        unfold MayFollow at hce
        omega
      have hslash : c ≠ '\\' := by
        rintro rfl
        exact hmark' combiningClass_slash
      have ⟨d, hd⟩ := exists_recased hc
      obtain rfl := hd.mark hmark'
      rw [insertMark_of_not_mayFollow hce, lowered_escape, lowered_insertMark hd hslash ht',
        lowered_mark he hmark, insertMark_of_not_mayFollow hce]

theorem canonicalOrder_lowered (ht : Decomposed t) :
    canonicalOrder (lowered t) = lowered (canonicalOrder t) := by
  induction t using lowered_induction with
  | hnil => rfl
  | hslash =>
    rw [lowered_slash, canonicalOrder_eq_self (.singleton _), lowered_slash]
  | hescape c t ih =>
    have ⟨_, ht⟩ := decomposed_cons.mp ht
    have ⟨hc, ht⟩ := decomposed_cons.mp ht
    rw [lowered_escape]
    simp only [canonicalOrder_cons, insertMark_of_class_zero combiningClass_slash]
    rw [lowered_escape_insertMark hc ht.canonicalOrder, ih ht]
  | hcons c t hslash ih =>
    have ⟨hc, ht⟩ := decomposed_cons.mp ht
    have ⟨d, hd⟩ := exists_recased hc
    rw [lowered_cons hslash, hd.lower_left, List.singleton_append, canonicalOrder_cons,
      canonicalOrder_cons, ih ht, lowered_insertMark hd hslash ht.canonicalOrder]

end Reordering

section Ascii

theorem lowered_ascii (ht : ∀ c ∈ t, c.toNat < 0x80) : ∀ c ∈ lowered t, c.toNat < 0x80 := by
  induction t using lowered_induction with
  | hnil => exact ht
  | hslash => rwa [lowered_slash]
  | hescape c t ih =>
    obtain ⟨hslash, ht⟩ := List.forall_mem_cons.mp ht
    obtain ⟨hc, ht⟩ := List.forall_mem_cons.mp ht
    rw [lowered_escape]
    exact List.forall_mem_cons.mpr ⟨hslash, List.forall_mem_cons.mpr ⟨hc, ih ht⟩⟩
  | hcons c t hslash ih =>
    obtain ⟨hc, ht⟩ := List.forall_mem_cons.mp ht
    rw [lowered_cons hslash]
    exact List.forall_mem_append.mpr ⟨(lower_ascii hc).1, ih ht⟩

theorem stripDiacritics_ascii (ht : ∀ c ∈ t, c.toNat < 0x80) : stripDiacritics t = t := by
  induction t with
  | nil => rfl
  | cons c t ih =>
    obtain ⟨hc, ht⟩ := List.forall_mem_cons.mp ht
    have hplain : isDiacritic c = false := not_isDiacritic_iff.mpr (.inl (by omega))
    have hrest := ih ht
    rw [stripDiacritics, nfd] at hrest ⊢
    rw [List.flatMap_cons, (final_of_lt hc).decompose_eq, List.singleton_append,
      canonicalOrder_cons, insertMark_of_class_zero (combiningClass_ascii hc),
      List.filter_cons_of_pos (by rw [hplain]; rfl), hrest]

theorem normalize_ascii (ht : t.all (·.toNat < 0x80) = true) : normalize t = lowered t :=
  stripDiacritics_ascii (lowered_ascii (by simpa using ht))

-- Here the table of decompositions is read for other texts only, so fixed texts are normalized
-- without setting up all of it.
def quickNormalize (t : Text) : Text :=
  if t.all (·.toNat < 0x80) then lowered t else normalize t

theorem normalize_eq_quickNormalize : normalize = quickNormalize := by
  funext t
  rw [quickNormalize]
  split
  case isTrue h => exact normalize_ascii h
  case isFalse => rfl

end Ascii

theorem nfd_lowered (t : Text) : nfd (lowered t) = lowered (nfd t) := by
  rw [nfd, flatMap_decompose_lowered, canonicalOrder_lowered (decomposed_flatMap t)]
  rfl

theorem normalize_eq (t : Text) : normalize t = (lowered (nfd t)).filter (!isDiacritic ·) := by
  rw [normalize, stripDiacritics, nfd_lowered]

-- Texts with one canonical decomposition are one query, whatever their letters, precomposed or not,
-- and whatever their backslashes keep.
theorem normalize_eq_of_nfd_eq (h : nfd s = nfd t) : normalize s = normalize t := by
  rw [normalize_eq, normalize_eq, h]

theorem normalize_eq_of_nfd_eq_escaped :
    nfd ['\\', 'É', 'Ậ'] = nfd ['\\', 'E', '\u0301', 'A', '\u0302', '\u0323'] ∧
    normalize ['\\', 'É', 'Ậ'] = normalize ['\\', 'E', '\u0301', 'A', '\u0302', '\u0323'] := by
  have h : nfd ['\\', 'É', 'Ậ'] = nfd ['\\', 'E', '\u0301', 'A', '\u0302', '\u0323'] := by
    decide +kernel
  exact ⟨h, normalize_eq_of_nfd_eq h⟩

end ExcerptSearch.Query
