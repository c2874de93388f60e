import ExcerptSearch.Proofs.Query.Renormalize

namespace ExcerptSearch

namespace Unicode

variable {c d : Char} {s t : Text}

theorem insertMark_append (hd : combiningClass d = 0) :
    insertMark c (s ++ d :: t) = insertMark c s ++ d :: t := by
  induction s with
  | nil => exact insertMark_of_mayFollow fun e he => .inl (Option.some.inj he ▸ hd)
  | cons e s ih =>
    by_cases he : MayFollow c e
    case pos =>
      rw [List.cons_append, insertMark_of_mayFollow (by simpa using he),
        insertMark_of_mayFollow (by simpa using he), List.cons_append, List.cons_append]
    case neg =>
      rw [List.cons_append, insertMark_of_not_mayFollow he, insertMark_of_not_mayFollow he, ih,
        List.cons_append]

theorem canonicalOrder_concat (hd : combiningClass d = 0) (t : Text) :
    canonicalOrder (t ++ [d]) = canonicalOrder t ++ [d] := by
  induction t with
  | nil => rfl
  | cons c t ih =>
    rw [List.cons_append, canonicalOrder_cons, ih, insertMark_append hd, canonicalOrder_cons]

end Unicode

namespace Query

open Unicode

variable {c d : Char} {t : Text}

-- A character without case, decomposition and class, and with no other meaning for normalizing.
structure Inert (c : Char) : Prop where
  ne_slash   : c ≠ '\\'
  lower      : lower c = [c]
  decompose  : decompose c = [c]
  class_zero : combiningClass c = 0
  plain      : isDiacritic c = false

theorem Inert.of_ascii (hc : c.toNat < 0x80) (hslash : c ≠ '\\') (hupper : c.isUpper = false) :
    Inert c where
  ne_slash   := hslash
  lower      := (lower_ascii hc).2 hupper
  decompose  := (final_of_lt hc).decompose_eq
  class_zero := combiningClass_ascii hc
  plain      := not_isDiacritic_iff.mpr (.inl (by omega))

theorem inert_space : Inert ' ' :=
  .of_ascii (by decide) (by decide) rfl

theorem inert_quote : Inert '"' :=
  .of_ascii (by decide) (by decide) rfl

namespace Inert

theorem lowered_concat (hc : Inert c) (t : Text) : lowered (t ++ [c]) = lowered t ++ [c] := by
  induction t using lowered_induction with
  | hnil =>
    rw [List.nil_append, lowered_cons hc.ne_slash, hc.lower]
    rfl
  | hslash =>
    rw [lowered_slash]
    rfl
  | hescape d t ih =>
    rw [List.cons_append, List.cons_append, lowered_escape, ih, lowered_escape]
    rfl
  | hcons d t hd ih =>
    rw [List.cons_append, lowered_cons hd, ih, lowered_cons hd, List.append_assoc]

theorem normalize_cons (hc : Inert c) (t : Text) : normalize (c :: t) = c :: normalize t := by
  rw [normalize, lowered_cons hc.ne_slash, hc.lower, stripDiacritics, nfd, List.singleton_append,
    List.flatMap_cons, hc.decompose, List.singleton_append, canonicalOrder_cons,
    insertMark_of_class_zero hc.class_zero]
  exact List.filter_cons_of_pos (by rw [hc.plain]; rfl)

theorem normalize_concat (hc : Inert c) (t : Text) : normalize (t ++ [c]) = normalize t ++ [c] := by
  have hkept : [c].filter (!isDiacritic ·) = [c] := by
    simp [hc.plain]
  rw [normalize, hc.lowered_concat, stripDiacritics, nfd, List.flatMap_append,
    List.flatMap_singleton, hc.decompose, canonicalOrder_concat hc.class_zero, List.filter_append,
    hkept]
  rfl

theorem normalize_eq_self (ht : ∀ c ∈ t, Inert c) : normalize t = t := by
  induction t with
  | nil => rfl
  | cons c t ih =>
    obtain ⟨hc, ht⟩ := List.forall_mem_cons.mp ht
    rw [hc.normalize_cons, ih ht]

end Inert

theorem normalize_eq_self_of_ascii
    (ht : t.all (fun c => c.toNat < 0x80 && c != '\\' && !c.isUpper) = true) :
    normalize t = t := by
  refine Inert.normalize_eq_self fun c hc => ?_
  have hplain := List.all_eq_true.mp ht c hc
  simp only [Bool.and_eq_true, decide_eq_true_eq, bne_iff_ne, Bool.not_eq_true'] at hplain
  exact .of_ascii hplain.1.1 hplain.1.2 hplain.2

section Quotes

theorem lowerRows_no_quote :
    ∀ row ∈ lowerRows, RowRuns (fun lo hi => hi < 0x22 ∨ 0x22 < lo) row := by
  decide +kernel

theorem eq_quote_of_lower (h : lower c = ['"']) : c = '"' := by
  obtain hlow | ⟨row, hrow, l, hm, hl⟩ | rfl := lower_cases c
  · rw [hlow.lower_eq] at h
    exact List.singleton_inj.mp h
  · have ⟨_, hl'⟩ := (lowerRows_no_quote row hrow).of_moves
      (fun {lo hi c} h hlo hhi => (by omega : c.toNat ≠ 0x22)) hm
    rw [hl] at h
    rw [List.singleton_inj.mp h] at hl'
    exact absurd rfl hl'
  · have hdot : lower 'İ' = ['i', Char.ofNat 0x0307] := if_pos rfl
    rw [hdot] at h
    exact nomatch h

theorem Stripped.quote_not_mem_normalize (h : Stripped t) (ht : '"' ∉ t) : '"' ∉ normalize t := by
  rw [h.normalize_eq]
  intro hmem
  obtain ⟨c, hc, heq⟩ := mem_lowered h.canonicalOrder.decomposed hmem
  have hc : c ∈ t := (canonicalOrder_perm t).mem_iff.mp hc
  obtain rfl | hcased := heq
  · exact ht hc
  · exact ht (eq_quote_of_lower hcased.lower_left ▸ hc)

end Quotes

end Query
end ExcerptSearch
