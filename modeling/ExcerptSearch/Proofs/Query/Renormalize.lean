import ExcerptSearch.Proofs.Query.Normalize

namespace ExcerptSearch.Query

open Unicode

variable {c d : Char} {s t : Text}

section Stripped

def bare (t : Text) : Text :=
  t.filter (!isDiacritic ·)

theorem bare_append : bare (s ++ t) = bare s ++ bare t :=
  List.filter_append s t

theorem bare_sublist (t : Text) : (bare t).Sublist t :=
  List.filter_sublist

-- What normalizing leaves: decomposed characters that are no diacritics.
structure Stripped (t : Text) : Prop where
  decomposed : Decomposed t
  plain      : ∀ c ∈ t, isDiacritic c = false

theorem flatMap_decompose_eq_self (h : Decomposed t) : t.flatMap decompose = t := by
  induction t with
  | nil => rfl
  | cons c t ih =>
    have ⟨hc, ht⟩ := decomposed_cons.mp h
    rw [List.flatMap_cons, hc, ih ht, List.singleton_append]

theorem mem_lowered (ht : Decomposed t) (hd : d ∈ lowered t) : ∃ c ∈ t, d = c ∨ Recased c d := by
  induction t using lowered_induction with
  | hnil => exact nomatch hd
  | hslash =>
    rw [lowered_slash] at hd
    exact ⟨d, hd, .inl rfl⟩
  | hescape c t ih =>
    have ⟨_, ht⟩ := decomposed_cons.mp ht
    have ⟨_, ht⟩ := decomposed_cons.mp ht
    rw [lowered_escape, List.mem_cons, List.mem_cons] at hd
    obtain rfl | rfl | hd := hd
    · exact ⟨_, .head _, .inl rfl⟩
    · exact ⟨_, .tail _ (.head _), .inl rfl⟩
    · have ⟨e, he, hed⟩ := ih ht hd
      exact ⟨e, .tail _ (.tail _ he), hed⟩
  | hcons c t hslash ih =>
    have ⟨hc, ht⟩ := decomposed_cons.mp ht
    have ⟨e, he⟩ := exists_recased hc
    rw [lowered_cons hslash, he.lower_left, List.singleton_append, List.mem_cons] at hd
    obtain rfl | hd := hd
    · exact ⟨c, .head _, .inr he⟩
    · have ⟨f, hf, hfd⟩ := ih ht hd
      exact ⟨f, .tail _ hf, hfd⟩

theorem isDiacritic_eq_of_recased (h : Recased c d) : isDiacritic d = isDiacritic c := by
  obtain rfl | ⟨hc, hd⟩ := eq_or_plain_of_lower h.lower_left
  · rfl
  · rw [hc.2, hd.2]

theorem Decomposed.lowered (ht : Decomposed t) : Decomposed (lowered t) := by
  intro d hd
  obtain ⟨c, hc, rfl | hcd⟩ := mem_lowered ht hd
  · exact ht d hc
  · exact hcd.decompose

namespace Stripped

theorem canonicalOrder (h : Stripped t) : Stripped (canonicalOrder t) :=
  ⟨h.decomposed.canonicalOrder, fun c hc => h.plain c ((canonicalOrder_perm t).mem_iff.mp hc)⟩

theorem lowered (h : Stripped t) : Stripped (lowered t) := by
  refine ⟨h.decomposed.lowered, fun d hd => ?_⟩
  obtain ⟨c, hc, rfl | hcd⟩ := mem_lowered h.decomposed hd
  · exact h.plain d hc
  · rw [isDiacritic_eq_of_recased hcd, h.plain c hc]

theorem normalize_eq (h : Stripped t) : normalize t = Query.lowered (Unicode.canonicalOrder t) := by
  have hkept : ∀ d ∈ Query.lowered (Unicode.canonicalOrder t), (!isDiacritic d) = true := by
    intro d hd
    rw [h.canonicalOrder.lowered.plain d hd]
    rfl
  rw [Query.normalize_eq, nfd, flatMap_decompose_eq_self h.decomposed,
    List.filter_eq_self.mpr hkept]

end Stripped

theorem Decomposed.bare (h : Decomposed t) : Stripped (bare t) := by
  constructor
  case decomposed => exact fun c hc => h c ((bare_sublist t).subset hc)
  case plain =>
    intro c hc
    simpa using (List.mem_filter.mp hc).2

theorem stripped_normalize (t : Text) : Stripped (normalize t) :=
  (decomposed_flatMap (lowered t)).canonicalOrder.bare

theorem lowered_lowered (ht : Decomposed t) : lowered (lowered t) = lowered t := by
  induction t using lowered_induction with
  | hnil => rfl
  | hslash => rw [lowered_slash, lowered_slash]
  | hescape c t ih =>
    have ⟨_, ht⟩ := decomposed_cons.mp ht
    have ⟨_, ht⟩ := decomposed_cons.mp ht
    rw [lowered_escape, lowered_escape, ih ht]
  | hcons c t hslash ih =>
    have ⟨hc, ht⟩ := decomposed_cons.mp ht
    have ⟨d, hd⟩ := exists_recased hc
    have hslash' : d ≠ '\\' := (slash_iff_of_lower hd.lower_left).not.mpr hslash
    rw [lowered_cons hslash, hd.lower_left, List.singleton_append, lowered_cons hslash',
      hd.lower_right, ih ht, List.singleton_append]

theorem normalize_eq_self_iff (h : Stripped t) :
    normalize t = t ↔ Canonical t ∧ lowered t = t := by
  rw [h.normalize_eq]
  constructor
  case mp =>
    intro heq
    have hcanonical : Canonical t := by
      rw [← heq, ← canonicalOrder_lowered h.decomposed]
      exact canonical_canonicalOrder _
    rw [canonicalOrder_eq_self hcanonical] at heq
    exact ⟨hcanonical, heq⟩
  case mpr =>
    intro ⟨hcanonical, hlowered⟩
    rw [canonicalOrder_eq_self hcanonical, hlowered]

theorem Stripped.normalize_fixed (h : Stripped t) :
    normalize (normalize t) = normalize t := by
  rw [normalize_eq_self_iff (stripped_normalize t), h.normalize_eq]
  constructor
  · rw [← canonicalOrder_lowered h.decomposed]
    exact canonical_canonicalOrder _
  · exact lowered_lowered h.canonicalOrder.decomposed

end Stripped

section Escaped

def escaped : Text → Text
  | []              => []
  | '\\' :: c :: cs => c :: escaped cs
  | _ :: cs         => escaped cs

theorem escaped_cons (hc : c ≠ '\\') : escaped (c :: t) = escaped t := by
  rw [escaped]
  exact fun _ _ h _ => hc h

-- The grapheme joiner is in no decomposition but its own. What a character decomposes to is all
-- diacritics only if the character is one.
theorem decompositions_diacritics : ∀ row ∈ decompositions, 0x034f ∉ row.2 ∧
    ((0x0300 ≤ row.1 ∧ row.1 ≤ 0x036f) ∨ ∃ k ∈ row.2, k < 0x0300 ∨ 0x036f < k) := by
  decide +kernel

theorem eq_joiner_of_mem_decompose (h : '\u034f' ∈ decompose c) : c = '\u034f' :=
  (eq_of_mem_decompose (d := '\u034f') (by decide) (by decide)
    (fun row hrow => (decompositions_diacritics row hrow).1) h).symm

theorem exists_not_isDiacritic (hc : isDiacritic c = false) :
    ∃ d ∈ decompose c, isDiacritic d = false := by
  apply decompose_cases c (P := fun ds => ∃ d ∈ ds, isDiacritic d = false)
  case hself => exact fun _ => ⟨c, .head _, hc⟩
  case htable =>
    intro ks hrow
    rw [not_isDiacritic_iff] at hc
    obtain hblock | ⟨k, hk, hk'⟩ := (decompositions_diacritics _ hrow).2
    · omega
    · refine ⟨Char.ofNat k, List.mem_map.mpr ⟨k, hk, rfl⟩, ?_⟩
      rw [not_isDiacritic_iff]
      obtain hcode | hcode := toNat_ofNat_or k
      · omega
      · omega
  case hjamo =>
    intro ds hne hds
    obtain ⟨d, hd⟩ := List.exists_mem_of_ne_nil ds hne
    have := hds d hd
    exact ⟨d, hd, not_isDiacritic_iff.mpr (by omega)⟩

theorem combiningClass_of_isDiacritic (hc : isDiacritic c = true) (hne : c ≠ '\u034f') :
    combiningClass c ≠ 0 := by
  have hblock : ∀ n < 0x70, Char.ofNat (0x0300 + n) ≠ '\u034f' →
      combiningClass (Char.ofNat (0x0300 + n)) ≠ 0 := by decide +kernel
  simp only [isDiacritic, Bool.and_eq_true, decide_eq_true_eq] at hc
  have hclass := hblock (c.toNat - 0x0300) (by omega)
  rw [Nat.add_sub_cancel' hc.1, Char.ofNat_toNat] at hclass
  exact hclass hne

theorem bare_decompose_ne_nil (hc : isDiacritic c = false) : bare (decompose c) ≠ [] := by
  have ⟨d, hd, hplain⟩ := exists_not_isDiacritic hc
  exact List.ne_nil_of_mem (List.mem_filter.mpr ⟨hd, by rw [hplain]; rfl⟩)

theorem exists_recased_of_mem (hd : d ∈ (decompose c).flatMap lower) :
    ∃ e ∈ decompose c, Recased e d := by
  obtain ⟨e, he, hde⟩ := List.mem_flatMap.mp hd
  have ⟨f, hf⟩ := exists_recased (decompose_of_mem he)
  rw [hf.lower_left, List.mem_singleton] at hde
  exact ⟨e, he, hde ▸ hf⟩

theorem lowered_bare (ht : ∀ c ∈ escaped t, isDiacritic c = false) :
    lowered (bare (lowered (t.flatMap decompose))) = bare (lowered (t.flatMap decompose)) := by
  induction t using lowered_induction with
  | hnil => rfl
  | hslash =>
    rw [List.flatMap_singleton, decompose_slash, lowered_slash]
    exact lowered_slash
  | hescape c t ih =>
    have ⟨hc, ht⟩ := List.forall_mem_cons.mp ht
    have hslash : ∀ u : Text, bare ('\\' :: u) = '\\' :: bare u := fun _ => rfl
    rw [List.flatMap_cons, decompose_slash, List.flatMap_cons, List.singleton_append,
      lowered_escape_decompose, hslash, bare_append,
      lowered_escape_append (bare_sublist _) (bare_decompose_ne_nil hc), ih ht]
  | hcons c t hslash ih =>
    rw [escaped_cons hslash] at ht
    have hslash' : '\\' ∉ decompose c := fun h => hslash (eq_slash_of_mem_decompose h)
    have hbare : '\\' ∉ bare ((decompose c).flatMap lower) := by
      intro h
      have ⟨e, he, hcased⟩ := exists_recased_of_mem ((bare_sublist _).subset h)
      exact hslash' ((slash_iff_of_lower hcased.lower_left).mp rfl ▸ he)
    have hlow : ∀ d ∈ bare ((decompose c).flatMap lower), lower d = [d] := by
      intro d hd
      have ⟨_, _, hcased⟩ := exists_recased_of_mem ((bare_sublist _).subset hd)
      exact hcased.lower_right
    rw [List.flatMap_cons, lowered_append hslash', bare_append, lowered_append_of_low hbare hlow,
      ih ht]

theorem combiningClass_of_mem_lowered (ht : '\u034f' ∉ t) (hd : d ∈ lowered (t.flatMap decompose))
    (hmark : isDiacritic d = true) : combiningClass d ≠ 0 := by
  refine combiningClass_of_isDiacritic hmark ?_
  rintro rfl
  obtain ⟨e, he, hcased⟩ := mem_lowered (decomposed_flatMap t) hd
  obtain rfl : '\u034f' = e := by
    obtain h | h := hcased
    · exact h
    · obtain h | ⟨_, hplain⟩ := eq_or_plain_of_lower h.lower_left
      · exact h
      · exact absurd hplain.2 (by decide)
  obtain ⟨c, hc, he⟩ := List.mem_flatMap.mp he
  exact ht (eq_joiner_of_mem_decompose he ▸ hc)

theorem normalize_eq_canonicalOrder (ht : '\u034f' ∉ t) :
    normalize t = canonicalOrder (bare (lowered (t.flatMap decompose))) := by
  rw [normalize, stripDiacritics, nfd, flatMap_decompose_lowered]
  apply filter_canonicalOrder
  intro d hd hdropped
  exact combiningClass_of_mem_lowered ht hd (by simpa using hdropped)

end Escaped

-- Normalizing twice is as good as normalizing any number of times. Once is enough just if the text
-- is then in canonical order and in lower case, and this it is if no backslash keeps a diacritic
-- and no grapheme joiner holds marks apart.
theorem normalize_normalize (t : Text) :
    normalize (normalize (normalize t)) = normalize (normalize t) ∧
    (normalize (normalize t) = normalize t ↔
      Canonical (normalize t) ∧ lowered (normalize t) = normalize t) ∧
    ((∀ c ∈ escaped t, isDiacritic c = false) → '\u034f' ∉ t →
      normalize (normalize t) = normalize t) := by
  have hstripped := stripped_normalize t
  refine ⟨hstripped.normalize_fixed, normalize_eq_self_iff hstripped, ?_⟩
  intro hescaped hjoiner
  rw [normalize_eq_self_iff hstripped, normalize_eq_canonicalOrder hjoiner]
  constructor
  · exact canonical_canonicalOrder _
  · rw [← canonicalOrder_lowered (decomposed_flatMap t).lowered.bare.decomposed,
      lowered_bare hescaped]

theorem normalize_normalize_escaped :
    (∀ c ∈ escaped ['\\', 'É', 'Ñ'], isDiacritic c = false) ∧ '\u034f' ∉ ['\\', 'É', 'Ñ'] ∧
    normalize (normalize ['\\', 'É', 'Ñ']) = normalize ['\\', 'É', 'Ñ'] := by
  have hescaped : ∀ c ∈ escaped ['\\', 'É', 'Ñ'], isDiacritic c = false :=
    List.forall_mem_singleton.mpr (by decide)
  have hjoiner : '\u034f' ∉ ['\\', 'É', 'Ñ'] := by decide
  exact ⟨hescaped, hjoiner, (normalize_normalize ['\\', 'É', 'Ñ']).2.2 hescaped hjoiner⟩

-- The first text loses what the first backslash keeps, the second one what holds its marks apart.
theorem normalize_normalize_ne :
    normalize (normalize ['\\', '\u0301', '\\', 'A']) ≠ normalize ['\\', '\u0301', '\\', 'A'] ∧
    normalize (normalize ['\u0592', '\u034f', '\u0591']) ≠
      normalize ['\u0592', '\u034f', '\u0591'] := by
  decide +kernel

end ExcerptSearch.Query
