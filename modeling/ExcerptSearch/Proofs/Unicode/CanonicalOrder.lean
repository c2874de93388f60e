import ExcerptSearch.Unicode.Normalization
import Mathlib.Data.List.Chain

namespace ExcerptSearch.Unicode

variable {c d e : Char} {t : Text} {keep : Char → Bool}

def MayFollow (c d : Char) : Prop :=
  combiningClass d = 0 ∨ combiningClass c ≤ combiningClass d

instance (c d : Char) : Decidable (MayFollow c d) :=
  inferInstanceAs (Decidable (_ ∨ _))

theorem MayFollow.trans (h : MayFollow c d) (h' : MayFollow d e) (hd : combiningClass d ≠ 0) :
    MayFollow c e :=
  h'.imp_right (Nat.le_trans (h.resolve_left hd))

theorem mayFollow_of_not (h : ¬MayFollow c d) : MayFollow d c := by
  unfold MayFollow at h ⊢
  omega

-- Are the marks that follow one base in the order of their classes?
def Canonical (t : Text) : Prop :=
  t.IsChain MayFollow

theorem canonical_cons :
    Canonical (c :: t) ↔ (∀ d ∈ t.head?, MayFollow c d) ∧ Canonical t :=
  List.isChain_cons

section Insert

theorem insertMark_of_not_mayFollow (h : ¬MayFollow c d) :
    insertMark c (d :: t) = d :: insertMark c t := by
  have hpass : 0 < combiningClass d ∧ combiningClass d < combiningClass c := by
    unfold MayFollow at h
    omega
  rw [insertMark, if_pos (by simpa using hpass)]

theorem insertMark_of_mayFollow (h : ∀ d ∈ t.head?, MayFollow c d) :
    insertMark c t = c :: t := by
  cases t with
  | nil => rfl
  | cons d t =>
    have hstop : ¬(0 < combiningClass d ∧ combiningClass d < combiningClass c) := by
      have hd := h d rfl
      unfold MayFollow at hd
      omega
    rw [insertMark, if_neg (by simpa using hstop)]

theorem insertMark_of_class_zero (h : combiningClass c = 0) : insertMark c t = c :: t :=
  insertMark_of_mayFollow fun _ _ => .inr (by omega)

theorem insertMark_perm (c : Char) (t : Text) : (insertMark c t).Perm (c :: t) := by
  induction t with
  | nil => exact .refl [c]
  | cons d t ih =>
    by_cases h : MayFollow c d
    case pos => rw [insertMark_of_mayFollow (by simpa using h)]
    case neg =>
      rw [insertMark_of_not_mayFollow h]
      exact (ih.cons d).trans (.swap c d t)

theorem head?_insertMark (h : e ∈ (insertMark c t).head?) : e = c ∨ e ∈ t.head? := by
  cases t with
  | nil => exact .inl (Option.some.inj h).symm
  | cons d t =>
    by_cases hd : MayFollow c d
    case pos =>
      rw [insertMark_of_mayFollow (by simpa using hd)] at h
      exact .inl (Option.some.inj h).symm
    case neg =>
      rw [insertMark_of_not_mayFollow hd] at h
      exact .inr h

theorem canonical_insertMark (h : Canonical t) : Canonical (insertMark c t) := by
  induction t with
  | nil => exact .singleton c
  | cons d t ih =>
    have ⟨hhead, htail⟩ := canonical_cons.mp h
    by_cases hd : MayFollow c d
    case pos =>
      rw [insertMark_of_mayFollow (by simpa using hd)]
      exact canonical_cons.mpr ⟨by simpa using hd, h⟩
    case neg =>
      -- What comes behind `d` now is `c`, or what came there before.
      rw [insertMark_of_not_mayFollow hd]
      refine canonical_cons.mpr ⟨fun e he => ?_, ih htail⟩
      obtain rfl | he := head?_insertMark he
      · exact mayFollow_of_not hd
      · exact hhead e he

theorem Canonical.drop_mark (h : Canonical (c :: d :: t)) (hd : combiningClass d ≠ 0) :
    Canonical (c :: t) := by
  have ⟨hc, hdt⟩ := canonical_cons.mp h
  have ⟨hhead, ht⟩ := canonical_cons.mp hdt
  exact canonical_cons.mpr ⟨fun e he => (hc d rfl).trans (hhead e he) hd, ht⟩

theorem Canonical.filter (h : Canonical (c :: t))
    (hmark : ∀ d ∈ t, keep d = false → combiningClass d ≠ 0) : Canonical (c :: t.filter keep) := by
  induction t generalizing c with
  | nil => exact h
  | cons d t ih =>
    rw [List.forall_mem_cons] at hmark
    cases hd : keep d with
    | true =>
      have ⟨hc, hdt⟩ := canonical_cons.mp h
      rw [List.filter_cons_of_pos hd]
      exact canonical_cons.mpr ⟨by simpa using hc, ih hdt hmark.2⟩
    | false =>
      rw [List.filter_cons_of_neg (by simp [hd])]
      exact ih (h.drop_mark (hmark.1 hd)) hmark.2

theorem filter_insertMark_of_neg (hc : keep c = false) :
    (insertMark c t).filter keep = t.filter keep := by
  induction t with
  | nil => simp [insertMark, hc]
  | cons d t ih =>
    by_cases hd : MayFollow c d
    case pos =>
      rw [insertMark_of_mayFollow (by simpa using hd), List.filter_cons_of_neg (by simp [hc])]
    case neg => rw [insertMark_of_not_mayFollow hd, List.filter_cons, ih, List.filter_cons]

theorem filter_insertMark_of_pos (hc : keep c = true) (ht : Canonical t)
    (hmark : ∀ d ∈ t, keep d = false → combiningClass d ≠ 0) :
    (insertMark c t).filter keep = insertMark c (t.filter keep) := by
  induction t with
  | nil => simp [insertMark, hc]
  | cons d t ih =>
    by_cases hd : MayFollow c d
    case pos =>
      -- The text stays in order behind `c`, whatever is left out of it.
      have hhead : ∀ e ∈ (d :: t).head?, MayFollow c e := by simpa using hd
      have hfiltered : Canonical (c :: (d :: t).filter keep) :=
        (canonical_cons.mpr ⟨hhead, ht⟩).filter hmark
      rw [insertMark_of_mayFollow hhead, List.filter_cons_of_pos hc,
        insertMark_of_mayFollow (canonical_cons.mp hfiltered).1]
    case neg =>
      rw [List.forall_mem_cons] at hmark
      rw [insertMark_of_not_mayFollow hd, List.filter_cons,
        ih (canonical_cons.mp ht).2 hmark.2, List.filter_cons]
      split
      case isTrue => rw [insertMark_of_not_mayFollow hd]
      case isFalse => rfl

end Insert

section Order

theorem canonicalOrder_cons : canonicalOrder (c :: t) = insertMark c (canonicalOrder t) :=
  rfl

theorem canonicalOrder_perm (t : Text) : (canonicalOrder t).Perm t := by
  induction t with
  | nil => exact .refl []
  | cons c t ih => exact (insertMark_perm c _).trans (ih.cons c)

theorem canonical_canonicalOrder (t : Text) : Canonical (canonicalOrder t) := by
  induction t with
  | nil => exact .nil
  | cons c t ih => exact canonical_insertMark ih

theorem canonicalOrder_eq_self (h : Canonical t) : canonicalOrder t = t := by
  induction t with
  | nil => rfl
  | cons c t ih =>
    have ⟨hc, ht⟩ := canonical_cons.mp h
    rw [canonicalOrder_cons, ih ht, insertMark_of_mayFollow hc]

theorem filter_canonicalOrder (hmark : ∀ d ∈ t, keep d = false → combiningClass d ≠ 0) :
    (canonicalOrder t).filter keep = canonicalOrder (t.filter keep) := by
  induction t with
  | nil => rfl
  | cons c t ih =>
    rw [List.forall_mem_cons] at hmark
    have hmark' : ∀ d ∈ canonicalOrder t, keep d = false → combiningClass d ≠ 0 := fun d hd =>
      hmark.2 d ((canonicalOrder_perm t).mem_iff.mp hd)
    rw [canonicalOrder_cons]
    cases hc : keep c with
    | true =>
      rw [filter_insertMark_of_pos hc (canonical_canonicalOrder t) hmark', ih hmark.2,
        List.filter_cons_of_pos hc, canonicalOrder_cons]
    | false =>
      rw [filter_insertMark_of_neg hc, ih hmark.2, List.filter_cons_of_neg (by simp [hc])]

end Order
end ExcerptSearch.Unicode
