import ExcerptSearch.Dictionary

namespace ExcerptSearch.Dictionary

variable {α : Type} {k : Text} {a : α} {e : Text × α} {l : List (Text × α)} {d d' : Dictionary α}

theorem ext (h : d.entries = d'.entries) : d = d' := by
  cases d
  cases d'
  cases h
  rfl

theorem lookup_eq_some_iff (h : l.Pairwise fun e f => e.1 < f.1) :
    l.lookup k = some a ↔ (k, a) ∈ l := by
  induction l with
  | nil => simp
  | cons e l ih =>
    obtain ⟨j, b⟩ := e
    have ⟨he, hl⟩ := List.pairwise_cons.mp h
    rw [List.lookup_cons, List.mem_cons, Prod.mk.injEq]
    by_cases hk : k = j
    case neg => simp [beq_false_of_ne hk, ih hl, hk]
    case pos =>
      have hnone : (k, a) ∉ l := fun hm => List.lt_irrefl _ (hk ▸ he _ hm)
      simp [hk, hk ▸ hnone, eq_comm]

theorem get?_eq_some_iff : d.get? k = some a ↔ (k, a) ∈ d.entries :=
  lookup_eq_some_iff d.ascending

theorem mem_of_mem_foldl_insert (h : e ∈ (l.foldl (fun d e => d.insert e.1 e.2) d).entries) :
    e ∈ l ∨ e ∈ d.entries := by
  induction l generalizing d with
  | nil => exact .inr h
  | cons f l ih =>
    obtain h | h := ih h
    · exact .inl (.tail f h)
    · obtain rfl | h := eq_or_mem_of_mem_insertEntry h
      · exact .inl (.head l)
      · exact .inr h

theorem mem_of_mem_ofList (h : e ∈ (ofList l).entries) : e ∈ l :=
  (mem_of_mem_foldl_insert h).resolve_right List.not_mem_nil

theorem perm_insertEntry (h : ∀ e ∈ l, e.1 ≠ k) : (insertEntry k a l).Perm ((k, a) :: l) := by
  induction l with
  | nil => exact .refl _
  | cons f l ih =>
    have ⟨hf, hl⟩ := List.forall_mem_cons.mp h
    simp only [insertEntry]
    split
    case isTrue => exact .refl _
    case isFalse =>
      rw [if_neg (Ne.symm hf)]
      exact ((ih hl).cons f).trans (.swap (k, a) f l)

theorem perm_foldl_insert (h : (l ++ d.entries).Pairwise fun e f => e.1 ≠ f.1) :
    (l.foldl (fun d e => d.insert e.1 e.2) d).entries.Perm (l ++ d.entries) := by
  induction l generalizing d with
  | nil => exact .refl _
  | cons e l ih =>
    have ⟨he, hl⟩ := List.pairwise_cons.mp h
    have hinsert : (d.insert e.1 e.2).entries.Perm (e :: d.entries) :=
      perm_insertEntry fun f hf => (he f (List.mem_append_right l hf)).symm
    have hperm : (l ++ (d.insert e.1 e.2).entries).Perm (e :: l ++ d.entries) :=
      (hinsert.append_left l).trans List.perm_middle
    exact (ih (hperm.symm.pairwise h Ne.symm)).trans hperm

theorem ofList_eq (hl : l.Perm d.entries) : ofList l = d := by
  have hne : l.Pairwise fun e f => e.1 ≠ f.1 := by
    refine hl.symm.pairwise (d.ascending.imp fun hlt heq => ?_) Ne.symm
    exact List.lt_irrefl _ (heq ▸ hlt)
  have hnil : l ++ (empty : Dictionary α).entries = l := List.append_nil l
  have hperm : (ofList l).entries.Perm (l ++ (empty : Dictionary α).entries) :=
    perm_foldl_insert (hnil.symm ▸ hne)
  rw [hnil] at hperm
  exact ext ((hperm.trans hl).eq_of_pairwise
    (fun _ _ _ _ hlt hgt => absurd hgt (List.lt_asymm hlt)) (ofList l).ascending d.ascending)

end ExcerptSearch.Dictionary
