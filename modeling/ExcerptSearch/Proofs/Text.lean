import ExcerptSearch.Text
import Mathlib.Data.List.TakeWhile

namespace ExcerptSearch

section Runs

variable {c q : Char} {s t : Text} {p : Char → Bool}

theorem takeWhile_append_of_stop (hs : ∀ c ∈ s, p c) (ht : ∀ c ∈ t.head?, p c = false) :
    (s ++ t).takeWhile p = s := by
  rw [List.takeWhile_append_of_pos hs]
  cases t with
  | nil => simp
  | cons c t => simp [ht c rfl]

theorem dropWhile_append_of_stop (hs : ∀ c ∈ s, p c) (ht : ∀ c ∈ t.head?, p c = false) :
    (s ++ t).dropWhile p = t := by
  rw [List.dropWhile_append_of_pos hs]
  cases t with
  | nil => rfl
  | cons c t => simp [ht c rfl]

theorem dropWhile_of_stop (ht : ∀ c ∈ t.head?, p c = false) : t.dropWhile p = t :=
  @dropWhile_append_of_stop [] t p (fun _ hc => nomatch hc) ht

theorem dropEndWhile_append_of_stop (hs : ∀ c ∈ s, p c) (ht : ∀ c ∈ t.getLast?, p c = false) :
    Text.dropEndWhile p (t ++ s) = t := by
  have hreverse : (s.reverse ++ t.reverse).dropWhile p = t.reverse :=
    dropWhile_append_of_stop (by simpa using hs) (by rwa [List.head?_reverse])
  rw [Text.dropEndWhile, List.reverse_append, hreverse, List.reverse_reverse]

theorem takeWhile_of_stop (ht : ∀ c ∈ t.head?, p c = false) : t.takeWhile p = [] :=
  @takeWhile_append_of_stop [] t p (fun _ hc => nomatch hc) ht

theorem dropEndWhile_of_stop (ht : ∀ c ∈ t.getLast?, p c = false) : Text.dropEndWhile p t = t := by
  have hdrop := @dropEndWhile_append_of_stop [] t p (fun _ hc => nomatch hc) ht
  rwa [List.append_nil] at hdrop

theorem dropEndWhile_dropWhile_append {u : Text} (hs : ∀ c ∈ s, p c) (hu : ∀ c ∈ u, p c)
    (hne : t ≠ []) (hfirst : ∀ c ∈ t.head?, p c = false) (hlast : ∀ c ∈ t.getLast?, p c = false) :
    Text.dropEndWhile p ((s ++ t ++ u).dropWhile p) = t := by
  have hhead : ∀ c ∈ (t ++ u).head?, p c = false := by
    cases t with
    | nil => exact absurd rfl hne
    | cons => exact hfirst
  rw [List.append_assoc, dropWhile_append_of_stop hs hhead, dropEndWhile_append_of_stop hu hlast]

theorem head?_dropWhile (hc : c ∈ (t.dropWhile p).head?) : p c = false := by
  have hhead := List.head?_dropWhile_not p t
  rw [hc] at hhead
  exact hhead

theorem bne_of_not_mem (h : q ∉ s) : ∀ c ∈ s, (c != q) = true := by
  intro c hc
  apply bne_iff_ne.mpr
  intro he
  exact h (he ▸ hc)

theorem takeWhile_bne_append (h : q ∉ s) : (s ++ q :: t).takeWhile (· != q) = s :=
  takeWhile_append_of_stop (bne_of_not_mem h) (by simp)

theorem dropWhile_bne_append (h : q ∉ s) : (s ++ q :: t).dropWhile (· != q) = q :: t :=
  dropWhile_append_of_stop (bne_of_not_mem h) (by simp)

theorem not_mem_takeWhile_bne : q ∉ t.takeWhile (· != q) :=
  fun h => by simpa using List.mem_takeWhile_imp h

theorem dropWhile_bne_eq_cons (h : t.dropWhile (· != q) ≠ []) :
    ∃ rest, t.dropWhile (· != q) = q :: rest := by
  have ⟨c, rest, hd⟩ := List.exists_cons_of_ne_nil h
  have hhead : (t.dropWhile (· != q)).head? = some c := by rw [hd]; rfl
  have hq : c = q := by simpa using head?_dropWhile hhead
  exact ⟨rest, hq ▸ hd⟩

end Runs

namespace Text

variable {mark old new s t u w rest : Text} {c stop : Char} {i j : Nat}

theorem before_singleton : before [c] t = t.takeWhile (· != c) := by
  induction t with
  | nil => rfl
  | cons d t ih =>
    by_cases hd : d = c
    case pos => simp [before, hd]
    case neg => simp [before, hd, Ne.symm hd, ih]

theorem exists_eq_before_append (mark t : Text) :
    ∃ w, t = before mark t ++ w ∧ (w = [] ∨ mark <+: w) := by
  induction t with
  | nil => exact ⟨[], rfl, .inl rfl⟩
  | cons c t ih =>
    unfold before
    split
    case isTrue h => exact ⟨c :: t, rfl, .inr (List.isPrefixOf_iff_prefix.mp h)⟩
    case isFalse =>
      obtain ⟨w, ht, hw⟩ := ih
      exact ⟨w, congrArg (c :: ·) ht, hw⟩

theorem before_isPrefix (h : t = u ++ mark ++ w) (hmark : mark ≠ []) : before mark t <+: u := by
  induction u generalizing t with
  | nil =>
    cases mark with
    | nil => exact absurd rfl hmark
    | cons c mark => simp [h, before]
  | cons c u ih =>
    subst h
    simp only [List.cons_append, before]
    split
    case isTrue => exact List.nil_prefix
    case isFalse => exact List.cons_prefix_cons.mpr ⟨rfl, ih rfl⟩

theorem mark_prefix_of_before (hmark : mark ≠ []) (h : mark <:+: t) :
    ∃ w, t = before mark t ++ w ∧ mark <+: w := by
  have ⟨w, ht, hw⟩ := exists_eq_before_append mark t
  refine ⟨w, ht, hw.resolve_left fun hnil => ?_⟩
  have ⟨x, y, hxy⟩ := h
  have hlength := (before_isPrefix hxy.symm hmark).length_le
  have hpos := List.length_pos_iff.mpr hmark
  have ht' := congrArg List.length ht
  have hxy' := congrArg List.length hxy
  simp only [hnil, List.append_nil, List.length_append] at ht' hxy'
  omega

theorem exists_eq_before_mark_append (hmark : mark ≠ []) (h : mark <:+: t) :
    ∃ w, t = before mark t ++ mark ++ w := by
  have ⟨w, ht, x, hx⟩ := mark_prefix_of_before hmark h
  exact ⟨x, by rw [List.append_assoc, hx, ← ht]⟩

theorem before_of_unmarked (h : ¬mark <:+: t) : before mark t = t := by
  have ⟨w, ht, hw⟩ := exists_eq_before_append mark t
  have hnil : w = [] := hw.resolve_right fun ⟨x, hx⟩ =>
    h ⟨before mark t, x, by rw [List.append_assoc, hx, ← ht]⟩
  rw [hnil, List.append_nil] at ht
  exact ht.symm

-- Is `u` the part of `t` before the first mark, or all of it if there is none?
def IsBefore (mark t u : Text) : Prop :=
  (¬mark <:+: t ∧ u = t) ∨
    ∃ w, t = u ++ mark ++ w ∧ ∀ u' w', t = u' ++ mark ++ w' → u.length ≤ u'.length

theorem isBefore_iff (hmark : mark ≠ []) : IsBefore mark t u ↔ u = before mark t := by
  constructor
  case mp =>
    rintro (⟨hnone, rfl⟩ | ⟨w, ht, hfirst⟩)
    · exact (before_of_unmarked hnone).symm
    · have ⟨w', ht'⟩ := exists_eq_before_mark_append hmark ⟨u, w, ht.symm⟩
      exact ((before_isPrefix ht hmark).eq_of_length_le (hfirst _ w' ht')).symm
  case mpr =>
    rintro rfl
    by_cases hin : mark <:+: t
    case pos =>
      have ⟨w, ht⟩ := exists_eq_before_mark_append hmark hin
      exact .inr ⟨w, ht, fun u' w' ht' => (before_isPrefix ht' hmark).length_le⟩
    case neg => exact .inl ⟨hin, before_of_unmarked hin⟩

theorem before_append (h : ∀ s', s' ≠ [] → s' <:+ s → ¬mark <+: s' ++ w) :
    before mark (s ++ w) = s ++ before mark w := by
  induction s with
  | nil => rfl
  | cons c s ih =>
    have hno : ¬mark <+: c :: (s ++ w) := h (c :: s) (List.cons_ne_nil c s) List.suffix_rfl
    have hrest := ih fun s' hne hs' => h s' hne (hs'.trans (List.suffix_cons c s))
    simp [before, hno, hrest]

theorem before_append_of_infix (h : mark <:+: s) : before mark (s ++ w) = before mark s := by
  induction s with
  | nil =>
    obtain rfl := List.infix_nil.mp h
    cases w <;> rfl
  | cons c s ih =>
    have hprefix : mark <+: c :: (s ++ w) → mark <+: c :: s := fun hp =>
      List.prefix_of_prefix_length_le hp (List.prefix_append (c :: s) w) h.length_le
    by_cases hp : mark <+: c :: s
    case pos =>
      have hp' : mark <+: c :: (s ++ w) := hp.trans (List.prefix_append (c :: s) w)
      simp [before, hp, hp']
    case neg =>
      have hrest := ih ((List.infix_cons_iff.mp h).resolve_left hp)
      simp [before, hp, mt hprefix hp, hrest]

def LastAt (mark t : Text) (i : Nat) : Prop :=
  mark <+: t.drop i ∧ ∀ j, mark <+: t.drop j → j ≤ i

theorem not_prefix_drop_nil (hmark : mark ≠ []) : ¬mark <+: ([] : Text).drop i := by
  simpa using hmark

theorem prefix_drop_of_lastIndexOf? (h : lastIndexOf? mark t = some i) : mark <+: t.drop i := by
  induction t generalizing i with
  | nil => exact nomatch h
  | cons c t ih =>
    unfold lastIndexOf? at h
    split at h
    case h_1 k hk =>
      obtain rfl := Option.some.inj h
      exact ih hk
    case h_2 =>
      split at h
      case isTrue hc =>
        obtain rfl := Option.some.inj h
        exact List.isPrefixOf_iff_prefix.mp hc
      case isFalse => exact nomatch h

theorem exists_lastIndexOf? (hmark : mark ≠ []) (h : mark <+: t.drop j) :
    ∃ i, lastIndexOf? mark t = some i ∧ j ≤ i := by
  induction t generalizing j with
  | nil => exact absurd h (not_prefix_drop_nil hmark)
  | cons c t ih =>
    unfold lastIndexOf?
    cases j with
    | succ j =>
      have ⟨i, hi, hji⟩ := ih h
      exact ⟨i + 1, by rw [hi], Nat.succ_le_succ hji⟩
    | zero =>
      cases lastIndexOf? mark t with
      | some i => exact ⟨i + 1, rfl, Nat.zero_le _⟩
      | none => exact ⟨0, if_pos (List.isPrefixOf_iff_prefix.mpr h), Nat.le_refl 0⟩

theorem lastIndexOf?_eq_some (hmark : mark ≠ []) :
    lastIndexOf? mark t = some i ↔ LastAt mark t i := by
  constructor
  case mp =>
    intro h
    refine ⟨prefix_drop_of_lastIndexOf? h, fun j hj => ?_⟩
    have ⟨k, hk, hjk⟩ := exists_lastIndexOf? hmark hj
    obtain rfl : k = i := Option.some.inj (hk.symm.trans h)
    exact hjk
  case mpr =>
    intro ⟨hi, hlast⟩
    have ⟨k, hk, hik⟩ := exists_lastIndexOf? hmark hi
    have hki := hlast k (prefix_drop_of_lastIndexOf? hk)
    rw [hk, Nat.le_antisymm hki hik]

theorem exists_lastAt (hmark : mark ≠ []) (h : mark <:+: t) : ∃ i, LastAt mark t i := by
  obtain ⟨u, w, rfl⟩ := h
  have hu : mark <+: (u ++ mark ++ w).drop u.length := by simp
  have ⟨i, hi, _⟩ := exists_lastIndexOf? hmark hu
  exact ⟨i, (lastIndexOf?_eq_some hmark).mp hi⟩

theorem lastIndexOf?_eq_none (hmark : mark ≠ []) (h : lastIndexOf? mark t = none) :
    ¬mark <:+: t := by
  intro hin
  have ⟨i, hi⟩ := exists_lastAt hmark hin
  exact nomatch h.symm.trans ((lastIndexOf?_eq_some hmark).mpr hi)

namespace LastAt

theorem isInfix (h : LastAt mark t i) : mark <:+: t :=
  h.1.isInfix.trans (List.drop_suffix i t).isInfix

theorem unique (h : LastAt mark t i) (h' : LastAt mark t j) : i = j :=
  Nat.le_antisymm (h'.2 i h.1) (h.2 j h'.1)

end LastAt

theorem through?_append (h : stop ∉ s) :
    through? stop (s ++ stop :: rest) = some (s ++ [stop], rest) := by
  unfold through?
  rw [dropWhile_bne_append h, takeWhile_bne_append h]

theorem eq_append_of_through? (h : through? stop t = some (s, rest)) :
    ∃ body, stop ∉ body ∧ s = body ++ [stop] ∧ t = body ++ stop :: rest := by
  have hsplit := List.takeWhile_append_dropWhile (p := (· != stop)) (l := t)
  unfold through? at h
  split at h
  case h_1 => exact nomatch h
  case h_2 c rest' hdrop =>
    obtain ⟨rfl, rfl⟩ := Prod.mk.inj (Option.some.inj h)
    have ⟨_, hstop⟩ := dropWhile_bne_eq_cons (hdrop ▸ List.cons_ne_nil c rest')
    obtain rfl : c = stop := (List.cons.inj (hdrop.symm.trans hstop)).1
    exact ⟨_, not_mem_takeWhile_bne, rfl, by rw [← hdrop, hsplit]⟩

theorem eq_append_of_through?_cons (hc : c ≠ stop) (h : through? stop (c :: t) = some (s, rest)) :
    ∃ body, stop ∉ body ∧ s = c :: (body ++ [stop]) ∧ t = body ++ stop :: rest := by
  have ⟨body, hbody, hs, ht⟩ := eq_append_of_through? h
  cases body with
  | nil => exact absurd (List.cons.inj ht).1 hc
  | cons d body =>
    obtain ⟨rfl, hrest⟩ := List.cons.inj ht
    exact ⟨body, fun hm => hbody (.tail _ hm), hs, hrest⟩

theorem append_stop_inj {s' rest' : Text} (hs : stop ∉ s) (hs' : stop ∉ s')
    (h : s ++ stop :: rest = s' ++ stop :: rest') : s = s' ∧ rest = rest' := by
  have hread : some (s ++ [stop], rest) = some (s' ++ [stop], rest') := by
    rw [← through?_append hs, h, through?_append hs']
  have ⟨happend, hrest⟩ := Prod.mk.inj (Option.some.inj hread)
  exact ⟨List.append_cancel_right happend, hrest⟩

theorem through?_eq_none_iff : through? stop t = none ↔ stop ∉ t := by
  constructor
  case mp =>
    intro h hm
    have ⟨s, rest, ht, hs⟩ := List.eq_append_cons_of_mem hm
    rw [ht, through?_append hs] at h
    exact nomatch h
  case mpr =>
    intro h
    apply Option.eq_none_iff_forall_ne_some.mpr
    intro _ hs
    obtain ⟨body, _, _, rfl⟩ := eq_append_of_through? hs
    exact h (by simp)

theorem replace_go_length : replace.go old new s.length (s ++ t) = replace.go old new 0 t := by
  induction s with
  | nil => rfl
  | cons c s ih => exact ih

theorem replace_append (hold : old ≠ []) :
    replace old new (old ++ t) = new ++ replace old new t := by
  cases old with
  | nil => exact absurd rfl hold
  | cons c s =>
    have hprefix : (c :: s).isPrefixOf (c :: (s ++ t)) = true := by
      simp
    unfold replace
    rw [List.cons_append, replace.go, if_pos hprefix]
    exact congrArg (new ++ ·) replace_go_length

theorem replace_cons (h : ¬old <+: c :: t) :
    replace old new (c :: t) = c :: replace old new t := by
  unfold replace
  rw [replace.go, if_neg (mt List.isPrefixOf_iff_prefix.mp h)]

theorem replace_append_of_not_mem (hc : c ∉ s) :
    replace (c :: old) new (s ++ t) = s ++ replace (c :: old) new t := by
  induction s with
  | nil => rfl
  | cons d s ih =>
    have hprefix : ¬c :: old <+: d :: (s ++ t) := by
      intro h
      rw [(List.cons_prefix_cons.mp h).1] at hc
      exact hc (.head _)
    rw [List.cons_append, replace_cons hprefix, ih fun hm => hc (.tail _ hm)]
    rfl

theorem exists_append_append (hij : i ≤ j) (hj : j ≤ t.length) :
    ∃ u v w, t = u ++ v ++ w ∧ i = u.length ∧ j = (u ++ v).length := by
  refine ⟨t.take i, (t.drop i).take (j - i), t.drop j, ?_, ?_, ?_⟩
  · have hdrop : (t.drop i).drop (j - i) = t.drop j := by
      rw [List.drop_drop, Nat.add_sub_of_le hij]
    rw [List.append_assoc, ← hdrop, List.take_append_drop, List.take_append_drop]
  · simp
    omega
  · simp
    omega

end Text
end ExcerptSearch
