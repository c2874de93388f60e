import ExcerptSearch.Proofs.Text
import ExcerptSearch.Query.Tokenize

namespace ExcerptSearch.Query

variable {c o q : Char} {s t run body rest gap : Text}

inductive Apart : Text → Prop
  | nil : Apart []
  | space {t : Text} : Apart (' ' :: t)

theorem Apart.stop {p : Char → Bool} (h : Apart t) (hp : p ' ' = false) :
    ∀ c ∈ t.head?, p c = false := by
  cases h with
  | nil => exact fun _ hc => nomatch hc
  | space => exact fun c hc => Option.some.inj hc ▸ hp

section Openings

theorem mem_of_isSome_opening? (h : (opening? t).isSome) : '(' ∈ t.take 2 := by
  revert h
  fun_cases opening? t
  case case5 => simp
  all_goals simp

theorem opening?_of_not_mem (hnot : '(' ∉ run) (hgap : Apart gap) :
    opening? (run ++ gap) = none := by
  cases run with
  | nil =>
    cases hgap with
    | nil => rfl
    | space => rfl
  | cons c run =>
    have hsecond : '(' ∈ (run ++ gap).take 1 → '(' ∈ run := by
      cases run with
      | nil =>
        cases hgap with
        | nil => exact id
        | space => simp
      | cons d run =>
        intro hd
        rw [List.mem_singleton.mp hd]
        exact List.mem_cons_self
    apply Option.not_isSome_iff_eq_none.mp
    intro hsome
    have hm := List.mem_cons.mp (mem_of_isSome_opening? hsome)
    exact hnot (List.mem_cons.mpr (hm.imp_right hsecond))

theorem opening?_of_quote_or_bracket (h : c = '"' ∨ c = '`' ∨ c = '{' ∨ c = '[' ∨ c = '/') :
    opening? (c :: t) = none := by
  obtain rfl | rfl | rfl | rfl | rfl := h
  all_goals rfl

end Openings

section Quotations

theorem quoted?_of_head (h : t.head? ≠ some q) : quoted? q t = none := by
  cases t with
  | nil => rfl
  | cons c t =>
    have hc : c ≠ q := fun he => h (congrArg some he)
    simp [quoted?, hc]

theorem quoted?_closed (h : q ∉ body) :
    quoted? q (q :: body ++ q :: rest) = some (q :: body ++ [q], rest) := by
  simp [quoted?, takeWhile_bne_append h, dropWhile_bne_append h]

theorem quoted?_unclosed (h : q ∉ body) : quoted? q (q :: body) = some (q :: body, []) := by
  have hall := bne_of_not_mem h
  simp [quoted?, List.takeWhile_eq_self_iff.mpr hall, List.dropWhile_eq_nil_iff.mpr hall]

theorem quoted?_cases (h : quoted? q t = some (s, rest)) : ∃ body : Text, q ∉ body ∧
    (s = q :: body ++ [q] ∨ s = q :: body ∧ rest = []) := by
  cases t with
  | nil => cases h
  | cons c t =>
    simp only [quoted?] at h
    split at h
    case isFalse => cases h
    case isTrue hc =>
      obtain ⟨hs, hrest⟩ := Prod.mk.inj (Option.some.inj h)
      have hc : c = q := beq_iff_eq.mp hc
      refine ⟨t.takeWhile (· != q), not_mem_takeWhile_bne, ?_⟩
      by_cases hd : t.dropWhile (· != q) = []
      case pos =>
        rw [hd] at hs hrest
        exact .inr ⟨by simp [← hs, hc], hrest.symm⟩
      case neg =>
        obtain ⟨rest', hd⟩ := dropWhile_bne_eq_cons hd
        rw [hd] at hs
        exact .inl (by simp [← hs, hc])

end Quotations

section Fields

-- The form of a field: its first closing bracket ends it, and no delimiter stands behind its first
-- space.
inductive FieldForm (o q : Char) : Text → Prop
  | mk {body : Text} : q ∉ body → (∀ c ∈ body.dropWhile (· != ' '), c ∉ fieldStops) →
    FieldForm o q (o :: body ++ [q])

theorem FieldForm.head? (h : FieldForm o q s) : (s ++ t).head? = some o := by
  cases h
  rfl

theorem any_fieldStops_eq_false : (t.dropWhile (· != ' ')).any fieldStops.contains = false ↔
    ∀ c ∈ t.dropWhile (· != ' '), c ∉ fieldStops := by
  simp

theorem enclosed?_eq_some_iff :
    enclosed? o q t = some (s, rest) ↔ FieldForm o q s ∧ t = s ++ rest := by
  constructor
  case mp =>
    intro h
    obtain ⟨ht, _⟩ := eq_append_of_enclosed? h
    cases t with
    | nil => cases h
    | cons c t =>
      simp only [enclosed?] at h
      split at h
      case isTrue => cases h
      case isFalse hc =>
        split at h
        case isTrue => cases h
        case isFalse hstops =>
          obtain ⟨hs, _⟩ := Prod.mk.inj (Option.some.inj h)
          simp only [Bool.or_eq_true, bne_iff_ne, not_or, Decidable.not_not,
            List.isEmpty_iff] at hc
          obtain ⟨rest', hd⟩ := dropWhile_bne_eq_cons hc.2
          have hs : s = o :: t.takeWhile (· != q) ++ [q] := by simp [← hs, hd, hc.1]
          have hbody := any_fieldStops_eq_false.mp (Bool.eq_false_iff.mpr hstops)
          exact ⟨hs ▸ .mk not_mem_takeWhile_bne hbody, ht⟩
  case mpr =>
    rintro ⟨hs, ht⟩
    cases hs with
    | @mk body hq hbody =>
      have ht : t = o :: (body ++ q :: rest) := by simp [ht]
      have hstops := any_fieldStops_eq_false.mpr hbody
      simp only [ht, enclosed?, takeWhile_bne_append hq, dropWhile_bne_append hq, hstops]
      simp

theorem enclosed?_of_head (h : t.head? ≠ some o) : enclosed? o q t = none := by
  cases t with
  | nil => rfl
  | cons c t =>
    have hc : c ≠ o := fun he => h (congrArg some he)
    simp [enclosed?, hc]

end Fields

section Tags

inductive TagForm : Text → Prop
  | mk {before field plus behind : Text} :
    (∀ c ∈ before, c = '/') → FieldForm '[' ']' field → plus = [] ∨ plus = ['+'] →
    (∀ c ∈ behind, c = '/') → TagForm (before ++ (field ++ (plus ++ behind)))

theorem TagForm.head? (h : TagForm s) :
    (s ++ t).head? = some '/' ∨ (s ++ t).head? = some '[' := by
  cases h with
  | @mk before field plus behind hbefore hfield =>
    cases before with
    | nil => exact .inr (by simpa using hfield.head? (t := plus ++ behind ++ t))
    | cons c before => exact .inl (congrArg some (hbefore c List.mem_cons_self))

theorem TagForm.getLast? (h : TagForm s) (hc : c ∈ s.getLast?) : c = '/' ∨ c = '+' ∨ c = ']' := by
  cases h with
  | @mk before field plus behind _ hfield hplus hbehind =>
    have hfield : field.getLast? = some ']' := by
      cases hfield
      exact List.getLast?_concat
    simp only [List.getLast?_append, hfield] at hc
    cases hlast : behind.getLast? with
    | some d =>
      have hd : d = '/' := hbehind d (List.mem_of_getLast? hlast)
      have hdc : d = c := by simpa [hlast] using hc
      exact .inl (hdc ▸ hd)
    | none =>
      cases hplus with
      | inl hplus => exact .inr (.inr (by simpa [hlast, hplus, eq_comm] using hc))
      | inr hplus => exact .inr (.inl (by simpa [hlast, hplus, eq_comm] using hc))

theorem eq_slash_of_mem_takeWhile : ∀ c ∈ t.takeWhile (· == '/'), c = '/' :=
  fun c hc => by simpa using List.mem_takeWhile_imp hc

theorem tagField?_form (h : tagField? t = some (s, rest)) : TagForm s := by
  simp only [tagField?, Option.bind_eq_bind, Option.bind_eq_some_iff] at h
  obtain ⟨⟨field, tail⟩, hfield, h⟩ := h
  obtain ⟨hform, _⟩ := enclosed?_eq_some_iff.mp hfield
  obtain ⟨h, _⟩ := Prod.mk.inj (Option.some.inj h)
  rw [← h, List.append_assoc, List.append_assoc]
  refine .mk eq_slash_of_mem_takeWhile hform ?_ eq_slash_of_mem_takeWhile
  split
  · exact .inr rfl
  · exact .inl rfl

theorem tagField?_append (h : TagForm s) (hgap : Apart gap) :
    tagField? (s ++ gap) = some (s, gap) := by
  cases h with
  | @mk before field plus behind hbefore hfield hplus hbehind =>
    have hslash : ∀ {u : Text}, (∀ c ∈ u, c = '/') → ∀ c ∈ u, (c == '/') = true :=
      fun hu c hc => beq_iff_eq.mpr (hu c hc)
    have hopen : ∀ c ∈ (field ++ (plus ++ (behind ++ gap))).head?, (c == '/') = false := by
      rw [hfield.head?]
      simp
    have hread := enclosed?_eq_some_iff.mpr
      ⟨hfield, (rfl : field ++ (plus ++ (behind ++ gap)) = _)⟩
    have htake : (behind ++ gap).takeWhile (· == '/') = behind :=
      takeWhile_append_of_stop (hslash hbehind) (hgap.stop rfl)
    have hdrop : (behind ++ gap).dropWhile (· == '/') = gap :=
      dropWhile_append_of_stop (hslash hbehind) (hgap.stop rfl)
    -- What stands behind the field is no second plus sign.
    have hnoplus : ∀ u, behind ++ gap ≠ '+' :: u := by
      intro u hu
      cases behind with
      | nil =>
        cases hgap with
        | nil => exact nomatch hu
        | space => exact absurd (List.cons.inj hu).1 (by decide)
      | cons c behind =>
        have hc : c = '/' := hbehind c List.mem_cons_self
        exact absurd (hc.symm.trans (List.cons.inj hu).1) (by decide)
    simp only [List.append_assoc, tagField?]
    rw [takeWhile_append_of_stop (hslash hbefore) hopen,
      dropWhile_append_of_stop (hslash hbefore) hopen, hread]
    cases hplus with
    | inl hplus => simp [hplus, htake, hdrop]
    | inr hplus => simp [hplus, htake, hdrop]

theorem tagField?_eq_none_iff :
    tagField? t = none ↔ enclosed? '[' ']' (t.dropWhile (· == '/')) = none := by
  simp only [tagField?, Option.bind_eq_bind, Option.bind_eq_none_iff]
  cases enclosed? '[' ']' (t.dropWhile (· == '/')) with
  | none => simp
  | some => simp

theorem tagField?_of_head (hslash : t.head? ≠ some '/') (hopen : t.head? ≠ some '[') :
    tagField? t = none := by
  have hdrop : t.dropWhile (· == '/') = t := by
    cases t with
    | nil => rfl
    | cons c t => exact List.dropWhile_cons_of_neg fun hc => hslash (by simpa using hc)
  rw [tagField?_eq_none_iff, hdrop]
  exact enclosed?_of_head hopen

end Tags

section Plain

def PlainForm (t : Text) : Prop :=
  ' ' ∉ t ∧ '(' ∉ t ∧ ')' ∉ t

theorem plainForm_cons : PlainForm (c :: t) ↔ (c ≠ ' ' ∧ c ≠ '(' ∧ c ≠ ')') ∧ PlainForm t := by
  simp only [PlainForm, List.mem_cons, not_or, ne_eq, @eq_comm _ c]
  grind

theorem plainForm_plain (t : Text) : PlainForm (plain t).1 := by
  fun_induction plain t with
  | case1 => simp [PlainForm]
  | case2 => simp [PlainForm]
  | case3 c t hend run rest hplain ih =>
    rw [hplain] at ih
    refine plainForm_cons.mpr ⟨⟨?_, ?_, ?_⟩, ih⟩
    all_goals
      intro hc
      rw [hc] at hend
      exact hend rfl

theorem endsPlain_of_plainForm (h : PlainForm (c :: run)) (hgap : Apart gap) :
    endsPlain c (run ++ gap) = false := by
  have ⟨⟨hspace, hopen, hclose⟩, hrun⟩ := plainForm_cons.mp h
  -- Nothing behind `c` opens a group without a parenthesis.
  have hopening : opening? (run ++ gap) = none := opening?_of_not_mem hrun.2.1 hgap
  have hnext : (run ++ gap).head? ≠ some '(' := by
    intro hnext
    have ⟨u, hu⟩ := List.head?_eq_some_iff.mp hnext
    rw [hu] at hopening
    exact nomatch hopening
  simp only [endsPlain]
  split
  case h_1 => exact absurd rfl hopen
  case h_2 => exact absurd rfl hclose
  case h_3 => exact absurd rfl hspace
  case h_4 => rw [hopening]; rfl
  case h_8 => rfl
  all_goals exact beq_eq_false_iff_ne.mpr hnext

theorem plain_append (h : PlainForm run) (hgap : Apart gap) : plain (run ++ gap) = (run, gap) := by
  induction run with
  | nil =>
    cases hgap with
    | nil => rfl
    | space => rfl
  | cons c run ih =>
    have ⟨_, hrun⟩ := plainForm_cons.mp h
    simp [plain, endsPlain_of_plainForm h hgap, ih hrun]

theorem plain?_append (hne : run ≠ []) (h : PlainForm run) (hgap : Apart gap) :
    plain? (run ++ gap) = some (run, gap) := by
  simp [plain?, plain_append h hgap, hne]

theorem plain?_form (h : plain? t = some (s, rest)) : PlainForm s := by
  simp only [plain?] at h
  split at h
  case isTrue => cases h
  case isFalse =>
    obtain ⟨hs, _⟩ := Prod.mk.inj (Option.some.inj h)
    exact hs ▸ plainForm_plain t

end Plain

end ExcerptSearch.Query
