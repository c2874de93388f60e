import ExcerptSearch.Query.Tokenize
import Mathlib.Data.List.TakeWhile

namespace ExcerptSearch.Query

def groupMarks : GroupKind → List Text
  | .all    => [['('], ['&', '(']]
  | .any    => [['|', '(']]
  | .single => [['~', '(']]

inductive Source : Token → Text → Prop
  | closing : Source .closing [')']
  | opening {kind : GroupKind} {negated : Bool} {s : Text} :
    s ∈ groupMarks kind → Source (.opening kind negated) (negationMark negated ++ s)
  | term {negated : Bool} {s : Text} :
    s ≠ [] → Source (.term negated s.trim) (negationMark negated ++ s)

-- `Laid ts q` says that `q` is made of sources of the tokens and of white space around them.
inductive Laid : List Token → Text → Prop
  | nil {w : Text} : w.isBlank → Laid [] w
  | cons {t : Token} {ts : List Token} {w s q : Text} :
    w.isBlank → Source t s → Laid ts q → Laid (t :: ts) (w ++ s ++ q)

section Sources

variable {c : Char} {cs t rest : Text}

theorem exists_groupMark {kind : GroupKind} (h : opening? t = some (kind, rest)) :
    ∃ s ∈ groupMarks kind, t = s ++ rest := by
  unfold opening? at h
  split at h
  case h_5 => exact nomatch h
  all_goals
    obtain ⟨rfl, rfl⟩ := Prod.mk.inj (Option.some.inj h)
    simp [groupMarks]

theorem exists_source_of_part? {p : Part} (h : part? t = some (p, rest)) :
    ∃ s, t = s ++ rest ∧ ∀ negated, Source (p.token negated) (negationMark negated ++ s) := by
  unfold part? at h
  split at h
  case h_1 kind rest' hopening =>
    obtain ⟨rfl, rfl⟩ := Prod.mk.inj (Option.some.inj h)
    have ⟨s, hs, ht⟩ := exists_groupMark hopening
    exact ⟨s, ht, fun _ => .opening hs⟩
  case h_2 =>
    have ⟨⟨s, rest'⟩, hsource, h⟩ := Option.map_eq_some_iff.mp h
    obtain ⟨rfl, rfl⟩ := Prod.mk.inj h
    have ⟨ht, hs⟩ := eq_append_of_source? hsource
    exact ⟨s, ht, fun _ => .term hs⟩

theorem exists_source_of_first? {k : Token} (h : first? c cs = some (k, rest)) :
    ∃ s, c :: cs = s ++ rest ∧ Source k s := by
  unfold first? at h
  split at h
  case isTrue hc =>
    obtain ⟨rfl, rfl⟩ := Prod.mk.inj (Option.some.inj h)
    obtain rfl := beq_iff_eq.mp hc
    exact ⟨[')'], rfl, .closing⟩
  case isFalse =>
    split at h
    case h_1 p rest' hp =>
      obtain ⟨rfl, rfl⟩ := Prod.mk.inj (Option.some.inj h)
      split at hp
      case isTrue hc =>
        obtain ⟨s, rfl, hs⟩ := exists_source_of_part? hp
        obtain rfl := beq_iff_eq.mp hc
        exact ⟨'!' :: s, rfl, hs true⟩
      case isFalse => exact nomatch hp
    case h_2 =>
      have ⟨⟨p, rest'⟩, hp, h⟩ := Option.map_eq_some_iff.mp h
      obtain ⟨rfl, rfl⟩ := Prod.mk.inj h
      have ⟨s, hs, hsource⟩ := exists_source_of_part? hp
      exact ⟨s, hs, hsource false⟩

end Sources

section Progress

variable {c : Char} {cs : Text}

theorem isSome_part?_of_opening? (h : (opening? cs).isSome) : (part? cs).isSome := by
  have ⟨⟨kind, rest⟩, h⟩ := Option.isSome_iff_exists.mp h
  simp [part?, h]

theorem isSome_part?_of_plain (h : endsPlain c cs = false) : (part? (c :: cs)).isSome := by
  have hplain : (plain? (c :: cs)).isSome := by simp [plain?, plain, h]
  unfold part?
  split
  case h_1 => rfl
  case h_2 => simp [source?, hplain]

theorem endsPlain_cases (h : endsPlain c cs = true) :
    c = ' ' ∨ c = ')' ∨ (opening? (c :: cs)).isSome ∨ c = '!' ∧ (opening? cs).isSome := by
  have hsigned : (cs.head? == some '(') = true → ∃ rest, cs = '(' :: rest := by
    intro h
    have ⟨rest, hrest⟩ := List.head?_eq_some_iff.mp (beq_iff_eq.mp h)
    exact ⟨rest, hrest⟩
  unfold endsPlain at h
  split at h
  case h_1 => exact .inr (.inr (.inl rfl))
  case h_2 => exact .inr (.inl rfl)
  case h_3 => exact .inl rfl
  case h_4 => exact .inr (.inr (.inr ⟨rfl, h⟩))
  case h_8 => exact nomatch h
  all_goals
    obtain ⟨rest, rfl⟩ := hsigned h
    exact .inr (.inr (.inl rfl))

theorem isSome_first?_of_part? (h : (part? (c :: cs)).isSome) : (first? c cs).isSome := by
  unfold first?
  split
  case isTrue => rfl
  case isFalse =>
    split
    case h_1 => rfl
    case h_2 => simpa using h

theorem isSome_first? (hc : Unicode.isWhiteSpace c = false) : (first? c cs).isSome := by
  cases hend : endsPlain c cs with
  | false => exact isSome_first?_of_part? (isSome_part?_of_plain hend)
  | true =>
    obtain rfl | rfl | hopening | ⟨rfl, hopening⟩ := endsPlain_cases hend
    · exact absurd hc (by decide)
    · rfl
    · exact isSome_first?_of_part? (isSome_part?_of_opening? hopening)
    · have ⟨⟨p, rest⟩, hp⟩ := Option.isSome_iff_exists.mp (isSome_part?_of_opening? hopening)
      simp [first?, hp]

end Progress

section Tokens

variable {c : Char} {cs q rest : Text}

theorem tokenize_of_trimStart_nil (h : q.trimStart = []) : tokenize q = [] := by
  rw [tokenize.eq_def]
  split
  case h_1 => rfl
  case h_2 c cs hq => simp [h] at hq

theorem tokenize_of_first? {t : Token} (h : q.trimStart = c :: cs)
    (hfirst : first? c cs = some (t, rest)) : tokenize q = t :: tokenize rest := by
  rw [tokenize.eq_def]
  split
  case h_1 hq => simp [h] at hq
  case h_2 c' cs' hq =>
    obtain ⟨rfl, rfl⟩ := List.cons.inj (h.symm.trans hq)
    split
    case h_1 t' rest' hfirst' =>
      obtain ⟨rfl, rfl⟩ := Prod.mk.inj (Option.some.inj (hfirst.symm.trans hfirst'))
      rfl
    case h_2 hfirst' => simp [hfirst] at hfirst'

theorem trimStart_cons (hc : Unicode.isWhiteSpace c = false) :
    Text.trimStart (c :: cs) = c :: cs :=
  List.dropWhile_cons_of_neg (by simp [hc])

theorem tokenize_of_part? {p : Part} (negated : Bool) (hc : Unicode.isWhiteSpace c = false)
    (hmark : c ≠ '!') (hclosing : c ≠ ')') (h : part? (c :: cs) = some (p, rest)) :
    tokenize (negationMark negated ++ c :: cs) = p.token negated :: tokenize rest := by
  cases negated with
  | false =>
    have hfirst : first? c cs = some (p.token false, rest) := by simp [first?, hmark, hclosing, h]
    exact tokenize_of_first? (trimStart_cons hc) hfirst
  | true =>
    have hfirst : first? '!' (c :: cs) = some (p.token true, rest) := by simp [first?, h]
    exact tokenize_of_first? rfl hfirst

theorem exists_first?_of_trimStart (h : q.trimStart = c :: cs) :
    ∃ t rest, first? c cs = some (t, rest) := by
  have hc : Unicode.isWhiteSpace c = false := by
    have hhead := List.head?_dropWhile_not Unicode.isWhiteSpace q
    have hdrop : q.dropWhile Unicode.isWhiteSpace = c :: cs := h
    simpa [hdrop] using hhead
  have hsome : (first? c cs).isSome := isSome_first? hc
  have ⟨⟨t, rest⟩, hfirst⟩ := Option.isSome_iff_exists.mp hsome
  exact ⟨t, rest, hfirst⟩

theorem laid_tokenize (q : Text) : Laid (tokenize q) q := by
  -- The recursion of `tokenize` has a case in which a character is passed over, but that cannot be.
  induction q using tokenize.induct with
  | case1 q h =>
    rw [tokenize_of_trimStart_nil h]
    exact .nil (List.all_eq_true.mpr (List.dropWhile_eq_nil_iff.mp h))
  | case2 q c cs h t rest hfirst ih =>
    have ⟨s, hs, hsource⟩ := exists_source_of_first? hfirst
    have hq : q.takeWhile Unicode.isWhiteSpace ++ s ++ rest = q := by
      rw [List.append_assoc, ← hs, ← h]
      exact List.takeWhile_append_dropWhile
    have hblank : Text.isBlank (q.takeWhile Unicode.isWhiteSpace) := List.all_takeWhile
    have hlaid := Laid.cons hblank hsource ih
    rw [tokenize_of_first? h hfirst]
    rwa [hq] at hlaid
  | case3 q c cs h hfirst =>
    have ⟨t, rest, hfirst'⟩ := exists_first?_of_trimStart h
    simp [hfirst] at hfirst'

theorem trim_subset (s : Text) : s.trim ⊆ s := by
  intro c hc
  have hstart : c ∈ s.trimStart :=
    List.mem_reverse.mp ((List.dropWhile_suffix _).subset (List.mem_reverse.mp hc))
  exact (List.dropWhile_suffix _).subset hstart

theorem Laid.subset {ts : List Token} {negated : Bool} {text : Text} (h : Laid ts q)
    (ht : .term negated text ∈ ts) : text ⊆ q := by
  induction h with
  | nil => exact nomatch ht
  | @cons t ts w s q _ hsource _ ih =>
    obtain rfl | ht := List.mem_cons.mp ht
    · cases hsource with
      | @term _ s _ => exact fun c hc => by simp [trim_subset s hc]
    · exact fun c hc => List.mem_append_right _ (ih ht hc)

theorem subset_of_mem_tokenize {negated : Bool} {text : Text}
    (h : .term negated text ∈ tokenize q) : text ⊆ q :=
  (laid_tokenize q).subset h

-- A query is made of the sources of its tokens and of white space around them. No character is ever
-- passed over, since a token begins wherever no white space stands.
theorem tokenize_layout (q : Text) : Laid (tokenize q) q ∧
    ∀ c cs, q.trimStart = c :: cs →
      ∃ t rest, first? c cs = some (t, rest) ∧ tokenize q = t :: tokenize rest := by
  refine ⟨laid_tokenize q, fun c cs h => ?_⟩
  have ⟨t, rest, hfirst⟩ := exists_first?_of_trimStart h
  exact ⟨t, rest, hfirst, tokenize_of_first? h hfirst⟩

theorem tokenize_layout_negations :
    Laid [.term false ['!'], .opening .any true, .term true ['!', '"'], .closing]
      [' ', '!', ' ', '!', '|', '(', '!', '!', '"', ')', ' '] ∧
    ∃ t rest, first? '!' [' ', '&', '('] = some (t, rest) ∧
      tokenize [' ', '!', ' ', '&', '('] = t :: tokenize rest := by
  have htokens : tokenize [' ', '!', ' ', '!', '|', '(', '!', '!', '"', ')', ' '] =
      [.term false ['!'], .opening .any true, .term true ['!', '"'], .closing] := by cbv
  exact ⟨htokens ▸ (tokenize_layout _).1, (tokenize_layout _).2 _ _ rfl⟩

end Tokens

end ExcerptSearch.Query
