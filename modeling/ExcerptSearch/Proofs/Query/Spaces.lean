import ExcerptSearch.Proofs.Query.Inert
import ExcerptSearch.Proofs.Query.Reprint
import ExcerptSearch.Query.Basic

namespace ExcerptSearch.Query

variable {α β : Type} {c d o q : Char} {s t u : Text} {p : Char → Bool}

section Trailing

-- What is read where a space is put behind the text: the same, and the space is left over or, at
-- the end, read with it and dropped.
inductive Trailed : Option (α × Text) → Option (α × Text) → Prop
  | none : Trailed none none
  | left {a : α} {rest : Text} : Trailed (some (a, rest)) (some (a, rest ++ [' ']))
  | dropped {a : α} : Trailed (some (a, [])) (some (a, []))

namespace Trailed

variable {x x' y y' : Option (α × Text)}

theorem map (h : Trailed x x') (f : α → β) :
    Trailed (x.map (Prod.map f id)) (x'.map (Prod.map f id)) := by
  cases h with
  | none => exact .none
  | left => exact .left
  | dropped => exact .dropped

theorem or (hx : Trailed x x') (hy : Trailed y y') : Trailed (x.or y) (x'.or y') := by
  cases hx with
  | none => exact hy
  | left => exact .left
  | dropped => exact .dropped

theorem of_map (x : Option (α × Text)) : Trailed x (x.map (Prod.map id (· ++ [' ']))) := by
  cases x with
  | none => exact .none
  | some => exact .left

end Trailed

theorem takeWhile_concat (hp : p c = false) : (t ++ [c]).takeWhile p = t.takeWhile p := by
  rw [List.takeWhile_append]
  split
  case isTrue h =>
    have heq := (List.takeWhile_prefix p).eq_of_length h
    simp [hp, heq]
  case isFalse => rfl

theorem dropWhile_concat (hp : p c = false) : (t ++ [c]).dropWhile p = t.dropWhile p ++ [c] := by
  rw [List.dropWhile_append]
  split
  case isTrue h => simp_all
  case isFalse => rfl

theorem trim_concat (hc : Unicode.isWhiteSpace c = true) : Text.trim (s ++ [c]) = s.trim := by
  have hend : ∀ u : Text, Text.trimEnd (u ++ [c]) = u.trimEnd := by
    intro u
    simp [Text.trimEnd, Text.dropEndWhile, hc]
  simp only [Text.trim, Text.trimStart, List.dropWhile_append]
  split
  case isTrue h =>
    rw [List.isEmpty_iff.mp h]
    simp [hc]
  case isFalse => exact hend _

theorem opening?_append_space :
    opening? (t ++ ' ' :: u) = (opening? t).map (Prod.map id (· ++ ' ' :: u)) := by
  match t with
  | []          => rfl
  | [c]         =>
    rw [List.singleton_append]
    unfold opening?
    split <;> simp_all
  | c :: d :: t =>
    rw [List.cons_append, List.cons_append]
    unfold opening?
    split <;> simp_all

theorem enclosed?_concat_space (hq : q ≠ ' ') :
    enclosed? o q (t ++ [' ']) = (enclosed? o q t).map (Prod.map id (· ++ [' '])) := by
  apply Option.ext
  rintro ⟨s, rest⟩
  simp only [Option.map_eq_some_iff, Prod.exists, Prod.map, id, Prod.mk.injEq,
    enclosed?_eq_some_iff]
  constructor
  case mp =>
    intro ⟨hs, ht⟩
    have hlast : s.getLast? = some q := by
      cases hs
      exact List.getLast?_concat
    have hrest : rest ≠ [] := by
      rintro rfl
      rw [List.append_nil] at ht
      rw [← ht, List.getLast?_concat] at hlast
      exact hq (Option.some.inj hlast).symm
    obtain ⟨rest, d, rfl⟩ := List.eq_nil_or_concat' rest |>.resolve_left hrest
    rw [← List.append_assoc] at ht
    obtain ⟨rfl, hd⟩ := List.append_inj' ht rfl
    exact ⟨s, rest, ⟨hs, rfl⟩, rfl, by rw [hd]⟩
  case mpr =>
    rintro ⟨s, rest, ⟨hs, rfl⟩, rfl, rfl⟩
    exact ⟨hs, List.append_assoc _ _ _⟩

theorem tagField?_concat_space :
    tagField? (t ++ [' ']) = (tagField? t).map (Prod.map id (· ++ [' '])) := by
  have htake : ∀ u : Text, (u ++ [' ']).takeWhile (· == '/') = u.takeWhile (· == '/') :=
    fun _ => takeWhile_concat rfl
  have hdrop : ∀ u : Text, (u ++ [' ']).dropWhile (· == '/') = u.dropWhile (· == '/') ++ [' '] :=
    fun _ => dropWhile_concat rfl
  unfold tagField?
  rw [htake, hdrop, enclosed?_concat_space (by decide : ']' ≠ ' ')]
  cases enclosed? '[' ']' (t.dropWhile (· == '/')) with
  | none => rfl
  | some x =>
    obtain ⟨field, rest⟩ := x
    cases rest with
    | nil => simp
    | cons c rest =>
      by_cases hc : c = '+'
      case pos => simp [hc, htake, hdrop]
      case neg =>
        have hall := And.intro (htake (c :: rest)) (hdrop (c :: rest))
        rw [List.cons_append] at hall
        simp [hc, hall]

theorem endsPlain_append_space : endsPlain c (t ++ ' ' :: u) = endsPlain c t := by
  have hnext : (t ++ ' ' :: u).head? == some '(' ↔ t.head? == some '(' := by
    cases t <;> simp
  unfold endsPlain
  split <;> simp_all [opening?_append_space]

theorem plain_append_space : plain (t ++ ' ' :: u) = ((plain t).1, (plain t).2 ++ ' ' :: u) := by
  induction t with
  | nil => rfl
  | cons c t ih =>
    simp only [List.cons_append, plain, endsPlain_append_space, ih]
    split
    case isTrue => rfl
    case isFalse => rfl

theorem plain?_append_space :
    plain? (t ++ ' ' :: u) = (plain? t).map (Prod.map id (· ++ ' ' :: u)) := by
  simp only [plain?, plain_append_space]
  split
  case isTrue => rfl
  case isFalse => rfl

def trimmed (x : Option (Text × Text)) : Option (Text × Text) :=
  x.map (Prod.map Text.trim id)

theorem trailed_quoted? (hq : q ≠ ' ') :
    Trailed (trimmed (quoted? q t)) (trimmed (quoted? q (t ++ [' ']))) := by
  cases t with
  | nil =>
    have hnone : quoted? q [' '] = none := quoted?_of_head (by simpa using hq.symm)
    rw [List.nil_append, hnone]
    exact .none
  | cons c t =>
    by_cases hc : c = q
    case neg =>
      rw [quoted?_of_head (by simpa using hc), quoted?_of_head (by simpa using hc)]
      exact .none
    case pos =>
      subst hc
      by_cases hm : c ∈ t
      case pos =>
        obtain ⟨body, rest, rfl, hbody⟩ := List.eq_append_cons_of_mem hm
        have hspace : c :: (body ++ c :: rest) ++ [' '] = c :: body ++ c :: (rest ++ [' ']) := by
          simp
        rw [hspace, quoted?_closed hbody, ← List.cons_append, quoted?_closed hbody]
        exact .left
      case neg =>
        have hm' : c ∉ t ++ [' '] := by simpa [hm] using hq
        have htrim : Text.trim (c :: t ++ [' ']) = Text.trim (c :: t) := trim_concat rfl
        have hread : trimmed (some (c :: t ++ [' '], [])) = trimmed (some (c :: t, [])) := by
          simp only [trimmed, Option.map_some, Prod.map, htrim]
        rw [quoted?_unclosed hm, List.cons_append, quoted?_unclosed hm', ← List.cons_append, hread]
        exact .dropped

theorem trailed_source? (t : Text) :
    Trailed (trimmed (source? t)) (trimmed (source? (t ++ [' ']))) := by
  have hexact : ∀ {x x' : Option (Text × Text)}, x' = x.map (Prod.map id (· ++ [' '])) →
      Trailed (trimmed x) (trimmed x') := by
    rintro x _ rfl
    exact (Trailed.of_map x).map Text.trim
  have hor : ∀ {x y : Option (Text × Text)}, trimmed (x.or y) = (trimmed x).or (trimmed y) :=
    Option.map_or
  simp only [source?, hor]
  exact (trailed_quoted? (by decide)).or <| (trailed_quoted? (by decide)).or <|
    (hexact (enclosed?_concat_space (by decide))).or <| (hexact tagField?_concat_space).or <|
      hexact plain?_append_space

theorem trailed_part? (t : Text) : Trailed (part? t) (part? (t ++ [' '])) := by
  have hnone : ∀ u, opening? u = none →
      part? u = (trimmed (source? u)).map (Prod.map Part.term id) := by
    intro u h
    rw [part?, h, trimmed, Option.map_map]
    rfl
  have hspace := opening?_append_space (t := t) (u := [])
  cases h : opening? t with
  | none =>
    rw [h] at hspace
    rw [hnone _ h, hnone _ hspace]
    exact (trailed_source? t).map Part.term
  | some x =>
    rw [h] at hspace
    rw [part?, part?, h, hspace]
    exact .left

theorem trailed_first? (c : Char) (t : Text) : Trailed (first? c t) (first? c (t ++ [' '])) := by
  unfold first?
  split
  case isTrue => exact .left
  case isFalse =>
    have hnegated : Trailed (if c == '!' then part? t else none)
        (if c == '!' then part? (t ++ [' ']) else none) := by
      split
      case isTrue => exact trailed_part? t
      case isFalse => exact .none
    generalize (if c == '!' then part? t else none) = x at hnegated ⊢
    generalize (if c == '!' then part? (t ++ [' ']) else none) = x' at hnegated ⊢
    cases hnegated with
    | none => exact (trailed_part? (c :: t)).map (·.token false)
    | left => exact .left
    | dropped => exact .dropped

end Trailing

section Tokens

theorem trimStart_cons_space (t : Text) : Text.trimStart (' ' :: t) = t.trimStart :=
  rfl

theorem tokenize_concat_space (t : Text) : tokenize (t ++ [' ']) = tokenize t := by
  induction t using tokenize.induct with
  | case1 t h =>
    have hblank : Text.trimStart (t ++ [' ']) = [] := by
      simp only [Text.trimStart, List.dropWhile_append] at h ⊢
      rw [h]
      rfl
    rw [tokenize_of_trimStart_nil h, tokenize_of_trimStart_nil hblank]
  | case2 t c cs h token rest hfirst ih =>
    have hstart : Text.trimStart (t ++ [' ']) = c :: (cs ++ [' ']) := by
      simp only [Text.trimStart, List.dropWhile_append] at h ⊢
      rw [h]
      rfl
    have htrailed := trailed_first? c cs
    rw [hfirst] at htrailed
    rw [tokenize_of_first? h hfirst]
    generalize hfirst' : first? c (cs ++ [' ']) = x at htrailed
    cases htrailed with
    | left => rw [tokenize_of_first? hstart hfirst', ih]
    | dropped => rw [tokenize_of_first? hstart hfirst']
  | case3 t c cs h hnone =>
    obtain ⟨token, rest, hfirst⟩ := exists_first?_of_trimStart h
    cases hnone.symm.trans hfirst

def padded (m n : Nat) (t : Text) : Text :=
  List.replicate m ' ' ++ t ++ List.replicate n ' '

theorem padded_succ_left (m n : Nat) (t : Text) : padded (m + 1) n t = ' ' :: padded m n t :=
  rfl

theorem padded_succ_right (m n : Nat) (t : Text) : padded m (n + 1) t = padded m n t ++ [' '] := by
  rw [padded, padded, List.replicate_succ', ← List.append_assoc]

theorem padded_zero (t : Text) : padded 0 0 t = t :=
  List.append_nil t

theorem tokenize_padded (m n : Nat) (t : Text) : tokenize (padded m n t) = tokenize t := by
  induction m with
  | succ m ih => rw [padded_succ_left, tokenize_congr (trimStart_cons_space _), ih]
  | zero =>
    induction n with
    | zero => rw [padded_zero]
    | succ n ih => rw [padded_succ_right, tokenize_concat_space, ih]

theorem normalize_padded (m n : Nat) (t : Text) :
    normalize (padded m n t) = padded m n (normalize t) := by
  induction m with
  | succ m ih => rw [padded_succ_left, inert_space.normalize_cons, ih, padded_succ_left]
  | zero =>
    induction n with
    | zero => rw [padded_zero, padded_zero]
    | succ n ih => rw [padded_succ_right, inert_space.normalize_concat, ih, padded_succ_right]

end Tokens

theorem parse_padded (m n : Nat) (t : Text) (strict : Bool) :
    parse (padded m n t) strict =
      (parse t strict).map fun q => { q with text := padded m n q.text } := by
  simp only [parse, normalize_padded, tokenize_padded]
  cases treeOfTokens (rootKind strict) (tokenize (normalize t)) with
  | error e => rfl
  | ok root =>
    simp only [bind, Except.bind]
    cases Highlighter.ofPatterns? root.emphases with
    | none => rfl
    | some highlighter => rfl

end ExcerptSearch.Query
