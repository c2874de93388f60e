import ExcerptSearch.Query.Wildcard

namespace ExcerptSearch.Query

def charPattern (c : Char) : Text :=
  if c = '*' then insideField ++ ['*', '?']
  else if c = '_' then insideField
  else if c = '$' then wordBoundary
  else Regex.escape [c]

section Replace

variable {c x : Char} {new t rest : Text}

theorem replace_eq_flatMap :
    Text.replace [x] new t = t.flatMap fun c => if c = x then new else [c] := by
  unfold Text.replace
  induction t with
  | nil => rfl
  | cons c t ih =>
    by_cases hc : c = x
    case pos => simp [Text.replace.go, hc, ih]
    case neg => simp [Text.replace.go, hc, Ne.symm hc, ih]

theorem replace_escaped_self :
    Text.replace ['\\', x] new ('\\' :: x :: rest) = new ++ Text.replace ['\\', x] new rest := by
  simp [Text.replace, Text.replace.go]

theorem replace_cons_of_ne (h : c ≠ '\\' ∨ rest.head? ≠ some x) :
    Text.replace ['\\', x] new (c :: rest) = c :: Text.replace ['\\', x] new rest := by
  have hprefix : ['\\', x].isPrefixOf (c :: rest) = false := by
    cases rest with
    | nil => simp [List.isPrefixOf]
    | cons d rest =>
      simp only [List.isPrefixOf, Bool.and_true, Bool.and_eq_false_iff, beq_eq_false_iff_ne]
      simpa [eq_comm] using h
  simp [Text.replace, Text.replace.go, hprefix]

theorem escape_of_isMeta (h : Regex.Parser.Escape.isMeta c = true) :
    Regex.escape [c] = ['\\', c] := by
  simp [Regex.escape, h]

theorem escape_of_not_isMeta (h : Regex.Parser.Escape.isMeta c = false) :
    Regex.escape [c] = [c] := by
  simp [Regex.escape, h]

theorem replace_escape_of_ne (hc : c ≠ x) (hrest : rest.head? ≠ some x) :
    Text.replace ['\\', x] new (Regex.escape [c] ++ rest) =
      Regex.escape [c] ++ Text.replace ['\\', x] new rest := by
  cases hm : Regex.Parser.Escape.isMeta c with
  | true =>
    have hfirst : (c :: rest).head? ≠ some x := by simpa using hc
    simp [escape_of_isMeta hm, replace_cons_of_ne (.inr hfirst), replace_cons_of_ne (.inr hrest)]
  | false =>
    have hne : c ≠ '\\' := fun h => absurd hm (by rw [h]; decide)
    simp [escape_of_not_isMeta hm, replace_cons_of_ne (.inl hne)]

-- A text in blocks, none of which begins with `x`, is replaced block by block.
theorem replace_flatMap {f g : Char → Text} (hhead : ∀ c, ∃ d s, f c = d :: s ∧ d ≠ x)
    (hblock : ∀ c rest, rest.head? ≠ some x → Text.replace ['\\', x] new (f c ++ rest) =
      g c ++ Text.replace ['\\', x] new rest) :
    Text.replace ['\\', x] new (t.flatMap f) = t.flatMap g := by
  induction t with
  | nil => rfl
  | cons c t ih =>
    have hrest : (t.flatMap f).head? ≠ some x := by
      cases t with
      | nil => simp
      | cons c t =>
        have ⟨d, s, hd, hne⟩ := hhead c
        simp [hd, hne]
    rw [List.flatMap_cons, List.flatMap_cons, hblock c _ hrest, ih]

end Replace

-- The steps between an escaped character and its pattern.
def starredPattern (c : Char) : Text :=
  if c = '*' then insideField ++ ['*', '?'] else Regex.escape [c]

def markedPattern (c : Char) : Text :=
  if c = '_' then insideField else starredPattern c

theorem escape_eq_flatMap (t : Text) : Regex.escape t = t.flatMap fun c => Regex.escape [c] := by
  simp [Regex.escape]

theorem escape_head {c x : Char} (hx : Regex.Parser.Escape.isMeta x = true) (hne : x ≠ '\\') :
    ∃ d s, Regex.escape [c] = d :: s ∧ d ≠ x := by
  cases hm : Regex.Parser.Escape.isMeta c with
  | true => exact ⟨'\\', [c], escape_of_isMeta hm, Ne.symm hne⟩
  | false => exact ⟨c, [], escape_of_not_isMeta hm, fun h => by simp [h, hx] at hm⟩

theorem replace_stars (t : Text) :
    Text.replace ['\\', '*'] (insideField ++ ['*', '?']) (Regex.escape t) =
      t.flatMap starredPattern := by
  rw [escape_eq_flatMap]
  apply replace_flatMap
  case hhead => exact fun c => escape_head (by decide) (by decide)
  case hblock =>
    intro c rest hrest
    by_cases hc : c = '*'
    case pos =>
      subst hc
      exact replace_escaped_self
    case neg =>
      rw [starredPattern, if_neg hc]
      exact replace_escape_of_ne hc hrest

theorem replace_underscores (t : Text) :
    Text.replace ['_'] insideField (t.flatMap starredPattern) = t.flatMap markedPattern := by
  rw [replace_eq_flatMap, List.flatMap_assoc]
  congr 1
  funext c
  by_cases hc : c = '_'
  case pos => rw [hc]; rfl
  case neg =>
    rw [markedPattern, if_neg hc, starredPattern]
    split
    case isTrue => decide
    case isFalse =>
      cases hm : Regex.Parser.Escape.isMeta c with
      | true => simp [escape_of_isMeta hm, hc]
      | false => simp [escape_of_not_isMeta hm, hc]

theorem replace_dollars (t : Text) :
    Text.replace ['\\', '$'] wordBoundary (t.flatMap markedPattern) = t.flatMap charPattern := by
  apply replace_flatMap
  -- A dollar sign stands in the text only behind a backslash.
  case hhead =>
    intro c
    unfold markedPattern starredPattern
    split
    · exact ⟨'[', _, rfl, by decide⟩
    · split
      · exact ⟨'[', _, rfl, by decide⟩
      · exact escape_head (by decide) (by decide)
  case hblock =>
    intro c rest hrest
    by_cases hstar : c = '*'
    case pos =>
      subst hstar
      have hm : markedPattern '*' = insideField ++ ['*', '?'] := rfl
      have hp : charPattern '*' = insideField ++ ['*', '?'] := rfl
      rw [hm, hp]
      simp [insideField, replace_cons_of_ne]
    case neg =>
      by_cases hscore : c = '_'
      case pos =>
        subst hscore
        have hm : markedPattern '_' = insideField := rfl
        have hp : charPattern '_' = insideField := rfl
        rw [hm, hp]
        simp [insideField, replace_cons_of_ne]
      case neg =>
        rw [markedPattern, if_neg hscore, starredPattern, if_neg hstar, charPattern, if_neg hstar,
          if_neg hscore]
        by_cases hdollar : c = '$'
        case pos =>
          subst hdollar
          exact replace_escaped_self
        case neg =>
          rw [if_neg hdollar]
          exact replace_escape_of_ne hdollar hrest

theorem expand_eq_flatMap (t : Text) : expand t = t.flatMap charPattern := by
  rw [expand, replace_stars, replace_underscores, replace_dollars]

end ExcerptSearch.Query
