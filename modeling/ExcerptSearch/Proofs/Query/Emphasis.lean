import ExcerptSearch.Proofs.Query.Wildcard
import ExcerptSearch.Query.Emphasis

namespace ExcerptSearch.Query

open Regex.Parser

section Marks

def isFieldMark (c : Char) : Bool :=
  isEscapedDelimiter c || isAngle c

def unmarked (t : Text) : Text :=
  Text.dropEndWhile isFieldMark (t.dropWhile isFieldMark)

variable {c : Char} {s t : Text}

theorem charPattern_plain (hc : isWildcard c = false) : charPattern c = Regex.escape [c] := by
  simp [charPattern, ne_of_isWildcard hc]

theorem charPattern_of_isEscapedDelimiter (h : isEscapedDelimiter c) :
    charPattern c = ['\\', c] := by
  simp only [isEscapedDelimiter, Bool.or_eq_true, beq_iff_eq] at h
  obtain (((rfl | rfl) | rfl) | rfl) | rfl := h
  all_goals rfl

theorem charPattern_of_isAngle (h : isAngle c) : charPattern c = [c] := by
  simp only [isAngle, Bool.or_eq_true, beq_iff_eq] at h
  obtain rfl | rfl := h
  all_goals rfl

theorem isAngle_of_isEscapedDelimiter (h : isEscapedDelimiter c) : isAngle c = false := by
  simp only [isEscapedDelimiter, Bool.or_eq_true, beq_iff_eq] at h
  obtain (((rfl | rfl) | rfl) | rfl) | rfl := h
  all_goals rfl

-- What drops the blocks of field marks, and no others, drops the field marks a text begins with.
theorem drop_flatMap {drop : Text → Text} {block : Char → Text} (hnil : drop [] = [])
    (hmark : ∀ c s, isFieldMark c → drop (block c ++ s) = drop s)
    (hother : ∀ c s, isFieldMark c = false → drop (block c ++ s) = block c ++ s) :
    drop (t.flatMap block) = (t.dropWhile isFieldMark).flatMap block := by
  induction t with
  | nil => exact hnil
  | cons c t ih =>
    rw [List.flatMap_cons]
    cases hc : isFieldMark c with
    | true => rw [hmark c _ hc, ih, List.dropWhile_cons_of_pos hc]
    | false => rw [hother c _ hc, List.dropWhile_cons_of_neg (by simp [hc]), List.flatMap_cons]

theorem dropLeadingDelimiters_flatMap :
    dropLeadingDelimiters (t.flatMap charPattern) =
      (t.dropWhile isFieldMark).flatMap charPattern := by
  apply drop_flatMap
  case hnil => rfl
  case hmark =>
    intro c s hc
    obtain hc | hc := Bool.or_eq_true_iff.mp hc
    · rw [charPattern_of_isEscapedDelimiter hc]
      simp [dropLeadingDelimiters, isAngle, hc]
    · rw [charPattern_of_isAngle hc]
      cases s with
      | nil => simp [dropLeadingDelimiters, hc]
      | cons d s => simp [dropLeadingDelimiters, hc]
  -- Any other pattern begins with an escaped character that delimits nothing, or with no backslash.
  case hother =>
    intro c s hc
    have ⟨hdelim, hangle⟩ := Bool.or_eq_false_iff.mp hc
    obtain rfl | rfl | rfl | hplain := wildcard_cases c
    · rfl
    · rfl
    · rfl
    · rw [charPattern_plain hplain]
      cases hm : Escape.isMeta c with
      | true =>
        rw [escape_of_isMeta hm]
        simp [dropLeadingDelimiters, isAngle, hdelim]
      | false =>
        have hne : c ≠ '\\' := fun h => absurd hm (by rw [h]; decide)
        rw [escape_of_not_isMeta hm]
        cases s with
        | nil => simp [dropLeadingDelimiters, hangle]
        | cons d s => simp [dropLeadingDelimiters, hangle, hne]

theorem dropDelimitersReversed_flatMap :
    dropDelimitersReversed (t.flatMap fun c => (charPattern c).reverse) =
      (t.dropWhile isFieldMark).flatMap fun c => (charPattern c).reverse := by
  apply drop_flatMap
  case hnil => rfl
  case hmark =>
    intro c s hc
    obtain hc | hc := Bool.or_eq_true_iff.mp hc
    · rw [charPattern_of_isEscapedDelimiter hc]
      simp [dropDelimitersReversed, isAngle_of_isEscapedDelimiter hc, hc]
    · rw [charPattern_of_isAngle hc]
      cases s with
      | nil => simp [dropDelimitersReversed, hc]
      | cons d s => simp [dropDelimitersReversed, hc]
  case hother =>
    intro c s hc
    have ⟨hdelim, hangle⟩ := Bool.or_eq_false_iff.mp hc
    obtain rfl | rfl | rfl | hplain := wildcard_cases c
    · rfl
    · rfl
    · rfl
    · rw [charPattern_plain hplain]
      cases hm : Escape.isMeta c with
      | true =>
        rw [escape_of_isMeta hm]
        simp [dropDelimitersReversed, hangle, hdelim]
      | false =>
        rw [escape_of_not_isMeta hm]
        cases s with
        | nil => simp [dropDelimitersReversed, hangle]
        | cons d s => simp [dropDelimitersReversed, hangle, hdelim]

theorem stripDelimiters_flatMap :
    stripDelimiters (t.flatMap charPattern) = (unmarked t).flatMap charPattern := by
  have hreverse : ∀ s : Text, (s.flatMap charPattern).reverse =
      s.reverse.flatMap fun c => (charPattern c).reverse := fun s => List.reverse_flatMap
  have hback : ∀ s : Text, (s.flatMap fun c => (charPattern c).reverse).reverse =
      s.reverse.flatMap charPattern := fun s => by simp [List.reverse_flatMap, Function.comp_def]
  rw [stripDelimiters, dropLeadingDelimiters_flatMap, hreverse, dropDelimitersReversed_flatMap,
    hback]
  rfl

end Marks

section Atoms

variable {c : Char} {s t : Text}

def charAtoms (c : Char) : List Atom :=
  if c = '*' then [.bracket insideField, .repetition '*', .repetition '?']
  else if c = '_' then [.bracket insideField]
  else if c = '$' then [.escape (some 'b')]
  else if Escape.isMeta c then [.escape (some c)]
  else [.literal c]

theorem charAtoms_plain (hc : isWildcard c = false) :
    charAtoms c = if Escape.isMeta c then [.escape (some c)] else [.literal c] := by
  simp [charAtoms, ne_of_isWildcard hc]

theorem atoms_escape : atoms ('\\' :: c :: s) = .escape (some c) :: atoms s := by
  rw [atoms]
  rfl

theorem atoms_of_ne_escape (hc : c ≠ '\\') : atoms (c :: s) =
    if c = '[' then .bracket ('[' :: (bracketEnd s).1) :: atoms (bracketEnd s).2
    else if c = '*' ∨ c = '?' then .repetition c :: atoms s
    else .literal c :: atoms s := by
  rw [atoms.eq_def]
  exact if_neg hc

theorem atoms_insideField : atoms (insideField ++ s) = .bracket insideField :: atoms s := by
  have hopen : insideField ++ s = '[' :: (insideField.tail ++ s) := rfl
  have hend : bracketEnd (insideField.tail ++ s) = (insideField.tail, s) := rfl
  rw [hopen, atoms_of_ne_escape (by decide), if_pos rfl, hend]
  rfl

theorem atoms_repetition (hc : c = '*' ∨ c = '?') :
    atoms (c :: s) = .repetition c :: atoms s := by
  obtain rfl | rfl := hc
  all_goals exact atoms_of_ne_escape (by decide)

theorem atoms_literal (hc : Escape.isMeta c = false) :
    atoms (c :: s) = .literal c :: atoms s := by
  have hne : ∀ d, Escape.isMeta d = true → c ≠ d := fun d hd h => by simp [h, hd] at hc
  rw [atoms_of_ne_escape (hne '\\' rfl), if_neg (hne '[' rfl), if_neg]
  simp [hne '*' rfl, hne '?' rfl]

theorem atoms_charPattern : atoms (charPattern c ++ s) = charAtoms c ++ atoms s := by
  obtain rfl | rfl | rfl | hc := wildcard_cases c
  · have hstar : charPattern '*' ++ s = insideField ++ '*' :: '?' :: s := rfl
    rw [hstar, atoms_insideField, atoms_repetition (.inl rfl), atoms_repetition (.inr rfl)]
    rfl
  · exact atoms_insideField
  · exact atoms_escape
  · rw [charPattern_plain hc, charAtoms_plain hc]
    cases hm : Escape.isMeta c with
    | true => simp [escape_of_isMeta hm, atoms_escape]
    | false => simp [escape_of_not_isMeta hm, atoms_literal hm]

theorem atoms_flatMap : atoms (t.flatMap charPattern) = t.flatMap charAtoms := by
  induction t with
  | nil => rw [List.flatMap_nil, atoms, List.flatMap_nil]
  | cons c t ih => rw [List.flatMap_cons, atoms_charPattern, ih, List.flatMap_cons]

theorem any_isLiteral_charAtoms : (charAtoms c).any (·.isLiteral) = !isWildcard c := by
  obtain rfl | rfl | rfl | hc := wildcard_cases c
  · rfl
  · rfl
  · rfl
  · have hb : Escape.isMeta c → c ≠ 'b' := fun hm h => absurd hm (by rw [h]; decide)
    rw [hc, charAtoms_plain hc]
    cases hm : Escape.isMeta c with
    | true => simp [Atom.isLiteral, hb hm]
    | false => simp [Atom.isLiteral]

def emphasisPattern (c : Char) : Text :=
  if isWildcard c || Escape.isMeta c then charPattern c else variants c

theorem emphasized_charAtoms : (charAtoms c).flatMap (·.emphasized) = emphasisPattern c := by
  obtain rfl | rfl | rfl | hc := wildcard_cases c
  · rfl
  · rfl
  · rfl
  · rw [emphasisPattern, charPattern_plain hc, charAtoms_plain hc, hc]
    cases hm : Escape.isMeta c with
    | true => simp [Atom.emphasized, escape_of_isMeta hm]
    | false => simp [Atom.emphasized]

theorem emphasis?_flatMap : emphasis? (t.flatMap charPattern) =
    if (unmarked t).all isWildcard then none else some ((unmarked t).flatMap emphasisPattern) := by
  have hliteral : ∀ s : Text, (s.flatMap charAtoms).any (·.isLiteral) = !s.all isWildcard := by
    intro s
    rw [List.any_flatMap]
    simp only [any_isLiteral_charAtoms]
    simp [List.not_all_eq_any_not]
  unfold emphasis?
  simp only [stripDelimiters_flatMap, atoms_flatMap, hliteral, List.flatMap_assoc,
    emphasized_charAtoms]
  cases (unmarked t).all isWildcard with
  | true => rfl
  | false => rfl

theorem emphasis?_expandWildcards : emphasis? (expandWildcards t) =
    if (unmarked (bounded t)).all isWildcard then none
    else some ((unmarked (bounded t)).flatMap emphasisPattern) := by
  rw [expandWildcards_eq_flatMap]
  exact emphasis?_flatMap

end Atoms

section Pieces

variable {c : Char}

def forms (c : Char) : Text :=
  match variants c with
  | '[' :: s => s.dropLast
  | s        => s

def formsPiece (f : Flags) : Text → Piece
  | [c] => { regex := .set (f.fold (.singleton c)) }
  | cs  => { regex := .set (f.fold (.unions (cs.map .singleton))), depth := 2 }

def emphasisPiece (f : Flags) (c : Char) : Piece :=
  if isWildcard c || Escape.isMeta c then charPiece f c else formsPiece f (forms c)

theorem spells_variants (hc : Escape.isMeta c = false) :
    Spells (termFlags true) (variants c) [formsPiece (termFlags true) (forms c)] := by
  unfold forms
  fun_cases variants c
  case case10 =>
    split
    case h_1 h =>
      obtain ⟨rfl, -⟩ := List.cons.inj h
      exact absurd hc (by decide)
    case h_2 => exact .literal rfl hc
  -- Each of the other characters has a class.
  all_goals exact @Spells.bracket _ _ ⟨_, 2⟩ rfl rfl

theorem spells_emphasisPattern (c : Char) :
    Spells (termFlags true) (emphasisPattern c) [emphasisPiece (termFlags true) c] := by
  unfold emphasisPattern emphasisPiece
  split
  case isTrue => exact spells_charPattern true c
  case isFalse h => exact spells_variants (by simp_all)

theorem depth_emphasisPiece_le (f : Flags) (c : Char) : (emphasisPiece f c).depth ≤ 3 := by
  unfold emphasisPiece
  split
  case isTrue => exact depth_charPiece_le f c
  case isFalse =>
    unfold formsPiece
    split
    · exact Nat.zero_le 3
    · exact Nat.le_succ 2

end Pieces

end ExcerptSearch.Query
