import ExcerptSearch.Proofs.Query.Expansion
import ExcerptSearch.Proofs.Regex.Spelling
import ExcerptSearch.Proofs.Text
import ExcerptSearch.Query.TermPattern

namespace ExcerptSearch.Query

open Regex Regex.Parser

def isWildcard (c : Char) : Bool :=
  c == '*' || c == '_' || c == '$'

theorem ne_of_isWildcard {c : Char} (hc : isWildcard c = false) : c ≠ '*' ∧ c ≠ '_' ∧ c ≠ '$' := by
  simpa [isWildcard, and_assoc] using hc

theorem wildcard_cases (c : Char) : c = '*' ∨ c = '_' ∨ c = '$' ∨ isWildcard c = false := by
  simp only [isWildcard, Bool.or_eq_false_iff, beq_eq_false_iff_ne]
  grind

-- `ReadsAs u t v w` says that the part `v` of a text reads as the term `t`, between `u` and `w`.
inductive ReadsAs : Text → Text → Text → Text → Prop
  | nil {u w : Text} : ReadsAs u [] [] w
  | self {c : Char} {u t v w : Text} :
    isWildcard c = false → ReadsAs (u ++ [c]) t v w → ReadsAs u (c :: t) (c :: v) w
  | one {d : Char} {u t v w : Text} :
    d ∉ fieldDelimiters → ReadsAs (u ++ [d]) t v w → ReadsAs u ('_' :: t) (d :: v) w
  | run {s u t v w : Text} :
    (∀ d ∈ s, d ∉ fieldDelimiters) → ReadsAs (u ++ s) t v w → ReadsAs u ('*' :: t) (s ++ v) w
  | border {u t v w : Text} :
    WordBorder u (v ++ w) → ReadsAs u t v w → ReadsAs u ('$' :: t) v w

section Reading

variable {c : Char} {t u v w : Text}

theorem readsAs_nil : ReadsAs u [] v w ↔ v = [] := by
  constructor
  case mp => exact fun h => by cases h; rfl
  case mpr =>
    rintro rfl
    exact .nil

theorem readsAs_star : ReadsAs u ('*' :: t) v w ↔
    ∃ s v', v = s ++ v' ∧ (∀ d ∈ s, d ∉ fieldDelimiters) ∧ ReadsAs (u ++ s) t v' w := by
  constructor
  case mp =>
    intro h
    cases h with
    | self hc => simp [isWildcard] at hc
    | run hs hr => exact ⟨_, _, rfl, hs, hr⟩
  case mpr =>
    rintro ⟨s, v', rfl, hs, hr⟩
    exact .run hs hr

theorem readsAs_underscore : ReadsAs u ('_' :: t) v w ↔
    ∃ d v', v = d :: v' ∧ d ∉ fieldDelimiters ∧ ReadsAs (u ++ [d]) t v' w := by
  constructor
  case mp =>
    intro h
    cases h with
    | self hc => simp [isWildcard] at hc
    | one hd hr => exact ⟨_, _, rfl, hd, hr⟩
  case mpr =>
    rintro ⟨d, v', rfl, hd, hr⟩
    exact .one hd hr

theorem readsAs_dollar :
    ReadsAs u ('$' :: t) v w ↔ WordBorder u (v ++ w) ∧ ReadsAs u t v w := by
  constructor
  case mp =>
    intro h
    cases h with
    | self hc => simp [isWildcard] at hc
    | border hb hr => exact ⟨hb, hr⟩
  case mpr => exact fun ⟨hb, hr⟩ => .border hb hr

theorem readsAs_plain (hc : isWildcard c = false) :
    ReadsAs u (c :: t) v w ↔ ∃ v', v = c :: v' ∧ ReadsAs (u ++ [c]) t v' w := by
  constructor
  case mp =>
    intro h
    cases h with
    | self _ hr => exact ⟨_, rfl, hr⟩
    | one | run | border => simp [isWildcard] at hc
  case mpr =>
    rintro ⟨v', rfl, hr⟩
    exact .self hc hr

end Reading

section Pieces

variable {c d : Char} {t u v w : Text}

def termFlags (ignoreCase : Bool) : Flags :=
  { ignoreCase }

def insideSet (f : Flags) : CharSet :=
  .compl (f.fold (.unions (fieldDelimiters.map .singleton)))

def insidePiece (f : Flags) : Piece :=
  { regex := .set (insideSet f), depth := 2 }

def charPiece (f : Flags) (c : Char) : Piece :=
  if c = '*' then ((insidePiece f).repeated 0 none true).swapGreed
  else if c = '_' then insidePiece f
  else if c = '$' then { regex := .look (.boundary .unicode) }
  else { regex := .set (f.fold (.singleton c)) }

theorem spells_insideField (i : Bool) :
    Spells (termFlags i) insideField [insidePiece (termFlags i)] := by
  have hb : Bracket.read? (termFlags i) {} insideField.tail =
      some ⟨insideSet (termFlags i), 2⟩ := by
    cases i with
    | false => rfl
    | true => rfl
  exact .bracket rfl hb

theorem spells_charPattern (i : Bool) (c : Char) :
    Spells (termFlags i) (charPattern c) [charPiece (termFlags i) c] := by
  unfold charPattern charPiece
  split
  · exact .lazyStar rfl rfl (spells_insideField i)
  · split
    · exact spells_insideField i
    · split
      · exact .boundary rfl rfl
      · cases hm : Escape.isMeta c with
        | true => rw [escape_of_isMeta hm]; exact .escape rfl hm
        | false => rw [escape_of_not_isMeta hm]; exact .literal rfl hm

theorem depth_charPiece_le (f : Flags) (c : Char) : (charPiece f c).depth ≤ 3 := by
  unfold charPiece
  split
  · exact Nat.le_refl 3
  · split
    · exact Nat.le_succ 2
    · split <;> exact Nat.zero_le 3

theorem mem_insideSet : (insideSet {}).mem d ↔ d ∉ fieldDelimiters := by
  simp [insideSet, Flags.fold, fieldDelimiters, CharSet.unions, CharSet.mem]

theorem covers_star : (charPiece {} '*').regex.Covers u v w ↔ ∀ d ∈ v, d ∉ fieldDelimiters := by
  have hrep : (charPiece {} '*').regex = .rep (.set (insideSet {})) 0 none false := rfl
  rw [hrep, covers_any_number_of_set]
  exact forall₂_congr fun _ _ => mem_insideSet

theorem covers_underscore :
    (charPiece {} '_').regex.Covers u v w ↔ ∃ d, v = [d] ∧ d ∉ fieldDelimiters := by
  have hset : (charPiece {} '_').regex = .set (insideSet {}) := rfl
  rw [hset, covers_set]
  exact exists_congr fun _ => and_congr_right fun _ => mem_insideSet

theorem covers_dollar :
    (charPiece {} '$').regex.Covers u v w ↔ v = [] ∧ WordBorder u w :=
  covers_boundary

theorem covers_plain (hc : isWildcard c = false) :
    (charPiece {} c).regex.Covers u v w ↔ v = [c] := by
  have hset : (charPiece {} c).regex = .set (.singleton c) := by
    simp [charPiece, ne_of_isWildcard hc, Flags.fold]
  rw [hset, covers_set]
  simp

theorem covers_sequence_iff :
    (sequence (t.map (charPiece {}))).Covers u v w ↔ ReadsAs u t v w := by
  -- The first character takes its share of `v`, and the rest of the term is read behind it.
  induction t generalizing u v with
  | nil => exact covers_sequence_nil.trans readsAs_nil.symm
  | cons c t ih =>
    have hcons : (sequence ((c :: t).map (charPiece {}))).Covers u v w ↔
        ∃ v₁ v₂, v = v₁ ++ v₂ ∧ (charPiece {} c).regex.Covers u v₁ (v₂ ++ w) ∧
          ReadsAs (u ++ v₁) t v₂ w := by
      simp only [← ih]
      exact covers_sequence_cons
    rw [hcons]
    obtain rfl | rfl | rfl | hc := wildcard_cases c
    · simp only [covers_star, readsAs_star]
    · simp only [covers_underscore, readsAs_underscore]
      constructor
      case mp =>
        rintro ⟨_, v₂, rfl, ⟨d, rfl, hd⟩, hr⟩
        exact ⟨d, v₂, rfl, hd, hr⟩
      case mpr =>
        rintro ⟨d, v₂, rfl, hd, hr⟩
        exact ⟨[d], v₂, rfl, ⟨d, rfl, hd⟩, hr⟩
    · simp only [covers_dollar, readsAs_dollar]
      constructor
      case mp =>
        rintro ⟨_, v₂, rfl, ⟨rfl, hb⟩, hr⟩
        exact ⟨hb, by simpa using hr⟩
      case mpr =>
        rintro ⟨hb, hr⟩
        exact ⟨[], v, rfl, ⟨rfl, hb⟩, by simpa using hr⟩
    · simp only [covers_plain hc, readsAs_plain hc]
      constructor
      case mp =>
        rintro ⟨_, v₂, rfl, rfl, hr⟩
        exact ⟨v₂, rfl, hr⟩
      case mpr =>
        rintro ⟨v₂, rfl, hr⟩
        exact ⟨[c], v₂, rfl, rfl, hr⟩

theorem readsAs_append {s : Text} : ReadsAs u (s ++ t) v w ↔
    ∃ v₁ v₂, v = v₁ ++ v₂ ∧ ReadsAs u s v₁ (v₂ ++ w) ∧ ReadsAs (u ++ v₁) t v₂ w := by
  simp only [← covers_sequence_iff, List.map_append]
  exact covers_sequence_append

end Pieces

section Edges

variable {t u v w : Text}

-- A dollar sign that bounds a term, if the edge asks for one.
def edgeMark (c : Option Char) : Text :=
  if c = some '$' then ['$'] else []

def bounded (t : Text) : Text :=
  edgeMark (leadingEdge t).getLast? ++ core t ++ edgeMark (trailingEdge t).head?

theorem expandWildcards_eq_flatMap (t : Text) :
    expandWildcards t = (bounded t).flatMap charPattern := by
  have hmark : ∀ c, (edgeMark c).flatMap charPattern =
      if c = some '$' then wordBoundary else [] := by
    intro c
    unfold edgeMark
    split <;> rfl
  unfold expandWildcards bounded
  rw [List.flatMap_append, List.flatMap_append, hmark, hmark, expand_eq_flatMap]

theorem readsAs_edgeMark {c : Option Char} :
    ReadsAs u (edgeMark c) v w ↔ v = [] ∧ (c = some '$' → WordBorder u w) := by
  unfold edgeMark
  split
  case isTrue h =>
    rw [readsAs_dollar, readsAs_nil, and_comm]
    constructor
    all_goals
      rintro ⟨rfl, hb⟩
      simp_all
  case isFalse h => simp [readsAs_nil, h]

theorem readsAs_bounded : ReadsAs u (bounded t) v w ↔ ReadsAs u (core t) v w ∧
    ((leadingEdge t).getLast? = some '$' → WordBorder u (v ++ w)) ∧
    ((trailingEdge t).head? = some '$' → WordBorder (u ++ v) w) := by
  unfold bounded
  simp only [readsAs_append, readsAs_edgeMark]
  constructor
  case mp =>
    rintro ⟨_, _, rfl, ⟨_, v, rfl, ⟨rfl, hl⟩, hr⟩, rfl, ht⟩
    simp_all
  case mpr =>
    intro ⟨hr, hl, ht⟩
    exact ⟨v, [], by simp, ⟨[], v, rfl, ⟨rfl, by simpa using hl⟩, by simpa using hr⟩, rfl, ht⟩

theorem spells_flatMap_charPattern (t : Text) :
    Spells {} (t.flatMap charPattern) (t.map (charPiece {})) :=
  .flatMap fun c _ => spells_charPattern false c

theorem depth_lt_of_mem_pieces (t : Text) : ∀ p ∈ t.map (charPiece {}), p.depth < maxNesting := by
  intro p hp
  obtain ⟨c, -, rfl⟩ := List.mem_map.mp hp
  exact Nat.lt_of_le_of_lt (depth_charPiece_le {} c) (by decide)

theorem exists_parse?_flatMap_charPattern (t : Text) :
    ∃ r, parse? (t.flatMap charPattern) = some r ∧ ∀ {u v w}, r.Covers u v w ↔ ReadsAs u t v w := by
  have ⟨r, hr, hcovers⟩ := (spells_flatMap_charPattern t).exists_parse? (depth_lt_of_mem_pieces t)
  exact ⟨r, hr, hcovers.trans covers_sequence_iff⟩

theorem spells_expandWildcards (t : Text) :
    Spells {} (expandWildcards t) ((bounded t).map (charPiece {})) :=
  expandWildcards_eq_flatMap t ▸ spells_flatMap_charPattern (bounded t)

theorem exists_parse?_expandWildcards (t : Text) :
    ∃ r, parse? (expandWildcards t) = some r ∧
      ∀ {u v w}, r.Covers u v w ↔ ReadsAs u (bounded t) v w :=
  expandWildcards_eq_flatMap t ▸ exists_parse?_flatMap_charPattern (bounded t)

end Edges

-- A term between its edges, which are as long as they can be. A term of edge characters only has
-- two edges that are each all of it.
structure Edged (t lead core trail : Text) : Prop where
  lead_edge  : ∀ c ∈ lead, c = '$' ∨ c = '*'
  trail_edge : ∀ c ∈ trail, c = '$' ∨ c = '*'
  first      : ∀ c ∈ core.head?, c ≠ '$' ∧ c ≠ '*'
  last       : ∀ c ∈ core.getLast?, c ≠ '$' ∧ c ≠ '*'
  append     : core ≠ [] → t = lead ++ core ++ trail
  bare       : core = [] → lead = t ∧ trail = t

section Edged

variable {t : Text} {c : Char}

theorem isEdge_iff : isEdge c = true ↔ c = '$' ∨ c = '*' := by
  simp [isEdge]

theorem isEdge_eq_false_iff : isEdge c = false ↔ c ≠ '$' ∧ c ≠ '*' := by
  simp [isEdge]

theorem getLast?_core (hc : c ∈ (core t).getLast?) : isEdge c = false := by
  rw [core, Text.dropEndWhile, List.getLast?_reverse] at hc
  exact head?_dropWhile hc

theorem core_append_takeWhile (t : Text) :
    core t ++ ((t.dropWhile isEdge).reverse.takeWhile isEdge).reverse = t.dropWhile isEdge := by
  rw [core, Text.dropEndWhile, ← List.reverse_append, List.takeWhile_append_dropWhile,
    List.reverse_reverse]

theorem trailingEdge_eq (h : core t ≠ []) :
    trailingEdge t = ((t.dropWhile isEdge).reverse.takeWhile isEdge).reverse := by
  generalize htrail : ((t.dropWhile isEdge).reverse.takeWhile isEdge).reverse = trail
  have hedge : ∀ c ∈ trail.reverse, isEdge c = true := by
    rw [← htrail, List.reverse_reverse]
    exact fun c hc => List.mem_takeWhile_imp hc
  have ht : t = (leadingEdge t ++ core t) ++ trail := by
    rw [List.append_assoc, ← htrail, core_append_takeWhile, leadingEdge,
      List.takeWhile_append_dropWhile]
  have hstop : ∀ c ∈ (leadingEdge t ++ core t).reverse.head?, isEdge c = false := by
    intro c hc
    have ⟨d, hd⟩ := Option.isSome_iff_exists.mp (List.getLast?_isSome.mpr h)
    rw [List.head?_reverse, List.getLast?_append, hd] at hc
    exact getLast?_core (hd.trans hc)
  calc trailingEdge t
    _ = (((leadingEdge t ++ core t) ++ trail).reverse.takeWhile isEdge).reverse := by
      rw [← ht, trailingEdge]
    _ = trail := by
      rw [List.reverse_append, takeWhile_append_of_stop hedge hstop, List.reverse_reverse]

theorem edged (t : Text) : Edged t (leadingEdge t) (core t) (trailingEdge t) where
  lead_edge  := fun c hc => isEdge_iff.mp (List.mem_takeWhile_imp hc)
  trail_edge := fun c hc => isEdge_iff.mp (List.mem_takeWhile_imp (List.mem_reverse.mp hc))
  first      := by
    intro c hc
    have hhead : c ∈ (t.dropWhile isEdge).head? := by
      rw [← core_append_takeWhile, List.head?_append, hc]
      rfl
    exact isEdge_eq_false_iff.mp (head?_dropWhile hhead)
  last       := fun c hc => isEdge_eq_false_iff.mp (getLast?_core hc)
  append     := by
    intro h
    rw [List.append_assoc, trailingEdge_eq h, core_append_takeWhile, leadingEdge,
      List.takeWhile_append_dropWhile]
  bare       := by
    intro h
    have hrun := core_append_takeWhile t
    rw [h, List.nil_append] at hrun
    have hdrop : t.dropWhile isEdge = [] := by
      by_contra hne
      have ⟨c, rest, hs⟩ := List.exists_cons_of_ne_nil hne
      have hedge : isEdge c = true := by
        have hmem : c ∈ t.dropWhile isEdge := by simp [hs]
        rw [← hrun, List.mem_reverse] at hmem
        exact List.mem_takeWhile_imp hmem
      have hfirst : isEdge c = false := head?_dropWhile (t := t) (by simp [hs])
      exact Bool.false_ne_true (hfirst.symm.trans hedge)
    have hall : ∀ c ∈ t, isEdge c = true := List.dropWhile_eq_nil_iff.mp hdrop
    rw [leadingEdge, trailingEdge, List.takeWhile_eq_self_iff.mpr hall,
      List.takeWhile_eq_self_iff.mpr (by simpa using hall), List.reverse_reverse]
    exact ⟨rfl, rfl⟩

end Edged

-- A term is cut into its edges and its core. The pattern for it is well formed, and matches a text
-- just if a part of the text reads as the core, with a word border where the innermost character of
-- an edge asks for one.
theorem expandWildcards_isMatch_iff (t : Text) :
    Edged t (leadingEdge t) (core t) (trailingEdge t) ∧
    ∃ p, TermPattern.ofSource? (expandWildcards t) .any = some p ∧
      ∀ h, p.isMatch h = true ↔ ∃ u v w, h = u ++ v ++ w ∧ ReadsAs u (core t) v w ∧
        ((leadingEdge t).getLast? = some '$' → WordBorder u (v ++ w)) ∧
        ((trailingEdge t).head? = some '$' → WordBorder (u ++ v) w) := by
  have ⟨r, hr, hcovers⟩ := exists_parse?_expandWildcards t
  obtain ⟨p, hp, rfl⟩ := Compiled.exists_ofSource? hr
  refine ⟨edged t, ⟨p, .any⟩, by simp [TermPattern.ofSource?, hp], fun h => ?_⟩
  calc TermPattern.isMatch ⟨p, .any⟩ h = true
    _ ↔ p.isMatch h = true := .rfl
    _ ↔ ∃ u v w, h = u ++ v ++ w ∧ p.regex.Covers u v w := Compiled.isMatch_iff_covers
    _ ↔ _ := by simp only [hcovers, readsAs_bounded]

theorem expandWildcards_isMatch_iff_backslash : ∃ p,
    TermPattern.ofSource? (expandWildcards ['*', '$', '\\', '_', '*', 'a', '$']) .any = some p ∧
    Edged ['*', '$', '\\', '_', '*', 'a', '$'] ['*', '$'] ['\\', '_', '*', 'a'] ['$'] ∧
    p.isMatch ['x', '\\', 'b', 'c', 'a', ' ', 'd'] = true ∧
    p.isMatch ['x', '\\', 'b', 'c', 'a', 'd'] = false := by
  have ⟨hedged, p, hp, hmatch⟩ :=
    expandWildcards_isMatch_iff ['*', '$', '\\', '_', '*', 'a', '$']
  have hreads : ReadsAs ['x'] ['\\', '_', '*', 'a'] (['\\', 'b'] ++ (['c'] ++ ['a'])) [' ', 'd'] :=
    .self rfl (.one (by decide) (.run (s := ['c']) (by simp [fieldDelimiters]) (.self rfl .nil)))
  have hbefore : WordBorder ['x'] ['\\', 'b', 'c', 'a', ' ', 'd'] := by decide +kernel
  have hbehind : WordBorder ['x', '\\', 'b', 'c', 'a'] [' ', 'd'] := by decide +kernel
  have hno : (TermPattern.ofSource? (expandWildcards ['*', '$', '\\', '_', '*', 'a', '$']) .any).any
      (·.isMatch ['x', '\\', 'b', 'c', 'a', 'd']) = false := by decide +kernel
  rw [hp] at hno
  exact ⟨p, hp, hedged, (hmatch _).mpr ⟨_, _, _, rfl, hreads, fun _ => hbefore, fun _ => hbehind⟩,
    hno⟩

end ExcerptSearch.Query
