import ExcerptSearch.Proofs.Regex.WholeWord
import ExcerptSearch.Proofs.Search.Weighing
import ExcerptSearch.Proofs.Unicode.Word

namespace ExcerptSearch

open Query Regex Regex.Parser

namespace TermPattern

variable {p p' : TermPattern} {t : Text}

-- Does the pattern match a part of the text that starts and stops at borders of words?
def OccursAsWord (p : TermPattern) (t : Text) : Prop :=
  ∃ u v w, t = u ++ v ++ w ∧ p.pattern.regex.Covers u v w ∧
    WordBorder u (v ++ w) ∧ WordBorder (u ++ v) w

-- Does an alternative match a part of the text that starts at a border if the alternative is the
-- first, and stops at one if it is the last?
def OccursBetweenBorders (p : TermPattern) (t : Text) : Prop :=
  ∃ st, State.read? {} p.source = some st ∧ ∃ u v w, t = u ++ v ++ w ∧
    CoversBetween WordBorder st.BorderBehind st.group.alternatives u v w

theorem parse?_of_fullWord? (h : p.fullWord? = some p') :
    parse? (betweenBorders p.source) = some p'.pattern.regex ∧ p'.scope = p.scope := by
  obtain ⟨c, hc, rfl⟩ := Option.map_eq_some_iff.mp h
  have hdenotes := c.denotes
  rw [Compiled.source_of_ofSource? hc] at hdenotes
  exact ⟨hdenotes, rfl⟩

theorem isMatch_fullWord (hscope : p.scope = .any) (h : p.fullWord? = some p') :
    p'.isMatch t = true ↔ p.OccursBetweenBorders t := by
  obtain ⟨hparse, hscope'⟩ := parse?_of_fullWord? h
  obtain ⟨st, _, hread, -⟩ := exists_read?_of_parse? p.pattern.denotes
  have hread' : State.read? {} p.source = some st := hread
  simp only [isMatch_iff_covers (hscope'.trans hscope), OccursBetweenBorders, hread',
    Option.some.injEq, exists_eq_left', covers_betweenBorders p.pattern.denotes hparse hread]

theorem isMatch_fullWord_of_selfContained (hscope : p.scope = .any) (h : p.fullWord? = some p')
    (hs : SelfContained p.source) : p'.isMatch t = true ↔ p.OccursAsWord t := by
  obtain ⟨hparse, hscope'⟩ := parse?_of_fullWord? h
  simp only [isMatch_iff_covers (hscope'.trans hscope), OccursAsWord,
    hs.covers_betweenBorders p.pattern.denotes hparse]

theorem fullWord?_eq_none_iff :
    p.fullWord? = none ↔ NestedTooDeep (betweenBorders p.source) := by
  constructor
  case mp =>
    intro h
    by_contra hdepth
    obtain ⟨p', hp'⟩ := exists_fullWord? hdepth
    exact nomatch h.symm.trans hp'
  case mpr =>
    rintro ⟨d, hd, hdeep⟩
    have hnone : parse? (betweenBorders p.source) = none := by
      simp [parse?, hd, Option.filter, Nat.not_le_of_lt hdeep]
    have hsome : p.fullWord?.isSome = (parse? (betweenBorders p.source)).isSome := isSome_ofSource?
    rwa [hnone, Option.isSome_none, Option.isSome_eq_false_iff, Option.isNone_iff_eq_none] at hsome

theorem OccursBetweenBorders.isMatch (hscope : p.scope = .any) (h : p.OccursBetweenBorders t) :
    p.isMatch t = true := by
  obtain ⟨st, hread, u, v, w, rfl, before, a, behind, halternatives, ha, -⟩ := h
  obtain ⟨st', _, hread', hfinish, hregex⟩ := exists_read?_of_parse? p.pattern.denotes
  obtain rfl : st = st' := Option.some.inj (hread.symm.trans hread')
  obtain ⟨-, -, rfl⟩ := State.finish?_eq_some.mp hfinish
  refine (isMatch_iff_covers hscope).mpr ⟨u, v, w, rfl, ?_⟩
  rw [← hregex, Group.covers_content, halternatives]
  exact ⟨a, by simp, ha⟩

end TermPattern

namespace WeighedPart

def countsTriple (part : WeighedPart) (blob : Text) : Bool :=
  part.pattern.isMatch blob && part.fullWord.isMatch blob

def countsOnce (part : WeighedPart) (blob : Text) : Bool :=
  part.pattern.isMatch blob && !part.fullWord.isMatch blob

end WeighedPart

namespace Weigher

variable {q : Query} {common : Text} {w : Weigher}

theorem weigh_eq {α : Type} [Score α] (w : Weigher) (blob : Text) (weight : α) :
    w.weigh blob weight =
      ((3 : Nat) : α) * ((if w.matchesWhole blob then 1 else 0 : Nat) : α) +
        ((3 : Nat) : α) * total weight (w.parts.filter (·.countsTriple blob)) +
        total weight (w.parts.filter (·.countsOnce blob)) := by
  have htriple : ∀ part : WeighedPart, part.countsTriple blob =
      (part.fullWord.isMatch blob && part.pattern.isMatch blob) := fun _ => Bool.and_comm _ _
  have honce : ∀ part : WeighedPart, part.countsOnce blob =
      (!part.fullWord.isMatch blob && part.pattern.isMatch blob) := fun _ => Bool.and_comm _ _
  simp only [weigh, List.partition_eq_filter_filter, List.filter_filter, htriple, honce,
    Function.comp_apply]

theorem derived_eq_ok_iff {o : Option TermPattern} {p : TermPattern} :
    derived o = .ok p ↔ o = some p := by
  cases o with
  | none => exact iff_of_false (fun h => nomatch h) fun h => nomatch h
  | some p' =>
    constructor
    case mp => exact fun h => congrArg some (Except.ok.inj h)
    case mpr => exact fun h => congrArg Except.ok (Option.some.inj h)

theorem weighPart_eq_ok {p : TermPattern} {part : WeighedPart}
    (h : weighPart common p = .ok part) :
    part.pattern = p ∧ p.fullWord? = some part.fullWord := by
  obtain ⟨fullWord, hfull, rfl⟩ := bind_pure_eq_ok_iff.mp h
  exact ⟨rfl, derived_eq_ok_iff.mp hfull⟩

theorem parts_of_forall₂ {ps : List TermPattern} {parts : List WeighedPart}
    (h : List.Forall₂ (fun p part => weighPart common p = .ok part) ps parts) :
    parts.map (·.pattern) = ps ∧ ∀ part ∈ parts, part.pattern.fullWord? = some part.fullWord := by
  induction h with
  | nil => exact ⟨rfl, fun _ hpart => nomatch hpart⟩
  | cons hpart _ ih =>
    obtain ⟨rfl, hfull⟩ := weighPart_eq_ok hpart
    exact ⟨congrArg _ ih.1, List.forall_mem_cons.mpr ⟨hfull, ih.2⟩⟩

theorem eq_ok_of_ofQuery (h : ofQuery q common = .ok w) :
    q.searchParts.mapM (weighPart common) = .ok w.parts ∧
      wholeFieldPatterns q.text = .ok w.wholeField := by
  unfold ofQuery at h
  cases hparts : q.searchParts.mapM (weighPart common) with
  | error e =>
    rw [hparts] at h
    exact nomatch h
  | ok parts =>
    rw [hparts] at h
    obtain ⟨fields, hfields, rfl⟩ := bind_pure_eq_ok_iff.mp h
    exact ⟨rfl, hfields⟩

theorem forall₂_of_ofQuery (h : ofQuery q common = .ok w) :
    List.Forall₂ (fun p part => weighPart common p = .ok part) q.searchParts w.parts :=
  mapM_eq_ok_iff.mp (eq_ok_of_ofQuery h).1

theorem parts_of_ofQuery (h : ofQuery q common = .ok w) :
    w.parts.map (·.pattern) = q.searchParts ∧
      ∀ part ∈ w.parts, part.pattern.fullWord? = some part.fullWord :=
  parts_of_forall₂ (forall₂_of_ofQuery h)

theorem common_of_mem_parts (h : ofQuery q common = .ok w) :
    ∀ part ∈ w.parts, part.common = part.pattern.isMatch common := by
  have hparts := forall₂_of_ofQuery h
  generalize q.searchParts = ps, w.parts = parts at hparts
  induction hparts with
  | nil => exact fun _ hpart => nomatch hpart
  | cons hpart _ ih =>
    obtain ⟨fullWord, -, rfl⟩ := bind_pure_eq_ok_iff.mp hpart
    exact List.forall_mem_cons.mpr ⟨rfl, ih⟩

theorem countsTriple_iff {part : WeighedPart} {blob : Text} (hscope : part.pattern.scope = .any)
    (h : part.pattern.fullWord? = some part.fullWord) :
    part.countsTriple blob = true ↔ part.pattern.OccursBetweenBorders blob := by
  rw [WeighedPart.countsTriple, Bool.and_eq_true, TermPattern.isMatch_fullWord hscope h]
  exact and_iff_right_of_imp fun hoccurs => hoccurs.isMatch hscope

-- A pattern between word boundaries compiles unless it is nested too deep, and matches where its
-- alternatives occur between borders. If it is a single alternative, as the patterns of terms are,
-- it matches as a whole word. These matches count three times, and all others once.
theorem weigh_wholeWords (p : TermPattern) (hscope : p.scope = .any) :
    (p.fullWord? = none ↔ NestedTooDeep (betweenBorders p.source)) ∧
    (∀ p', p.fullWord? = some p' → ∀ t, (p'.isMatch t = true ↔ p.OccursBetweenBorders t) ∧
      (SelfContained p.source → (p'.isMatch t = true ↔ p.OccursAsWord t))) ∧
    ((∃ t, p.source = expandWildcards t) → SelfContained p.source) ∧
    ∀ q common w, ofQuery q common = .ok w → w.parts.map (·.pattern) = q.searchParts ∧
      (∀ part ∈ w.parts, part.pattern = p → ∀ blob,
        part.countsTriple blob = true ↔ p.OccursBetweenBorders blob) ∧
      ∀ {α : Type} [Score α] (blob : Text) (weight : α), w.weigh blob weight =
        ((3 : Nat) : α) * ((if w.matchesWhole blob then 1 else 0 : Nat) : α) +
          ((3 : Nat) : α) * total weight (w.parts.filter (·.countsTriple blob)) +
          total weight (w.parts.filter (·.countsOnce blob)) := by
  refine ⟨TermPattern.fullWord?_eq_none_iff, fun p' hp' t => ⟨?_, ?_⟩, ?_, ?_⟩
  case refine_1 => exact TermPattern.isMatch_fullWord hscope hp'
  case refine_2 => exact TermPattern.isMatch_fullWord_of_selfContained hscope hp'
  case refine_3 =>
    rintro ⟨t, ht⟩
    exact ht ▸ (spells_expandWildcards t).selfContained
  case refine_4 =>
    intro q common w hw
    obtain ⟨hparts, hfull⟩ := parts_of_ofQuery hw
    refine ⟨hparts, fun part hpart hpattern blob => ?_, weigh_eq w⟩
    subst hpattern
    exact countsTriple_iff hscope (hfull part hpart)

theorem weigh_wholeWords_parenthesized :
    ∃ q w part, Query.parse ['`', '(', 'a', '|', 'b', ')', '`'] true = .ok q ∧
      ofQuery q [] = .ok w ∧ w.parts = [part] ∧
      part.pattern.OccursBetweenBorders ['b', ' ', 'x'] ∧
      ¬part.pattern.OccursBetweenBorders ['a', 'x'] ∧
      w.weigh ['a', 'x'] (Score.half : Rat) = 1 := by
  have hcheck : ((Query.parse ['`', '(', 'a', '|', 'b', ')', '`'] true).toOption.any fun q =>
      (ofQuery q []).toOption.any fun w => w.parts.length = 1 &&
        (w.parts.all fun part => part.pattern.scope = .any &&
          part.countsTriple ['b', ' ', 'x'] && !part.countsTriple ['a', 'x']) &&
        w.weigh ['a', 'x'] (Score.half : Rat) = 1) = true := by
    simp only [Query.parse, Query.normalize_eq_quickNormalize]
    decide +kernel
  obtain ⟨q, hq, hcheck⟩ := exists_of_any_toOption hcheck
  obtain ⟨w, hw, hcheck⟩ := exists_of_any_toOption hcheck
  simp only [Bool.and_eq_true, decide_eq_true_eq] at hcheck
  obtain ⟨⟨hlength, hparts⟩, hweight⟩ := hcheck
  obtain ⟨part, hpart⟩ := List.length_eq_one_iff.mp hlength
  simp only [hpart, List.all_cons, List.all_nil, Bool.and_true, Bool.and_eq_true,
    decide_eq_true_eq, Bool.not_eq_true'] at hparts
  obtain ⟨⟨hscope, hyes⟩, hno⟩ := hparts
  obtain ⟨-, -, -, hweigher⟩ := weigh_wholeWords part.pattern hscope
  obtain ⟨-, htriple, -⟩ := hweigher q [] w hw
  have hiff := htriple part (hpart ▸ List.mem_singleton_self part) rfl
  refine ⟨q, w, part, hq, hw, hpart, (hiff _).mp hyes, fun hoccurs => ?_, hweight⟩
  exact Bool.eq_false_iff.mp hno ((hiff _).mpr hoccurs)

theorem not_occursAsWord_alternatives {p : TermPattern} (hp : p.source = ['a', '|', 'b']) :
    ¬p.OccursAsWord ['a', 'x'] := by
  have hparse : parse? p.pattern.source =
      some (.alt (.set (.range 'a' 'a')) (.set (.range 'b' 'b'))) := by
    rw [show p.pattern.source = ['a', '|', 'b'] from hp]
    rfl
  have hregex := Compiled.regex_eq_of_parse? hparse
  rintro ⟨u, v, w, ht, hcovers, hstart, hstop⟩
  -- Either alternative matches one character, which has no border on one of its sides.
  obtain ⟨d, rfl⟩ : ∃ d, v = [d] := by
    rw [hregex] at hcovers
    obtain hset | hset := hcovers
    all_goals
      obtain ⟨d, rfl, -⟩ := covers_set.mp hset
      exact ⟨d, rfl⟩
  cases u with
  | nil =>
    obtain ⟨rfl, rfl⟩ := List.cons.inj ht
    exact hstop (by simp [Unicode.isWord_ascii])
  | cons c u =>
    have hone : u ++ d :: w = ['x'] := by simpa using (List.tail_eq_of_cons_eq ht).symm
    obtain ⟨rfl, rfl, rfl⟩ : u = [] ∧ d = 'x' ∧ w = [] := by
      simpa [List.append_eq_singleton_iff] using hone
    obtain rfl := List.head_eq_of_cons_eq ht
    exact hstart (by simp [Unicode.isWord_ascii])

-- Without them the first alternative counts three times at the start of a longer word.
theorem weigh_alternatives_within_word :
    ∃ q w part, Query.parse ['`', 'a', '|', 'b', '`'] true = .ok q ∧ ofQuery q [] = .ok w ∧
      w.parts = [part] ∧ part.pattern.source = ['a', '|', 'b'] ∧ part.pattern.scope = .any ∧
      part.pattern.fullWord? = some part.fullWord ∧ part.fullWord.isMatch ['a', 'x'] = true ∧
      ¬part.pattern.OccursAsWord ['a', 'x'] ∧ w.weigh ['a', 'x'] (Score.half : Rat) = 3 := by
  have hcheck : ((Query.parse ['`', 'a', '|', 'b', '`'] true).toOption.any fun q =>
      (ofQuery q []).toOption.any fun w => w.parts.length = 1 &&
        (w.parts.all fun part => part.pattern.source = ['a', '|', 'b'] &&
          part.pattern.scope = .any && part.fullWord.isMatch ['a', 'x']) &&
        w.weigh ['a', 'x'] (Score.half : Rat) = 3) = true := by
    simp only [Query.parse, Query.normalize_eq_quickNormalize]
    decide +kernel
  obtain ⟨q, hq, hcheck⟩ := exists_of_any_toOption hcheck
  obtain ⟨w, hw, hcheck⟩ := exists_of_any_toOption hcheck
  simp only [Bool.and_eq_true, decide_eq_true_eq] at hcheck
  obtain ⟨⟨hlength, hparts⟩, hweight⟩ := hcheck
  obtain ⟨part, hpart⟩ := List.length_eq_one_iff.mp hlength
  simp only [hpart, List.all_cons, List.all_nil, Bool.and_true, Bool.and_eq_true,
    decide_eq_true_eq] at hparts
  obtain ⟨⟨hsource, hscope⟩, hmatch⟩ := hparts
  have hfull := (parts_of_ofQuery hw).2 part (hpart ▸ List.mem_singleton_self part)
  exact ⟨q, w, part, hq, hw, hpart, hsource, hscope, hfull, hmatch,
    not_occursAsWord_alternatives hsource, hweight⟩

end Weigher
end ExcerptSearch
