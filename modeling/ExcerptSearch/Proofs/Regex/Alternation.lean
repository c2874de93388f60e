import ExcerptSearch.Proofs.Regex.Spelling
import ExcerptSearch.Query.Highlighter
import Mathlib.Logic.Basic

namespace ExcerptSearch.Regex.Parser

variable {f : Flags} {st : State} {ps : List Piece}

open State

theorem State.Ready.nextBranch (h : st.Ready f) : st.nextBranch.Ready f :=
  ⟨h.flags, h.comment, .plain, rfl⟩

theorem step?_bar (h : st.Ready f) (hx : f.extended = false) :
    st.step? '|' = some st.nextBranch := by
  have ⟨tail, hp⟩ := h.point
  exact h.step? hx hp

theorem read?_join {pieces : Text → List Piece} (hx : f.extended = false) (s : Text) (ss : List Text)
    (hs : ∀ t ∈ s :: ss, Spells f t (pieces t)) (h : st.Ready f) :
    ∃ st', st.read? (Text.join ['|'] (s :: ss)) = some st' ∧ st'.Ready f ∧ st'.outer = st.outer ∧
      (st'.group.branch :: st'.group.branches).reverse = st.group.branches.reverse ++
        .concat (st.group.items.reverse ++ pieces s) :: ss.map fun t => .concat (pieces t) := by
  -- The first text ends the branch that is open in `st`, and each bar opens the next one.
  induction ss generalizing s st with
  | nil =>
    obtain ⟨tail, hread⟩ := hs s List.mem_cons_self st h
    refine ⟨st.pushAll (pieces s) tail, ?_, h.pushAll, rfl, ?_⟩
    · simpa [Text.join] using hread
    · simp [Group.branch, pushAll]
  | cons t ss ih =>
    obtain ⟨tail, hread⟩ := hs s List.mem_cons_self st h
    let next := (st.pushAll (pieces s) tail).nextBranch
    have hnext : next.Ready f := h.pushAll.nextBranch
    have hs' : ∀ t' ∈ t :: ss, Spells f t' (pieces t') := fun t' ht =>
      hs t' (List.mem_cons_of_mem s ht)
    obtain ⟨st', hst', hready, houter, hbranches⟩ := ih t hs' hnext
    refine ⟨st', ?_, hready, houter, ?_⟩
    · have hjoin : Text.join ['|'] (s :: t :: ss) = s ++ '|' :: Text.join ['|'] (t :: ss) := by
        simp [Text.join]
      rw [hjoin, read?_append, hread, Option.bind_some, read?_cons, step?_bar h.pushAll hx]
      exact hst'
    · rw [hbranches]
      simp [next, nextBranch, Group.branch, pushAll]

theorem covers_alternatives {u v w : Text} (hne : ps ≠ []) :
    (Piece.alternatives ps).regex.Covers u v w ↔ ∃ p ∈ ps, p.regex.Covers u v w := by
  match ps, hne with
  | [p], _          => simp [Piece.alternatives]
  | p :: q :: ps, _ =>
    have hmap : (p :: q :: ps).map (·.regex) ≠ [] := by simp
    refine (matches_choice hmap).trans ?_
    simp only [List.mem_map, exists_exists_and_eq_and]
    exact .rfl

theorem depth_alternatives_le {n : Nat} (h : ∀ p ∈ ps, p.depth ≤ n) :
    (Piece.alternatives ps).depth ≤ n + 1 := by
  match ps with
  | []           => exact Nat.le_add_left 1 n
  | [p]          => exact Nat.le_succ_of_le (h p List.mem_cons_self)
  | p :: q :: ps =>
    have hmax := maxDepth_le h
    simp only [Piece.alternatives]
    omega

section Alternation

variable {pieces : Text → List Piece} {s : Text} {ss : List Text} {u v w : Text}

-- What the sign for patterns without regard to case leaves behind.
def sign : Piece :=
  { regex := .empty, operand := false }

def branches (pieces : Text → List Piece) (s : Text) (ss : List Text) : List Piece :=
  .concat (sign :: pieces s) :: ss.map fun t => .concat (pieces t)

theorem piece?_alternation (hs : ∀ t ∈ s :: ss, Spells { ignoreCase := true } t (pieces t)) :
    piece? (Highlighter.alternation (s :: ss)) = some (.alternatives (branches pieces s ss)) := by
  let start : State := { flags := { ignoreCase := true }, group := { items := [sign] } }
  have hsign : State.read? {} ['(', '?', 'i', ')'] = some start := rfl
  have hstart : start.Ready { ignoreCase := true } := ⟨rfl, rfl, .plain, rfl⟩
  obtain ⟨st, hst, hready, houter, hbranches⟩ := read?_join rfl s ss hs hstart
  have ⟨tail, hp⟩ := hready.point
  have houter' : st.outer = [] := houter
  have hcontent : st.group.content = .alternatives (branches pieces s ss) := by
    unfold Group.content
    rw [hbranches]
    rfl
  rw [piece?, Highlighter.alternation, read?_append, hsign, Option.bind_some, hst]
  simp [State.finish?, hp, houter', hcontent]

theorem depth_of_mem_branches_le {n : Nat} (hd : ∀ t ∈ s :: ss, ∀ p ∈ pieces t, p.depth ≤ n) :
    ∀ p ∈ branches pieces s ss, p.depth ≤ n + 1 := by
  intro p hp
  obtain rfl | hp := List.mem_cons.mp hp
  · apply depth_concat_le
    intro q hq
    obtain rfl | hq := List.mem_cons.mp hq
    · exact Nat.zero_le n
    · exact hd s List.mem_cons_self q hq
  · obtain ⟨t, ht, rfl⟩ := List.mem_map.mp hp
    apply depth_concat_le
    exact hd t (List.mem_cons_of_mem s ht)

theorem covers_sign : (sequence (sign :: ps)).Covers u v w ↔ (sequence ps).Covers u v w := by
  rw [covers_sequence_cons]
  constructor
  case mp =>
    rintro ⟨v₁, v₂, rfl, he, hs⟩
    obtain rfl := covers_empty.mp he
    simpa using hs
  case mpr => exact fun hs => ⟨[], v, rfl, covers_empty.mpr rfl, by simpa using hs⟩

theorem covers_branches : (Piece.alternatives (branches pieces s ss)).regex.Covers u v w ↔
    ∃ t ∈ s :: ss, (sequence (pieces t)).Covers u v w := by
  have hne : branches pieces s ss ≠ [] := List.cons_ne_nil _ _
  rw [covers_alternatives hne]
  simp only [branches, List.mem_cons, exists_eq_or_imp, List.mem_map, exists_exists_and_eq_and,
    covers_concat_iff, covers_sign]

theorem exists_parse?_alternation (hne : ss ≠ [])
    (hs : ∀ t ∈ ss, Spells { ignoreCase := true } t (pieces t))
    (hd : ∀ t ∈ ss, ∀ p ∈ pieces t, p.depth + 2 ≤ maxNesting) :
    ∃ r, parse? (Highlighter.alternation ss) = some r ∧
      ∀ {u v w}, r.Covers u v w ↔ ∃ t ∈ ss, (sequence (pieces t)).Covers u v w := by
  obtain ⟨s, ss, rfl⟩ := List.exists_cons_of_ne_nil hne
  have hpieces : ∀ t ∈ s :: ss, ∀ p ∈ pieces t, p.depth ≤ maxNesting - 2 := fun t ht p hp =>
    Nat.le_sub_of_add_le (hd t ht p hp)
  have hdepth : (Piece.alternatives (branches pieces s ss)).depth ≤ maxNesting :=
    depth_alternatives_le (depth_of_mem_branches_le hpieces)
  refine ⟨(Piece.alternatives (branches pieces s ss)).regex, ?_, covers_branches⟩
  rw [parse?, piece?_alternation hs]
  simp [Option.filter, hdepth]

end Alternation

end ExcerptSearch.Regex.Parser
