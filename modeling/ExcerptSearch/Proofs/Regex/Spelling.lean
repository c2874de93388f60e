import ExcerptSearch.Proofs.Regex.Covers

namespace ExcerptSearch.Regex.Parser

variable {f : Flags} {st : State} {s t : Text} {p : Piece} {ps qs : List Piece}

namespace State

-- A piece may begin here, under the flags `f` and outside comments.
structure Ready (st : State) (f : Flags) : Prop where
  flags   : st.flags = f
  comment : st.comment = false
  point   : ∃ tail, st.point = .piece tail

def pushAll (st : State) (ps : List Piece) (tail : Tail) : State :=
  { st with group.items := ps.reverse ++ st.group.items, point := .piece tail }

theorem pushAll_singleton {tail : Tail} : st.pushAll [p] tail = st.push p tail :=
  rfl

theorem pushAll_pushAll {tail tail' : Tail} :
    (st.pushAll ps tail).pushAll qs tail' = st.pushAll (ps ++ qs) tail' := by
  simp [pushAll]

theorem Ready.pushAll {tail : Tail} (h : st.Ready f) : (st.pushAll ps tail).Ready f :=
  ⟨h.flags, h.comment, tail, rfl⟩

theorem read?_nil : st.read? [] = some st :=
  rfl

theorem read?_cons {c : Char} : st.read? (c :: s) = (st.step? c).bind (·.read? s) :=
  rfl

theorem step?_of_not_extended {c : Char} (hc : st.comment = false)
    (hx : st.flags.extended = false) : st.step? c = (st.settle c).readPoint? c := by
  have hsettle : (st.settle c).flags = st.flags := by
    unfold settle
    split <;> rfl
  simp [step?, hc, hsettle, hx]

theorem Ready.step? {c : Char} {tail : Tail} (h : st.Ready f) (hx : f.extended = false)
    (hp : st.point = .piece tail) : st.step? c = st.readPiece? tail c := by
  rw [step?_of_not_extended h.comment (h.flags ▸ hx)]
  simp [settle, readPoint?, hp]

end State

open State

-- Wherever a piece may begin, reading `s` adds the pieces `ps`.
def Spells (f : Flags) (s : Text) (ps : List Piece) : Prop :=
  ∀ st : State, st.Ready f → ∃ tail, st.read? s = some (st.pushAll ps tail)

namespace Spells

theorem nil : Spells f [] [] := by
  intro st h
  have ⟨tail, hp⟩ := h.point
  refine ⟨tail, ?_⟩
  rw [read?_nil]
  cases st
  simp_all [pushAll]

theorem append (h₁ : Spells f s ps) (h₂ : Spells f t qs) : Spells f (s ++ t) (ps ++ qs) := by
  intro st h
  have ⟨tail, hs⟩ := h₁ st h
  have ⟨tail', ht⟩ := h₂ (st.pushAll ps tail) h.pushAll
  refine ⟨tail', ?_⟩
  rw [read?_append, hs, Option.bind_some, ht, pushAll_pushAll]

theorem flatMap {α : Type} {as : List α} {source : α → Text} {piece : α → Piece}
    (h : ∀ a ∈ as, Spells f (source a) [piece a]) :
    Spells f (as.flatMap source) (as.map piece) := by
  induction as with
  | nil => exact .nil
  | cons a as ih =>
    have hhead := h a List.mem_cons_self
    have htail := ih fun b hb => h b (List.mem_cons_of_mem a hb)
    exact hhead.append htail

theorem literal {c : Char} (hx : f.extended = false) (hc : Escape.isMeta c = false) :
    Spells f [c] [{ regex := .set (f.fold (.singleton c)) }] := by
  intro st h
  have ⟨tail, hp⟩ := h.point
  have hread : st.readPiece? tail c =
      (st.flags.literal? ⟨c, false⟩).map fun r => st.push { regex := r } := by
    -- All cases but the last are for characters that have a meaning.
    unfold readPiece?
    split
    case h_13 => rfl
    all_goals exact absurd hc (by decide)
  refine ⟨.plain, ?_⟩
  rw [read?_cons, h.step? hx hp, hread, h.flags]
  simp [Flags.literal?, read?_nil, pushAll_singleton]

theorem primitive {c : Char} {q : Primitive} {r : Regex} (hx : f.extended = false)
    (hq : Escape.opened.step? f c = some (.inr q)) (hr : f.primitive? q = some r) :
    Spells f ['\\', c] [{ regex := r }] := by
  intro st h
  have ⟨tail, hp⟩ := h.point
  let opened : State := { st with point := .escape .opened }
  have hfirst : st.step? '\\' = some opened := by
    rw [h.step? hx hp]
    rfl
  have ⟨tail', hsecond⟩ : ∃ tail', opened.step? c = some (st.push { regex := r } tail') := by
    have hpoint : opened.step? c = opened.readPoint? c :=
      step?_of_not_extended h.comment (h.flags ▸ hx)
    rw [hpoint]
    obtain rfl := h.flags
    simp only [opened, readPoint?, hq, hr]
    exact ⟨_, rfl⟩
  refine ⟨tail', ?_⟩
  rw [read?_cons, hfirst, Option.bind_some, read?_cons, hsecond, Option.bind_some, read?_nil,
    pushAll_singleton]

theorem escape {c : Char} (hx : f.extended = false) (hc : Escape.isMeta c) :
    Spells f ['\\', c] [{ regex := .set (f.fold (.singleton c)) }] := by
  have hq : Escape.opened.step? f c = some (.inr (.literal ⟨c, false⟩)) := by
    simp [Escape.step?, Escape.isSelf, hc]
  exact .primitive hx hq (by simp [Flags.primitive?, Flags.literal?])

theorem boundary (hx : f.extended = false) (hu : f.unicode = true) :
    Spells f ['\\', 'b'] [{ regex := .look (.boundary .unicode) }] := by
  have hq : Escape.opened.step? f 'b' = some (.inr (.look (.boundary f.alphabet))) := rfl
  have hr : f.primitive? (.look (.boundary f.alphabet)) = some (.look (.boundary .unicode)) := by
    simp [Flags.primitive?, Flags.alphabet, hu]
  exact .primitive hx hq hr

end Spells

def Bracket.read? (f : Flags) (b : Bracket) : Text → Option SetPiece
  | []      => none
  | c :: cs =>
    match (b.settle c).step? f c, cs with
    | some (.inl b), cs => b.read? f cs
    | some (.inr q), [] => some q
    | _, _              => none

namespace Spells

theorem read?_bracket {b : Bracket} {q : SetPiece} (hc : st.comment = false)
    (hx : st.flags.extended = false) (hb : b.read? st.flags s = some q) :
    State.read? { st with point := .bracket b } s =
      some (st.push { regex := .set q.set, depth := q.depth }) := by
  -- Both readers settle the bracket before each character, so they go through the same states.
  induction s generalizing b with
  | nil => simp [Bracket.read?] at hb
  | cons c cs ih =>
    have hstep : State.step? { st with point := .bracket b } c =
        State.readPoint? { st with point := .bracket (b.settle c) } c :=
      step?_of_not_extended hc hx
    rw [read?_cons, hstep]
    unfold Bracket.read? at hb
    split at hb
    case h_1 hs =>
      simp only [readPoint?, hs, Option.bind_some]
      exact ih hb
    case h_2 hs =>
      simp only [readPoint?, hs, Option.bind_some]
      rw [← Option.some.inj hb]
      rfl
    case h_3 => simp at hb

theorem bracket {q : SetPiece} (hx : f.extended = false) (hb : Bracket.read? f {} s = some q) :
    Spells f ('[' :: s) [{ regex := .set q.set, depth := q.depth }] := by
  intro st h
  have ⟨tail, hp⟩ := h.point
  refine ⟨.plain, ?_⟩
  rw [read?_cons, h.step? hx hp]
  obtain rfl := h.flags
  exact read?_bracket h.comment hx hb

theorem lazyStar (hx : f.extended = false) (ho : p.operand) (h : Spells f s [p]) :
    Spells f (s ++ ['*', '?']) [(p.repeated 0 none (!f.swapGreed)).swapGreed] := by
  intro st hst
  have ⟨tail, hs⟩ := h st hst
  have hready : ∀ q tail, (st.push q tail).Ready f := fun q tail =>
    (hst.pushAll : (st.pushAll [q] tail).Ready f)
  have hstar : (st.push p tail).step? '*' =
      some (st.push (p.repeated 0 none (!f.swapGreed)) .repetition) := by
    rw [(hready _ _).step? hx rfl]
    simp only [readPiece?, repeat?, operand?, push, ho, ← hst.flags]
    rfl
  have hquestion : (st.push (p.repeated 0 none (!f.swapGreed)) .repetition).step? '?' =
      some (st.push (p.repeated 0 none (!f.swapGreed)).swapGreed) := by
    rw [(hready _ _).step? hx rfl]
    rfl
  refine ⟨.plain, ?_⟩
  rw [read?_append, hs, Option.bind_some, pushAll_singleton, read?_cons, hstar, Option.bind_some,
    read?_cons, hquestion]
  rfl

end Spells

def sequence (ps : List Piece) : Regex :=
  .seq (ps.map (·.regex))

theorem covers_sequence_nil {u v w : Text} : (sequence []).Covers u v w ↔ v = [] :=
  covers_seq_nil

theorem covers_sequence_cons {u v w : Text} : (sequence (p :: ps)).Covers u v w ↔
    ∃ v₁ v₂, v = v₁ ++ v₂ ∧ p.regex.Covers u v₁ (v₂ ++ w) ∧
      (sequence ps).Covers (u ++ v₁) v₂ w :=
  covers_seq_cons

theorem covers_sequence_append {u v w : Text} : (sequence (ps ++ qs)).Covers u v w ↔
    ∃ v₁ v₂, v = v₁ ++ v₂ ∧ (sequence ps).Covers u v₁ (v₂ ++ w) ∧
      (sequence qs).Covers (u ++ v₁) v₂ w := by
  unfold sequence
  rw [List.map_append]
  exact covers_seq_append

theorem covers_concat_iff {u v w : Text} :
    (Piece.concat ps).regex.Covers u v w ↔ (sequence ps).Covers u v w := by
  match ps with
  | []           => exact .rfl
  | [_]          => exact covers_concat
  | _ :: _ :: _  => exact covers_concat

theorem maxDepth_le {n : Nat} (h : ∀ p ∈ ps, p.depth ≤ n) : Piece.maxDepth ps ≤ n := by
  unfold Piece.maxDepth Bracket.maxDepth
  -- The fold may start from any depth that is not too great.
  have hfold : ∀ m ≤ n, (ps.map (·.depth)).foldl max m ≤ n := by
    induction ps with
    | nil => exact fun m hm => hm
    | cons p ps ih =>
      intro m hm
      have hp := h p List.mem_cons_self
      exact ih (fun q hq => h q (List.mem_cons_of_mem p hq)) _ (Nat.max_le.mpr ⟨hm, hp⟩)
  exact hfold 0 (Nat.zero_le n)

theorem depth_concat_le {n : Nat} (h : ∀ p ∈ ps, p.depth ≤ n) :
    (Piece.concat ps).depth ≤ n + 1 := by
  match ps with
  | []      => exact Nat.zero_le _
  | [p]     =>
    have hp := h p List.mem_cons_self
    exact Nat.le_succ_of_le hp
  | p :: q :: ps =>
    have hmax := maxDepth_le h
    simp only [Piece.concat]
    omega

theorem Spells.piece?_eq (h : Spells {} s ps) : piece? s = some (Piece.concat ps) := by
  have ⟨tail, hs⟩ := h {} ⟨rfl, rfl, .plain, rfl⟩
  simp [piece?, hs, State.pushAll, State.finish?, Group.content, Group.branch, Piece.alternatives]

theorem Spells.exists_parse? (h : Spells {} s ps) (hd : ∀ p ∈ ps, p.depth < maxNesting) :
    ∃ r, parse? s = some r ∧ ∀ {u v w}, r.Covers u v w ↔ (sequence ps).Covers u v w := by
  have hdepth : (Piece.concat ps).depth ≤ maxNesting :=
    @depth_concat_le ps (maxNesting - 1) fun p hp => Nat.le_sub_one_of_lt (hd p hp)
  refine ⟨(Piece.concat ps).regex, ?_, covers_concat_iff⟩
  simp [parse?, h.piece?_eq, Option.filter, hdepth]

end ExcerptSearch.Regex.Parser
