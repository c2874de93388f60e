import ExcerptSearch.Proofs.Regex.Alternation

namespace ExcerptSearch.Regex.Parser

variable {q p : Piece} {c : Char} {s : Text} {st st' t : State}

-- A group whose first alternative begins with the piece `q`, and which else is the group before it.
inductive Group.Behind (q : Piece) : Group → Group → Prop
  | items {items : List Piece} {saved : Flags} {number : Option Nat} :
    Behind q ⟨[], items, saved, number⟩ ⟨[], items ++ [q], saved, number⟩
  | branches {branches items first : List Piece} {saved : Flags} {number : Option Nat} :
    Behind q ⟨branches ++ [.concat first], items, saved, number⟩
      ⟨branches ++ [.concat (q :: first)], items, saved, number⟩

inductive Behind (q : Piece) : List Group → List Group → Prop
  | whole {g g' : Group} : g.Behind q g' → Behind q [g] [g']
  | inner {g : Group} {gs gs' : List Group} : Behind q gs gs' → Behind q (g :: gs) (g :: gs')

namespace Behind

variable {g g' : Group} {gs gs' : List Group} {ps : List Piece}

theorem push (h : Behind q (g :: gs) (g' :: gs')) (p : Piece) :
    Behind q ({ g with items := p :: g.items } :: gs)
      ({ g' with items := p :: g'.items } :: gs') := by
  cases h with
  | inner h => exact .inner h
  | whole h =>
    cases h with
    | items    => exact .whole .items
    | branches => exact .whole .branches

theorem pop (h : Behind q (g :: gs) (g' :: gs')) (hg : g.items = p :: ps) :
    ∃ ps', g'.items = p :: ps' ∧
      Behind q ({ g with items := ps } :: gs) ({ g' with items := ps' } :: gs') := by
  cases h with
  | inner h => exact ⟨ps, hg, .inner h⟩
  | whole h =>
    cases h with
    | items =>
      subst hg
      exact ⟨ps ++ [q], rfl, .whole .items⟩
    | branches => exact ⟨ps, hg, .whole .branches⟩

theorem close {g₁ : Group} (h : Behind q (g :: g₁ :: gs) (g' :: gs')) :
    g' = g ∧ ∃ g₁' gs₁, gs' = g₁' :: gs₁ ∧ Behind q (g₁ :: gs) (g₁' :: gs₁) := by
  cases h with
  | inner h =>
    cases h with
    | whole h => exact ⟨rfl, _, _, rfl, .whole h⟩
    | inner h => exact ⟨rfl, _, _, rfl, .inner h⟩

theorem nextBranch (h : Behind q (g :: gs) (g' :: gs')) :
    Behind q ({ g with branches := g.branch :: g.branches, items := [] } :: gs)
      ({ g' with branches := g'.branch :: g'.branches, items := [] } :: gs') := by
  cases h with
  | inner h => exact .inner h
  | whole h =>
    cases h with
    | @items items saved number =>
      have hb : Group.branch ⟨[], items ++ [q], saved, number⟩ = .concat (q :: items.reverse) := by
        simp [Group.branch]
      rw [hb]
      exact .whole (@Group.Behind.branches q [] _ _ _ _)
    | @branches bs items first saved number =>
      exact .whole (@Group.Behind.branches q (_ :: bs) _ _ _ _)

end Behind

-- May the next character change the latest piece? A question mark changes a repetition, and a name
-- in braces a word boundary.
def Point.changesPiece : Point → Bool
  | .piece .plain => false
  | .piece _      => true
  | .boundary _   => true
  | _             => false

namespace State

def Anchored (st : State) : Prop :=
  st.point.changesPiece = true → st.group.items ≠ []

structure Behind (q : Piece) (st st' : State) : Prop where
  groups   : Parser.Behind q (st.group :: st.outer) (st'.group :: st'.outer)
  rest     : st' = { st with group := st'.group, outer := st'.outer }
  anchored : st.Anchored

def ReadBehind (q : Piece) (o o' : Option State) : Prop :=
  ∀ t, o = some t → ∃ t', o' = some t' ∧ t.Behind q t'

namespace ReadBehind

theorem none {o : Option State} : ReadBehind q none o := by
  intro t h
  exact nomatch h

theorem some (h : st.Behind q st') : ReadBehind q (some st) (some st') := by
  rintro _ ⟨⟩
  exact ⟨st', rfl, h⟩

theorem map {α : Type} {o : Option α} {f f' : α → State} (h : ∀ a, (f a).Behind q (f' a)) :
    ReadBehind q (o.map f) (o.map f') := by
  cases o with
  | none => exact .none
  | some a => exact .some (h a)

theorem bind {α : Type} {o : Option α} {f f' : α → Option State}
    (h : ∀ a, ReadBehind q (f a) (f' a)) : ReadBehind q (o.bind f) (o.bind f') := by
  cases o with
  | none => exact .none
  | some a => exact h a

end ReadBehind

namespace Behind

theorem of_groups {g : Group} {gs : List Group}
    (h : Parser.Behind q (st.group :: st.outer) (g :: gs)) (ha : st.Anchored) :
    st.Behind q { st with group := g, outer := gs } :=
  ⟨h, rfl, ha⟩

theorem exists_groups (h : st.Behind q st') :
    ∃ g gs, st' = { st with group := g, outer := gs } ∧
      Parser.Behind q (st.group :: st.outer) (g :: gs) ∧ st.Anchored :=
  ⟨st'.group, st'.outer, h.rest, h.groups, h.anchored⟩

variable {min : Nat} {max : Option Nat} {tail : Tail} {point : Point}

theorem push (h : st.Behind q st') (p : Piece) (tail : Tail) :
    (st.push p tail).Behind q (st'.push p tail) := by
  obtain ⟨g, gs, rfl, hg, -⟩ := h.exists_groups
  exact of_groups (hg.push p) fun _ => List.cons_ne_nil _ _

theorem goOn (h : st.Behind q st') (hp : point.changesPiece = true → st.group.items ≠ []) :
    State.Behind q { st with point } { st' with point } := by
  obtain ⟨g, gs, rfl, hg, -⟩ := h.exists_groups
  exact of_groups hg hp

theorem moveTo (h : st.Behind q st') (hp : point.changesPiece = false) :
    State.Behind q { st with point } { st' with point } :=
  h.goOn fun hchanges => nomatch hp.symm.trans hchanges

theorem operand? (h : st.Behind q st') {ps : List Piece} (ho : st.operand? = some (p, ps)) :
    ∃ ps', st'.operand? = some (p, ps') ∧
      Parser.Behind q ({ st.group with items := ps } :: st.outer)
        ({ st'.group with items := ps' } :: st'.outer) := by
  obtain ⟨g, gs, rfl, hg, -⟩ := h.exists_groups
  unfold State.operand? at ho
  split at ho
  case h_1 p' ps₁ hitems =>
    split at ho
    case isTrue hop =>
      obtain ⟨rfl, rfl⟩ := Prod.mk.inj (Option.some.inj ho)
      obtain ⟨ps', hps', hbehind⟩ := hg.pop hitems
      exact ⟨ps', by simp [State.operand?, hps', hop], hbehind⟩
    case isFalse => cases ho
  case h_2 => cases ho

theorem repeat? (h : st.Behind q st') :
    ReadBehind q (st.repeat? min max tail) (st'.repeat? min max tail) := by
  intro t hs
  obtain ⟨⟨p, ps⟩, ho, rfl⟩ := Option.map_eq_some_iff.mp hs
  obtain ⟨ps', ho', hbehind⟩ := h.operand? ho
  obtain ⟨g, gs, rfl, -, -⟩ := h.exists_groups
  refine ⟨_, by rw [State.repeat?, ho', Option.map_some], ?_⟩
  exact of_groups (hbehind.push _) fun _ => List.cons_ne_nil _ _

theorem makeLazy (h : st.Behind q st') (hne : st.group.items ≠ []) :
    st.makeLazy.Behind q st'.makeLazy := by
  obtain ⟨g, gs, rfl, hg, -⟩ := h.exists_groups
  obtain ⟨p, ps, hitems⟩ := List.exists_cons_of_ne_nil hne
  obtain ⟨ps', hitems', hbehind⟩ := hg.pop hitems
  simp only [State.makeLazy, hitems, hitems']
  exact of_groups (hbehind.push _) fun hchanges => nomatch hchanges

theorem openGroup (h : st.Behind q st') (flags : Flags) :
    (st.openGroup flags).Behind q (st'.openGroup flags) := by
  obtain ⟨g, gs, rfl, hg, -⟩ := h.exists_groups
  exact of_groups (.inner hg) fun hchanges => nomatch hchanges

theorem openNumbered (h : st.Behind q st') : st.openNumbered.Behind q st'.openNumbered := by
  obtain ⟨g, gs, rfl, hg, -⟩ := h.exists_groups
  exact of_groups (.inner hg) fun hchanges => nomatch hchanges

theorem closeGroup? (h : st.Behind q st') : ReadBehind q st.closeGroup? st'.closeGroup? := by
  obtain ⟨g, gs, rfl, hg, -⟩ := h.exists_groups
  unfold State.closeGroup?
  split
  case h_1 => exact .none
  case h_2 g₁ outer houter =>
    rw [houter] at hg
    obtain ⟨rfl, g₁', gs₁, rfl, hbehind⟩ := hg.close
    exact .some (of_groups (hbehind.push _) fun _ => List.cons_ne_nil _ _)

theorem nextBranch (h : st.Behind q st') : st.nextBranch.Behind q st'.nextBranch := by
  obtain ⟨g, gs, rfl, hg, -⟩ := h.exists_groups
  exact of_groups hg.nextBranch fun hchanges => nomatch hchanges

theorem flags (h : st.Behind q st') : st'.flags = st.flags := by
  rw [h.rest]

theorem readPiece? (h : st.Behind q st') (ht : tail ≠ .plain → st.group.items ≠ []) :
    ReadBehind q (st.readPiece? tail c) (st'.readPiece? tail c) := by
  unfold State.readPiece?
  split
  case h_1 => exact .some (h.moveTo rfl)
  case h_2 => exact h.closeGroup?
  case h_3 => exact .some h.nextBranch
  case h_4 => exact .some (h.moveTo rfl)
  case h_5 => exact .some (h.moveTo rfl)
  case h_6 => exact h.repeat?
  case h_7 => exact h.repeat?
  case h_8 =>
    split
    case isTrue hl =>
      have hne : tail ≠ .plain := by
        rintro rfl
        simp at hl
      exact .some (h.makeLazy (ht hne))
    case isFalse => exact h.repeat?
  case h_9 =>
    split
    case isTrue hb =>
      exact .some (h.goOn fun _ => ht (by simp [hb]))
    case isFalse =>
      intro t hs
      obtain ⟨⟨p, ps⟩, ho, rfl⟩ := Option.map_eq_some_iff.mp hs
      obtain ⟨ps', ho', -⟩ := h.operand? ho
      refine ⟨_, by rw [ho', Option.map_some], ?_⟩
      exact h.moveTo rfl
  case h_10 =>
    rw [h.flags]
    exact .map fun r => h.push _ _
  case h_11 =>
    rw [h.flags]
    exact .some (h.push _ _)
  case h_12 =>
    rw [h.flags]
    exact .some (h.push _ _)
  case h_13 =>
    rw [h.flags]
    exact .map fun r => h.push _ _

theorem readCount? (h : st.Behind q st') (k : Count) :
    ReadBehind q (st.readCount? k c) (st'.readCount? k c) := by
  apply ReadBehind.bind
  intro r
  cases r with
  | inl k => exact .some (h.moveTo rfl)
  | inr bounds => exact h.repeat?

theorem readBoundary? (h : st.Behind q st') (hne : st.group.items ≠ []) (name : List Char) :
    ReadBehind q (st.readBoundary? name c) (st'.readBoundary? name c) := by
  unfold State.readBoundary?
  split
  case isTrue => exact .some (h.goOn fun _ => hne)
  case isFalse =>
    split
    case isTrue => exact h.readCount? _
    case isFalse =>
      split
      case isTrue =>
        rw [h.flags]
        apply ReadBehind.bind
        intro l
        obtain ⟨g, gs, rfl, hg, -⟩ := h.exists_groups
        obtain ⟨p, ps, hitems⟩ := List.exists_cons_of_ne_nil hne
        obtain ⟨ps', hitems', hbehind⟩ := hg.pop hitems
        apply ReadBehind.some
        simp only [hitems, hitems', List.drop_succ_cons, List.drop_zero]
        exact of_groups (hbehind.push _) fun hchanges => nomatch hchanges
      case isFalse => exact .none

theorem readName? (h : st.Behind q st') (read : List Char) :
    ReadBehind q (st.readName? read c) (st'.readName? read c) := by
  obtain ⟨g, gs, rfl, hg, ha⟩ := h.exists_groups
  unfold State.readName?
  split
  case isTrue =>
    split
    case isTrue => exact .none
    case isFalse =>
      exact .some (openNumbered (of_groups hg ha))
  case isFalse =>
    split
    case isTrue => exact .some (h.moveTo rfl)
    case isFalse => exact .none

theorem setFlags (h : st.Behind q st') (flags : Flags) :
    State.Behind q { st with flags } { st' with flags } := by
  obtain ⟨g, gs, rfl, hg, ha⟩ := h.exists_groups
  exact of_groups hg ha

theorem readFlags? (h : st.Behind q st') (l : FlagList) :
    ReadBehind q (st.readFlags? l c) (st'.readFlags? l c) := by
  unfold State.readFlags?
  split
  case isTrue =>
    split
    case isTrue => exact .none
    case isFalse => exact .some (h.openGroup _)
  case isFalse =>
    split
    case isTrue =>
      split
      case isTrue => exact .none
      case isFalse => exact .some ((h.setFlags l.flags).push _ _)
    case isFalse => exact .map fun l => h.moveTo rfl

theorem readPoint? (h : st.Behind q st') : ReadBehind q (st.readPoint? c) (st'.readPoint? c) := by
  have ha := h.anchored
  obtain ⟨g, gs, rfl, hg, -⟩ := h.exists_groups
  unfold State.readPoint?
  unfold Anchored at ha
  dsimp only
  split
  case h_1 tail hp =>
    refine h.readPiece? fun hne => ha ?_
    cases tail <;> simp_all [Point.changesPiece]
  case h_2 e hp =>
    split
    case h_1 => exact .none
    case h_2 => exact .some (h.moveTo rfl)
    case h_3 => exact .map fun r => h.push _ _
  case h_3 b hp =>
    split
    case h_1 => exact .none
    case h_2 => exact .some (h.moveTo rfl)
    case h_3 => exact .some (h.push _ _)
  case h_4 k hp => exact h.readCount? k
  case h_5 name hp => exact h.readBoundary? (ha (by rw [hp]; rfl)) name
  case h_6 hp =>
    split
    case isTrue => exact .some (h.moveTo rfl)
    case isFalse => exact h.openNumbered.readPiece? fun hne => absurd rfl hne
  case h_7 hp =>
    split
    case isTrue => exact .some (h.moveTo rfl)
    case isFalse =>
      split
      case isTrue => exact .some (h.moveTo rfl)
      case isFalse => exact h.readFlags? _
  case h_8 hp =>
    split
    case isTrue => exact .some (h.moveTo rfl)
    case isFalse => exact .none
  case h_9 read hp => exact h.readName? read
  case h_10 l hp => exact h.readFlags? l

theorem pass (h : st.Behind q st') : (st.pass c).Behind q (st'.pass c) := by
  have hpoint : st'.point = st.point := by rw [h.rest]
  unfold State.pass
  rw [hpoint]
  split
  case h_1 => exact h
  case h_2 => exact h.moveTo rfl
  case h_3 => exact h.moveTo rfl
  case h_4 => exact h

theorem settle (h : st.Behind q st') : (st.settle c).Behind q (st'.settle c) := by
  have hpoint : st'.point = st.point := by rw [h.rest]
  unfold State.settle
  rw [hpoint]
  split
  case h_1 => exact h.moveTo rfl
  case h_2 => exact h

theorem comment (h : st.Behind q st') (comment : Bool) :
    State.Behind q { st with comment } { st' with comment } := by
  obtain ⟨g, gs, rfl, hg, ha⟩ := h.exists_groups
  exact of_groups hg ha

theorem step? (h : st.Behind q st') : ReadBehind q (st.step? c) (st'.step? c) := by
  have hcomment : st'.comment = st.comment := by rw [h.rest]
  have hskips : (st'.settle c).skipsSpace = (st.settle c).skipsSpace := by
    rw [h.settle.rest]
    rfl
  unfold State.step?
  rw [hcomment]
  split
  case isTrue => exact .some (h.pass.comment _)
  case isFalse =>
    simp only [hskips, h.settle.flags]
    split
    case isTrue => exact .some (h.settle.pass.comment _)
    case isFalse => exact h.settle.readPoint?

theorem read? (h : st.Behind q st') : ReadBehind q (st.read? s) (st'.read? s) := by
  induction s generalizing st st' with
  | nil => exact .some h
  | cons c s ih =>
    intro t hs
    rw [read?_cons] at hs
    obtain ⟨next, hstep, hs⟩ := Option.bind_eq_some_iff.mp hs
    obtain ⟨next', hstep', hnext⟩ := h.step? _ hstep
    obtain ⟨t', ht', hbehind⟩ := ih hnext _ hs
    exact ⟨t', by rw [read?_cons, hstep', Option.bind_some, ht'], hbehind⟩

end Behind

-- A brace is read differently behind a word boundary, but where nothing stands before it, it is not
-- read at all.
theorem step?_start (h : step? {} c = some t) :
    step? (push {} q .boundary) c = step? (push {} q) c := by
  have hready : ∀ tail, (push {} q tail).Ready {} := fun tail => ⟨rfl, rfl, tail, rfl⟩
  have hempty : readPiece? {} .plain c = some t := by
    rw [← h]
    exact (Ready.step? ⟨rfl, rfl, .plain, rfl⟩ rfl rfl).symm
  rw [(hready .boundary).step? rfl rfl, (hready .plain).step? rfl rfl]
  unfold readPiece? at hempty ⊢
  split
  case h_9 => exact nomatch hempty
  all_goals rfl

theorem exists_read?_behind (h : read? {} s = some t) : ∃ t' point,
    read? (push {} q .boundary) s = some { t' with point } ∧ t.Behind q t' ∧
      (point = t.point ∨ point = .piece .boundary) := by
  have hstart : Behind q {} (push {} q) := ⟨.whole .items, rfl, fun hchanges => nomatch hchanges⟩
  cases s with
  | nil =>
    obtain rfl := Option.some.inj h
    exact ⟨_, .piece .boundary, rfl, hstart, .inr rfl⟩
  | cons c s =>
    obtain ⟨t', ht', hbehind⟩ := hstart.read? _ h
    rw [read?_cons] at h
    obtain ⟨next, hnext, -⟩ := Option.bind_eq_some_iff.mp h
    refine ⟨t', t'.point, ?_, hbehind, .inl ?_⟩
    · rw [read?_cons, step?_start hnext, ← read?_cons]
      exact ht'
    · rw [hbehind.rest]

variable {tail : Tail}

theorem exists_step?_comment (hcomment : st.comment = true) (hp : st.point = .piece tail)
    (hc : c ≠ '\n') : ∃ tail', st.step? c = some { st with point := .piece tail' } := by
  have ⟨tail', htail⟩ : ∃ tail', st.pass c = { st with point := .piece tail' } := by
    cases st
    obtain rfl := hp
    cases tail with
    | counted => exact ⟨.counted, rfl⟩
    | plain | repetition | boundary => exact ⟨.plain, rfl⟩
  refine ⟨tail', ?_⟩
  simp [step?, hcomment, htail, hc]

-- What a word boundary adds to the last alternative of a pattern that it is written behind. In a
-- comment it is not read.
def closingBorder (st : State) : List Piece :=
  if st.comment then [] else [{ regex := .look (.boundary st.flags.alphabet) }]

theorem depth_of_mem_closingBorder (hp : p ∈ st.closingBorder) : p.depth = 0 := by
  unfold closingBorder at hp
  split at hp
  case isTrue => exact nomatch hp
  case isFalse => rw [List.mem_singleton.mp hp]

theorem exists_read?_boundary (hp : st.point = .piece tail) :
    ∃ st' tail', st.read? ['\\', 'b'] = some st' ∧ st'.point = .piece tail' ∧
      st'.outer = st.outer ∧
      st'.group = { st.group with items := st.closingBorder ++ st.group.items } := by
  cases hcomment : st.comment with
  | true =>
    obtain ⟨tail₁, h₁⟩ := exists_step?_comment hcomment hp (c := '\\') (by decide)
    let next : State := { st with point := .piece tail₁ }
    have hnext : next.comment = true := hcomment
    obtain ⟨tail₂, h₂⟩ := exists_step?_comment hnext rfl (c := 'b') (by decide)
    have hborder : st.closingBorder = [] := by simp [closingBorder, hcomment]
    refine ⟨{ st with point := .piece tail₂ }, tail₂, ?_, rfl, rfl, by rw [hborder]; rfl⟩
    rw [read?_cons, h₁, Option.bind_some, read?_cons, h₂, Option.bind_some, read?_nil]
  | false =>
    let border : Piece := { regex := .look (.boundary st.flags.alphabet) }
    have hfirst : st.step? '\\' = some { st with point := .escape .opened } := by
      have hspace : Unicode.isWhiteSpace '\\' = false := by decide
      simp [step?, hcomment, settle, hp, hspace, readPoint?, readPiece?]
    have hsecond : step? { st with point := .escape .opened } 'b' =
        some (st.push border .boundary) := by
      cases st
      obtain rfl := hcomment
      simp only [step?, settle, skipsSpace, Escape.skipsSpace, Bool.and_false, Bool.false_and,
        Bool.false_eq_true, if_false]
      rfl
    have hborder : st.closingBorder = [border] := by simp [closingBorder, hcomment, border]
    refine ⟨st.push border .boundary, .boundary, ?_, rfl, rfl, by rw [hborder]; rfl⟩
    rw [read?_cons, hfirst, Option.bind_some, read?_cons, hsecond, Option.bind_some, read?_nil]

end State

theorem depth_le_maxDepth {ps : List Piece} (hp : p ∈ ps) : p.depth ≤ Piece.maxDepth ps := by
  have hd : p.depth ∈ ps.map (·.depth) := List.mem_map_of_mem hp
  unfold Piece.maxDepth Bracket.maxDepth
  rw [List.foldl_max, Nat.zero_max]
  exact List.le_max?_getD_of_mem hd

theorem depth_le_concat {ps : List Piece} (hp : p ∈ ps) : p.depth ≤ (Piece.concat ps).depth := by
  match ps with
  | [r]          =>
    obtain rfl := List.mem_singleton.mp hp
    exact Nat.le_refl _
  | r :: r' :: ps => exact Nat.le_add_left_of_le (depth_le_maxDepth hp)

theorem depth_lt_alternatives {ps : List Piece} (hlength : 1 < ps.length) (hp : p ∈ ps) :
    p.depth < (Piece.alternatives ps).depth := by
  match ps with
  | []               => exact nomatch hp
  | [r]              => exact absurd hlength (Nat.lt_irrefl 1)
  | r :: r' :: ps =>
    have hmax := depth_le_maxDepth hp
    simp only [Piece.alternatives]
    omega

theorem depth_concat_le_succ {ps ps' : List Piece} (h : ∀ p ∈ ps', p.depth = 0 ∨ p ∈ ps) :
    (Piece.concat ps').depth ≤ (Piece.concat ps).depth + 1 := by
  apply depth_concat_le
  intro p hp
  obtain hp | hp := h p hp
  · exact hp ▸ Nat.zero_le _
  · exact depth_le_concat hp

theorem Group.Behind.depth_content_le {g g' : Group} {extra : List Piece} (h : g.Behind q g')
    (hq : q.depth = 0) (hextra : ∀ p ∈ extra, p.depth = 0) :
    (Group.content { g' with items := extra ++ g'.items }).depth ≤ g.content.depth + 1 := by
  cases h with
  | @items items saved number =>
    apply depth_concat_le_succ
    intro p hp
    simp only [List.mem_reverse, List.mem_append, List.mem_singleton] at hp ⊢
    grind
  | @branches branches items first saved number =>
    let g : Group := ⟨branches ++ [.concat first], items, saved, number⟩
    have hdeep : ∀ p ∈ (g.branch :: g.branches).reverse, p.depth < g.content.depth := fun p hp =>
      depth_lt_alternatives (by simp [g]) hp
    have hlast := hdeep g.branch (by simp)
    have hfirst := hdeep (.concat first) (by simp [g])
    apply depth_alternatives_le
    intro p hp
    simp only [List.mem_reverse, List.mem_cons, List.mem_append, List.not_mem_nil, or_false] at hp
    obtain rfl | hp | rfl := hp
    · have hbranch : (Group.branch ⟨branches, extra ++ items, saved, number⟩).depth ≤
          g.branch.depth + 1 := by
        apply depth_concat_le_succ
        intro p hp
        simp only [List.mem_reverse, List.mem_append] at hp ⊢
        grind
      exact Nat.le_trans hbranch hlast
    · exact Nat.le_of_lt (hdeep p (by simp [g, hp]))
    · have hconcat : (Piece.concat (q :: first)).depth ≤ (Piece.concat first).depth + 1 := by
        apply depth_concat_le_succ
        intro p hp
        obtain rfl | hp := List.mem_cons.mp hp
        · exact .inl hq
        · exact .inr hp
      exact Nat.le_trans hconcat hfirst

theorem State.finish?_eq_some : st.finish? = some p ↔
    (∃ tail, st.point = .piece tail) ∧ st.outer = [] ∧ st.group.content = p := by
  unfold State.finish?
  split
  case h_1 tail hp houter => simp [hp, houter]
  case h_2 hne =>
    refine iff_of_false (fun h => nomatch h) ?_
    rintro ⟨⟨tail, hp⟩, houter, -⟩
    exact hne tail hp houter

theorem Behind.whole_inv {g g' : Group} {gs : List Group} (h : Behind q [g] (g' :: gs)) :
    gs = [] ∧ g.Behind q g' := by
  cases h with
  | whole h => exact ⟨rfl, h⟩
  | inner h => exact nomatch h

def betweenBorders (pattern : Text) : Text :=
  ['\\', 'b'] ++ pattern ++ ['\\', 'b']

def NestedTooDeep (pattern : Text) : Prop :=
  ∃ p, piece? pattern = some p ∧ maxNesting < p.depth

def openingBorder : Piece :=
  { regex := .look (.boundary .unicode) }

-- A pattern between word boundaries is read as without them, but for the boundary at the beginning
-- of its first alternative, and the one at the end of its last.
theorem exists_piece?_of_read? (h : State.read? {} s = some t) (hfinish : t.finish? = some p) :
    ∃ g, t.group.Behind openingBorder g ∧ piece? (betweenBorders s) =
      some (Group.content { g with items := t.closingBorder ++ g.items }) := by
  obtain ⟨⟨tail, hpoint⟩, houter, -⟩ := State.finish?_eq_some.mp hfinish
  have hborder : State.read? {} ['\\', 'b'] = some (State.push {} openingBorder .boundary) := rfl
  obtain ⟨t', point, hread, hbehind, hpoint'⟩ := State.exists_read?_behind (q := openingBorder) h
  obtain ⟨houter', hgroup⟩ : t'.outer = [] ∧ t.group.Behind openingBorder t'.group := by
    have hgroups := hbehind.groups
    rw [houter] at hgroups
    exact hgroups.whole_inv
  obtain ⟨tail', hpiece⟩ : ∃ tail', point = .piece tail' := by
    obtain rfl | rfl := hpoint'
    · exact ⟨tail, hpoint⟩
    · exact ⟨.boundary, rfl⟩
  obtain ⟨t'', tail'', hlast, hpoint'', houter'', hgroup''⟩ :=
    @State.exists_read?_boundary { t' with point } tail' hpiece
  have hclosing : State.closingBorder { t' with point } = t.closingBorder := by
    rw [hbehind.rest]
    rfl
  refine ⟨t'.group, hgroup, ?_⟩
  rw [piece?, betweenBorders, State.read?_append, State.read?_append, hborder, Option.bind_some,
    hread, Option.bind_some, hlast, Option.bind_some]
  refine State.finish?_eq_some.mpr ⟨⟨tail'', hpoint''⟩, houter''.trans houter', ?_⟩
  rw [hgroup'', hclosing]

theorem exists_piece?_betweenBorders (h : piece? s = some p) :
    ∃ p', piece? (betweenBorders s) = some p' ∧ p'.depth ≤ p.depth + 1 := by
  obtain ⟨t, ht, hfinish⟩ := Option.bind_eq_some_iff.mp h
  obtain ⟨-, -, rfl⟩ := State.finish?_eq_some.mp hfinish
  obtain ⟨g, hgroup, hpiece⟩ := exists_piece?_of_read? ht hfinish
  exact ⟨_, hpiece, hgroup.depth_content_le rfl fun p => State.depth_of_mem_closingBorder⟩

theorem not_nestedTooDeep_betweenBorders (h : piece? s = some p) (hdepth : p.depth < maxNesting) :
    ¬NestedTooDeep (betweenBorders s) := by
  rintro ⟨p', hp', hdeep⟩
  obtain ⟨p'', hp'', hle⟩ := exists_piece?_betweenBorders h
  obtain rfl : p' = p'' := Option.some.inj (hp'.symm.trans hp'')
  omega

theorem isSome_parse?_betweenBorders {r : Regex} (h : parse? s = some r)
    (hdepth : ¬NestedTooDeep (betweenBorders s)) : (parse? (betweenBorders s)).isSome := by
  obtain ⟨p, hp, -⟩ := Option.map_eq_some_iff.mp h
  have hp : piece? s = some p := (Option.filter_eq_some_iff.mp hp).1
  obtain ⟨p', hp', -⟩ := exists_piece?_betweenBorders hp
  have hle : p'.depth ≤ maxNesting := Nat.le_of_not_lt fun hlt => hdepth ⟨p', hp', hlt⟩
  simp [parse?, hp', Option.filter, hle]

end ExcerptSearch.Regex.Parser
