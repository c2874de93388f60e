import ExcerptSearch.Proofs.Regex.Between

namespace ExcerptSearch.Regex.Parser

variable {p q : Piece} {ps : List Piece} {s u v w : Text} {r : Regex} {st : State}

def Group.alternatives (g : Group) : List Piece :=
  (g.branch :: g.branches).reverse

theorem Group.covers_content {g : Group} :
    g.content.regex.Covers u v w ↔ ∃ p ∈ g.alternatives, p.regex.Covers u v w :=
  covers_alternatives (by simp)

def State.BorderBehind (st : State) (u w : Text) : Prop :=
  st.comment = false → (Look.boundary st.flags.alphabet).between u.getLast? w.head? = true

theorem covers_openingBorder :
    (sequence (openingBorder :: ps)).Covers u v w ↔
      WordBorder u (v ++ w) ∧ (sequence ps).Covers u v w := by
  rw [covers_sequence_cons]
  constructor
  case mp =>
    rintro ⟨v₁, v₂, rfl, hlook, hps⟩
    obtain ⟨rfl, hborder⟩ := covers_boundary.mp hlook
    exact ⟨by simpa using hborder, by simpa using hps⟩
  case mpr =>
    rintro ⟨hborder, hps⟩
    exact ⟨[], v, rfl, covers_boundary.mpr ⟨rfl, hborder⟩, by simpa using hps⟩

theorem covers_closingBorder :
    (sequence st.closingBorder).Covers u v w ↔ v = [] ∧ st.BorderBehind u w := by
  unfold State.closingBorder State.BorderBehind
  cases st.comment with
  | true => simp [covers_sequence_nil]
  | false =>
    simp only [Bool.false_eq_true, if_false, forall_const, covers_sequence_cons, covers_look,
      covers_sequence_nil]
    constructor
    case mp =>
      rintro ⟨_, _, rfl, ⟨rfl, hborder⟩, rfl⟩
      exact ⟨rfl, hborder⟩
    case mpr =>
      rintro ⟨rfl, hborder⟩
      exact ⟨[], [], rfl, ⟨rfl, hborder⟩, rfl⟩

theorem covers_append_closingBorder :
    (sequence (ps ++ st.closingBorder)).Covers u v w ↔
      (sequence ps).Covers u v w ∧ st.BorderBehind (u ++ v) w := by
  simp only [covers_sequence_append, covers_closingBorder]
  constructor
  case mp =>
    rintro ⟨v₁, _, rfl, hps, rfl, hborder⟩
    rw [List.append_nil]
    exact ⟨hps, hborder⟩
  case mpr =>
    rintro ⟨hps, hborder⟩
    exact ⟨v, [], (List.append_nil v).symm, hps, rfl, hborder⟩

theorem reverse_closingBorder : st.closingBorder.reverse = st.closingBorder := by
  unfold State.closingBorder
  split <;> rfl

-- Does one of the alternatives cover the part `v`, where the first asks for something of the place
-- where it starts, and the last of the place where it stops?
def CoversBetween (starts stops : Text → Text → Prop) (ps : List Piece) (u v w : Text) : Prop :=
  ∃ before p behind, ps = before ++ p :: behind ∧ p.regex.Covers u v w ∧
    (before = [] → starts u (v ++ w)) ∧ (behind = [] → stops (u ++ v) w)

section CoversBetween

variable {starts stops : Text → Text → Prop}

theorem coversBetween_singleton : CoversBetween starts stops [p] u v w ↔
    p.regex.Covers u v w ∧ starts u (v ++ w) ∧ stops (u ++ v) w := by
  constructor
  case mp =>
    rintro ⟨before, p', behind, h, hp, hstart, hstop⟩
    obtain ⟨rfl, rfl, rfl⟩ : before = [] ∧ p' = p ∧ behind = [] := by
      simpa [List.append_eq_singleton_iff, eq_comm] using h
    exact ⟨hp, hstart rfl, hstop rfl⟩
  case mpr =>
    rintro ⟨hp, hstart, hstop⟩
    exact ⟨[], p, [], rfl, hp, fun _ => hstart, fun _ => hstop⟩

theorem coversBetween_cons_concat : CoversBetween starts stops (p :: (ps ++ [q])) u v w ↔
    p.regex.Covers u v w ∧ starts u (v ++ w) ∨ (∃ p' ∈ ps, p'.regex.Covers u v w) ∨
      q.regex.Covers u v w ∧ stops (u ++ v) w := by
  constructor
  case mp =>
    rintro ⟨before, p', behind, h, hp, hstart, hstop⟩
    cases before with
    | nil =>
      obtain ⟨rfl, -⟩ := List.cons.inj h
      exact .inl ⟨hp, hstart rfl⟩
    | cons _ before =>
      have h : ps ++ [q] = before ++ p' :: behind := List.tail_eq_of_cons_eq h
      obtain rfl | ⟨behind, last, rfl⟩ := behind.eq_nil_or_concat
      · obtain ⟨-, h⟩ := List.append_inj' h rfl
        obtain rfl := List.singleton_inj.mp h
        exact .inr (.inr ⟨hp, hstop rfl⟩)
      · rw [List.concat_eq_append, ← List.cons_append, ← List.append_assoc] at h
        obtain ⟨rfl, -⟩ := List.append_inj' h rfl
        exact .inr (.inl ⟨p', by simp, hp⟩)
  case mpr =>
    rintro (⟨hp, hstart⟩ | ⟨p', hmem, hp⟩ | ⟨hq, hstop⟩)
    · exact ⟨[], p, ps ++ [q], rfl, hp, fun _ => hstart, fun h => absurd h (by simp)⟩
    · obtain ⟨before, behind, rfl⟩ := List.append_of_mem hmem
      exact ⟨p :: before, p', behind ++ [q], by simp, hp, fun h => (nomatch h),
        fun h => absurd h (by simp)⟩
    · exact ⟨p :: ps, q, [], rfl, hq, fun h => (nomatch h), fun _ => hstop⟩

end CoversBetween

theorem Group.Behind.covers_content {g g' : Group} (h : g.Behind openingBorder g') :
    (Group.content { g' with items := st.closingBorder ++ g'.items }).regex.Covers u v w ↔
      CoversBetween WordBorder st.BorderBehind g.alternatives u v w := by
  rw [Group.covers_content]
  cases h with
  | @items items saved number =>
    have hplain : Group.alternatives ⟨[], items, saved, number⟩ = [.concat items.reverse] := rfl
    have hbordered : Group.alternatives ⟨[], st.closingBorder ++ (items ++ [openingBorder]), saved,
        number⟩ = [.concat (openingBorder :: (items.reverse ++ st.closingBorder))] := by
      simp [Group.alternatives, Group.branch, reverse_closingBorder]
    rw [hplain, hbordered, coversBetween_singleton]
    simp only [List.mem_singleton, exists_eq_left, covers_concat_iff, covers_openingBorder,
      covers_append_closingBorder]
    exact and_left_comm
  | @branches branches items first saved number =>
    have hplain : Group.alternatives ⟨branches ++ [.concat first], items, saved, number⟩ =
        .concat first :: (branches.reverse ++ [.concat items.reverse]) := by
      simp [Group.alternatives, Group.branch]
    have hbordered : Group.alternatives ⟨branches ++ [.concat (openingBorder :: first)],
        st.closingBorder ++ items, saved, number⟩ = .concat (openingBorder :: first) ::
          (branches.reverse ++ [.concat (items.reverse ++ st.closingBorder)]) := by
      simp [Group.alternatives, Group.branch, reverse_closingBorder]
    rw [hplain, hbordered, coversBetween_cons_concat]
    simp only [List.mem_cons, List.mem_append, List.not_mem_nil, or_false, or_and_right, exists_or,
      exists_eq_left, covers_concat_iff, covers_openingBorder, covers_append_closingBorder]
    rw [and_comm]

theorem exists_read?_of_parse? (h : parse? s = some r) :
    ∃ st p, State.read? {} s = some st ∧ st.finish? = some p ∧ p.regex = r := by
  obtain ⟨p, hp, rfl⟩ := Option.map_eq_some_iff.mp h
  obtain ⟨st, hread, hfinish⟩ := Option.bind_eq_some_iff.mp (Option.filter_eq_some_iff.mp hp).1
  exact ⟨st, p, hread, hfinish, rfl⟩

theorem covers_betweenBorders {r' : Regex} (h : parse? s = some r)
    (h' : parse? (betweenBorders s) = some r') (hread : State.read? {} s = some st) :
    r'.Covers u v w ↔ CoversBetween WordBorder st.BorderBehind st.group.alternatives u v w := by
  obtain ⟨st', p, hread', hfinish, -⟩ := exists_read?_of_parse? h
  obtain rfl : st = st' := Option.some.inj (hread.symm.trans hread')
  obtain ⟨g, hbehind, hpiece⟩ := exists_piece?_of_read? hread hfinish
  obtain ⟨p', hp', rfl⟩ := Option.map_eq_some_iff.mp h'
  rw [(Option.filter_eq_some_iff.mp hp').1] at hpiece
  rw [Option.some.inj hpiece, hbehind.covers_content]

-- A pattern that is a single alternative, and at its end outside comments and still under Unicode's
-- notion of a word.
def SelfContained (pattern : Text) : Prop :=
  ∃ st, State.read? {} pattern = some st ∧ st.group.branches = [] ∧ st.comment = false ∧
    st.flags.unicode = true

theorem borderBehind_iff (hcomment : st.comment = false) (hunicode : st.flags.unicode = true) :
    st.BorderBehind u w ↔ WordBorder u w := by
  simp only [State.BorderBehind, hcomment, forall_const, Flags.alphabet, hunicode, if_true,
    Look.between, bne_iff_ne]
  exact .rfl

theorem SelfContained.covers_betweenBorders {r' : Regex} (hs : SelfContained s)
    (h : parse? s = some r) (h' : parse? (betweenBorders s) = some r') :
    r'.Covers u v w ↔ r.Covers u v w ∧ WordBorder u (v ++ w) ∧ WordBorder (u ++ v) w := by
  obtain ⟨st, hread, hbranches, hcomment, hunicode⟩ := hs
  obtain ⟨st', p, hread', hfinish, rfl⟩ := exists_read?_of_parse? h
  obtain rfl : st = st' := Option.some.inj (hread.symm.trans hread')
  obtain ⟨-, -, rfl⟩ := State.finish?_eq_some.mp hfinish
  have halternatives : st.group.alternatives = [st.group.branch] := by
    rw [Group.alternatives, hbranches, List.reverse_singleton]
  rw [Parser.covers_betweenBorders h h' hread, Group.covers_content, halternatives,
    coversBetween_singleton, borderBehind_iff hcomment hunicode]
  simp

theorem Spells.selfContained (h : Spells {} s ps) : SelfContained s := by
  obtain ⟨tail, hread⟩ := h {} ⟨rfl, rfl, .plain, rfl⟩
  exact ⟨_, hread, rfl, rfl, rfl⟩

end ExcerptSearch.Regex.Parser
