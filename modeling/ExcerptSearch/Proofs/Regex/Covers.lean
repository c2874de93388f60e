import ExcerptSearch.Regex.Compiled

namespace ExcerptSearch.Regex

variable {r s : Regex} {u v w : Text}

-- Does the expression match the part `v` of a text, between `u` and `w`?
def Covers (r : Regex) (u v w : Text) : Prop :=
  r.Matches (u ++ v ++ w).toArray u.length (u ++ v).length

def WordBorder (u w : Text) : Prop :=
  u.getLast?.any Unicode.isWord ≠ w.head?.any Unicode.isWord

instance : Decidable (WordBorder u w) :=
  inferInstanceAs (Decidable (_ ≠ _))

theorem append_eq_self_iff : (u ++ v).length = u.length ↔ v = [] := by
  simp

theorem covers_empty : empty.Covers u v w ↔ v = [] := by
  unfold Covers
  rw [matches_empty, eq_comm, append_eq_self_iff]

theorem covers_set {c : CharSet} : (set c).Covers u v w ↔ ∃ d, v = [d] ∧ c.mem d := by
  unfold Covers Matches
  constructor
  case mp =>
    rintro ⟨hmem, hlen⟩
    simp only [List.length_append, Nat.add_left_cancel_iff] at hlen
    obtain ⟨d, rfl⟩ := List.length_eq_one_iff.mp hlen
    exact ⟨d, rfl, by simpa using hmem⟩
  case mpr =>
    rintro ⟨d, rfl, hmem⟩
    simpa using hmem

-- An assertion looks at the characters next to its place only.
theorem holds_iff_between {l : Look} :
    l.holds (u ++ w).toArray u.length ↔ l.between u.getLast? w.head? := by
  have hbefore : Look.before? (u ++ w).toArray u.length = u.getLast? := by
    cases u with
    | nil => rfl
    | cons c u =>
      rw [Look.before?, if_neg (by simp), List.getElem?_toArray, List.getElem?_append_left (by simp),
        List.getLast?_eq_getElem?]
  have hafter : (u ++ w).toArray[u.length]? = w.head? := by
    cases w with
    | nil => simp
    | cons c w => simp
  unfold Look.holds
  rw [hbefore, hafter]

theorem covers_look {l : Look} :
    (look l).Covers u v w ↔ v = [] ∧ l.between u.getLast? w.head? := by
  unfold Covers Matches
  rw [List.append_assoc, holds_iff_between, @eq_comm _ u.length, append_eq_self_iff, and_comm]
  constructor
  all_goals
    rintro ⟨rfl, hl⟩
    exact ⟨rfl, by simpa using hl⟩

theorem covers_boundary :
    (look (.boundary .unicode)).Covers u v w ↔ v = [] ∧ WordBorder u w := by
  rw [covers_look]
  simp only [Look.between, WordBorder, bne_iff_ne, ne_eq]
  exact .rfl

theorem covers_cat : (cat r s).Covers u v w ↔
    ∃ v₁ v₂, v = v₁ ++ v₂ ∧ r.Covers u v₁ (v₂ ++ w) ∧ s.Covers (u ++ v₁) v₂ w := by
  unfold Covers
  constructor
  case mp =>
    intro ⟨j, hr, hs⟩
    -- The place between the two matches lies inside `v`, and divides it.
    have hj := hr.bounds
    have hk := hs.bounds
    have hlen : (u ++ v.take (j - u.length)).length = j := by
      simp only [List.length_append, List.length_take] at hk ⊢
      omega
    refine ⟨v.take (j - u.length), v.drop (j - u.length), by simp, ?_, ?_⟩
    · rw [hlen, ← List.append_assoc, List.append_assoc u, List.take_append_drop]
      exact hr
    · rw [hlen, List.append_assoc u, List.take_append_drop]
      exact hs
  case mpr =>
    rintro ⟨v₁, v₂, rfl, hr, hs⟩
    exact ⟨(u ++ v₁).length, by simpa using hr, by simpa using hs⟩

theorem covers_seq_nil : (seq []).Covers u v w ↔ v = [] :=
  covers_empty

theorem covers_seq_cons {rs : List Regex} : (seq (r :: rs)).Covers u v w ↔
    ∃ v₁ v₂, v = v₁ ++ v₂ ∧ r.Covers u v₁ (v₂ ++ w) ∧ (seq rs).Covers (u ++ v₁) v₂ w :=
  matches_seq_cons.trans covers_cat

theorem covers_seq_append {rs ss : List Regex} : (seq (rs ++ ss)).Covers u v w ↔
    ∃ v₁ v₂, v = v₁ ++ v₂ ∧ (seq rs).Covers u v₁ (v₂ ++ w) ∧ (seq ss).Covers (u ++ v₁) v₂ w :=
  matches_seq_append.trans covers_cat

theorem covers_concat {rs : List Regex} : (concat rs).Covers u v w ↔ (seq rs).Covers u v w :=
  matches_concat

theorem matches_copies {h : Array Char} {n i j : Nat} {greedy : Bool} :
    (rep r n (some 0) greedy).Matches h i j ↔ Steps (r.Matches h) n i j := by
  simp only [Matches, Option.some.injEq, forall_eq', Nat.add_zero]
  constructor
  case mp =>
    rintro ⟨m, hle, hge, hs⟩
    obtain rfl : m = n := Nat.le_antisymm hge hle
    exact hs
  case mpr => exact fun hs => ⟨n, Nat.le_refl n, Nat.le_refl n, hs⟩

theorem covers_copies_zero {greedy : Bool} :
    (rep r 0 (some 0) greedy).Covers u v w ↔ v = [] := by
  unfold Covers
  rw [matches_copies, steps_zero, eq_comm, append_eq_self_iff]

theorem covers_copies_succ {n : Nat} {greedy : Bool} :
    (rep r (n + 1) (some 0) greedy).Covers u v w ↔
      ∃ v₁ v₂, v = v₁ ++ v₂ ∧ r.Covers u v₁ (v₂ ++ w) ∧
        (rep r n (some 0) greedy).Covers (u ++ v₁) v₂ w := by
  rw [← covers_cat]
  unfold Covers
  rw [matches_copies, steps_succ]
  exact exists_congr fun j => and_congr_right fun _ => matches_copies.symm

theorem covers_any_number {greedy : Bool} :
    (rep r 0 none greedy).Covers u v w ↔ ∃ n, (rep r n (some 0) greedy).Covers u v w := by
  unfold Covers
  simp only [matches_copies]
  simp [Matches]

theorem covers_any_number_of_set {c : CharSet} {greedy : Bool} :
    (rep (set c) 0 none greedy).Covers u v w ↔ ∀ d ∈ v, c.mem d := by
  -- Every copy takes one character, so the number of copies is the length of the text.
  have hcopies : ∀ n u v, (rep (set c) n (some 0) greedy).Covers u v w ↔
      v.length = n ∧ ∀ d ∈ v, c.mem d := by
    intro n
    induction n with
    | zero =>
      intro u v
      rw [covers_copies_zero, List.length_eq_zero_iff]
      exact ⟨fun h => ⟨h, by simp [h]⟩, And.left⟩
    | succ n ih =>
      intro u v
      simp only [covers_copies_succ, covers_set, ih]
      constructor
      case mp =>
        rintro ⟨_, v₂, rfl, ⟨d, rfl, hd⟩, rfl, hall⟩
        simp_all
      case mpr =>
        rintro ⟨hlen, hall⟩
        obtain ⟨d, v, rfl⟩ := List.exists_cons_of_length_eq_add_one hlen
        simp at hlen hall
        exact ⟨[d], v, rfl, ⟨d, rfl, hall.1⟩, hlen, hall.2⟩
  simp [covers_any_number, hcopies]

theorem Matches.covers {j : Nat} (hm : r.Matches (u ++ w).toArray u.length j) :
    ∃ v w', w = v ++ w' ∧ r.Covers u v w' := by
  -- The match ends at `j`, which is that far behind the end of `u`.
  have hj := hm.bounds
  have hlen : (u ++ w.take (j - u.length)).length = j := by
    simp at hj ⊢
    omega
  refine ⟨w.take (j - u.length), w.drop (j - u.length), by simp, ?_⟩
  unfold Covers
  rwa [hlen, List.append_assoc, List.take_append_drop]

theorem Compiled.isMatch_iff_covers {p : Compiled} {t : Text} :
    p.isMatch t = true ↔ ∃ u v w, t = u ++ v ++ w ∧ p.regex.Covers u v w := by
  rw [Compiled.isMatch_iff]
  constructor
  case mp =>
    intro ⟨i, hi, j, hm⟩
    have hlen : (t.take i).length = i := List.length_take_of_le hi
    have hm' : p.regex.Matches (t.take i ++ t.drop i).toArray (t.take i).length j := by
      rwa [hlen, List.take_append_drop]
    have ⟨v, w, hw, hc⟩ := hm'.covers
    exact ⟨t.take i, v, w, by rw [List.append_assoc, ← hw, List.take_append_drop], hc⟩
  case mpr =>
    rintro ⟨u, v, w, rfl, hc⟩
    exact ⟨u.length, by simp, (u ++ v).length, hc⟩

theorem Compiled.regex_eq_of_parse? {p : Compiled} (h : parse? p.source = some r) : p.regex = r :=
  Option.some.inj (p.denotes.symm.trans h)

theorem Compiled.exists_ofSource? {t : Text} (h : parse? t = some r) :
    ∃ p, Compiled.ofSource? t = some p ∧ p.regex = r := by
  have hsome : (Compiled.ofSource? t).isSome := by
    rw [Compiled.ofSource?_isSome, h]
    rfl
  have ⟨p, hp⟩ := Option.isSome_iff_exists.mp hsome
  rw [← Compiled.source_of_ofSource? hp] at h
  exact ⟨p, hp, Compiled.regex_eq_of_parse? h⟩

end ExcerptSearch.Regex
