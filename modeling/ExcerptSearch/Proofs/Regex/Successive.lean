import ExcerptSearch.Proofs.Regex.Covers
import ExcerptSearch.Proofs.Text

namespace ExcerptSearch.Regex

variable {r : Regex} {h : Array Char} {t : Text} {i j k l n fuel : Nat} {last : Option Nat}
  {m : Found} {ms : List Found}

def Occurs (r : Regex) (h : Array Char) (i j : Nat) : Prop :=
  i ≤ h.size ∧ r.Matches h i j

namespace Occurs

theorem le (o : r.Occurs h i j) : i ≤ j := by
  have := o.2.bounds
  omega

theorem stop_le (o : r.Occurs h i j) : j ≤ h.size := by
  have := o.1
  have := o.2.bounds
  omega

theorem exists_covers (o : r.Occurs t.toArray i j) :
    ∃ u v w, t = u ++ v ++ w ∧ i = u.length ∧ j = (u ++ v).length ∧ r.Covers u v w := by
  obtain ⟨u, v, w, rfl, rfl, rfl⟩ :=
    Text.exists_append_append o.le (by simpa using o.stop_le)
  exact ⟨u, v, w, rfl, rfl, rfl, o.2⟩

end Occurs

theorem Covers.occurs {u v w : Text} (hc : r.Covers u v w) :
    r.Occurs (u ++ v ++ w).toArray u.length (u ++ v).length :=
  ⟨by simp, hc⟩

theorem Occurs.lt (o : r.Occurs t.toArray i j) (hne : ∀ {u v w}, r.Covers u v w → v ≠ []) :
    i < j := by
  obtain ⟨u, v, w, -, rfl, rfl, hc⟩ := o.exists_covers
  simpa using List.length_pos_iff.mpr (hne hc)

theorem Compiled.isMatch_iff_occurs {p : Compiled} :
    p.isMatch t = true ↔ ∃ i j, p.regex.Occurs t.toArray i j := by
  simp [Compiled.isMatch_iff, Occurs]

inductive Ascends (n : Nat) : Nat → List Found → Prop
  | nil {i : Nat} : Ascends n i []
  | cons {i : Nat} {m : Found} {ms : List Found} :
    i ≤ m.start → m.start ≤ m.stop → m.stop ≤ n → Ascends n m.stop ms → Ascends n i (m :: ms)

namespace Ascends

theorem weaken (h : Ascends n j ms) (hij : i ≤ j) : Ascends n i ms := by
  cases h with
  | nil => exact .nil
  | cons hstart hle hstop hrest => exact .cons (Nat.le_trans hij hstart) hle hstop hrest

theorem filter (h : Ascends n i ms) (f : Found → Bool) : Ascends n i (ms.filter f) := by
  induction h with
  | nil => exact .nil
  | @cons i m ms hstart hle hstop _ ih =>
    rw [List.filter_cons]
    split
    · exact .cons hstart hle hstop ih
    · exact ih.weaken (Nat.le_trans hstart hle)

end Ascends

namespace Program

-- The match that the search takes from place `i` on, if the one before it stops at `last`.
def next? (p : Program) (h : Array Char) (i : Nat) (last : Option Nat) : Option Found :=
  match p.find? h i with
  | none   => none
  | some m => if m.isEmpty && last == some m.stop then p.find? h (i + 1) else some m

theorem findAll_go_succ {p : Program} : findAll.go p h (fuel + 1) i last =
    match p.next? h i last with
    | none   => []
    | some m => m :: findAll.go p h fuel m.stop (some m.stop) := by
  rw [findAll.go, next?]
  cases p.find? h i with
  | none => rfl
  | some m =>
    dsimp only
    split
    · rfl
    · rfl

theorem occurs_of_find? (hm : (ofRegex r).find? h i = some m) :
    i ≤ m.start ∧ r.Occurs h m.start m.stop :=
  have ⟨hi, hsize, hmatches, _⟩ := find?_eq_some hm
  ⟨hi, hsize, hmatches⟩

theorem occurs_of_next? (hm : (ofRegex r).next? h i last = some m) :
    i ≤ m.start ∧ r.Occurs h m.start m.stop := by
  unfold next? at hm
  split at hm
  case h_1 => exact nomatch hm
  case h_2 m' hm' =>
    split at hm
    case isTrue =>
      have ⟨hi, ho⟩ := occurs_of_find? hm
      exact ⟨Nat.le_of_succ_le hi, ho⟩
    case isFalse =>
      obtain rfl := Option.some.inj hm
      exact occurs_of_find? hm'

theorem ascends_findAll_go : Ascends h.size i (findAll.go (ofRegex r) h fuel i last) := by
  induction fuel generalizing i last with
  | zero => exact .nil
  | succ fuel ih =>
    rw [findAll_go_succ]
    split
    case h_1 => exact .nil
    case h_2 m hm =>
      have ⟨hi, ho⟩ := occurs_of_next? hm
      exact .cons hi ho.le ho.stop_le ih

theorem occurs_of_mem_findAll_go (hm : m ∈ findAll.go (ofRegex r) h fuel i last) :
    r.Occurs h m.start m.stop := by
  induction fuel generalizing i last with
  | zero => exact nomatch hm
  | succ fuel ih =>
    rw [findAll_go_succ] at hm
    split at hm
    case h_1 => exact nomatch hm
    case h_2 m' hm' =>
      cases hm with
      | head => exact (occurs_of_next? hm').2
      | tail _ hm => exact ih hm

end Program

-- No match of the expression in the text is empty, and no two of them overlap.
structure Separate (r : Regex) (h : Array Char) : Prop where
  pos   : ∀ {i j}, r.Occurs h i j → i < j
  apart : ∀ {i j k l}, r.Occurs h i j → r.Occurs h k l → i = k ∧ j = l ∨ j ≤ k ∨ l ≤ i

namespace Program

theorem next?_eq_find? (hs : Separate r h) :
    (ofRegex r).next? h i last = (ofRegex r).find? h i := by
  unfold next?
  split
  case h_1 hnone => exact hnone.symm
  case h_2 m hm =>
    have hpos := hs.pos (occurs_of_find? hm).2
    have hempty : m.isEmpty = false := by simpa [Found.isEmpty] using Nat.ne_of_lt hpos
    rw [hempty, hm]
    rfl

theorem mem_findAll_go (hs : Separate r h) (ho : r.Occurs h k l) (hi : i ≤ k)
    (hfuel : h.size ≤ fuel + i) : ⟨k, l⟩ ∈ findAll.go (ofRegex r) h fuel i last := by
  have hpos := hs.pos ho
  induction fuel generalizing i last with
  | zero =>
    have := ho.stop_le
    omega
  | succ fuel ih =>
    rw [findAll_go_succ, next?_eq_find? hs]
    cases hm : (ofRegex r).find? h i with
    | none => exact absurd ho.2 (find?_eq_none.mp hm k hi ho.1 l)
    | some m =>
      have ⟨him, hsize, hmatches, hfirst⟩ := find?_eq_some hm
      have hmpos := hs.pos ⟨hsize, hmatches⟩
      -- The match found is this one, or it stops before this one starts. The third way to be apart
      -- is out, for the match found is the first.
      have hle : m.start ≤ k := Nat.le_of_not_lt fun hlt => hfirst k hi hlt l ho.2
      obtain ⟨rfl, rfl⟩ | hstop | hstart := hs.apart ⟨hsize, hmatches⟩ ho
      · exact .head _
      · exact .tail _ (ih hstop (by omega))
      · omega

end Program

namespace Compiled

variable {p : Compiled}

theorem ascends_findAll : Ascends t.length 0 (p.findAll t) := by
  have hsize : t.toArray.size = t.length := by simp
  rw [findAll, p.built, ← hsize]
  exact Program.ascends_findAll_go

theorem occurs_of_mem_findAll (hm : m ∈ p.findAll t) : p.regex.Occurs t.toArray m.start m.stop := by
  rw [findAll, p.built] at hm
  exact Program.occurs_of_mem_findAll_go hm

theorem findAll_ne_nil (h : p.isMatch t = true) : p.findAll t ≠ [] := by
  rw [isMatch, p.built, ← Program.find?_isSome] at h
  obtain ⟨m, hm⟩ := Option.isSome_iff_exists.mp h
  have hnext : (Program.ofRegex p.regex).next? t.toArray 0 none = some m := by
    simp [Program.next?, hm]
  rw [findAll, p.built, Program.findAll, Program.findAll_go_succ, hnext]
  exact List.cons_ne_nil _ _

theorem mem_findAll_iff (hs : Separate p.regex t.toArray) :
    m ∈ p.findAll t ↔ p.regex.Occurs t.toArray m.start m.stop := by
  constructor
  case mp => exact occurs_of_mem_findAll
  case mpr =>
    intro ho
    rw [findAll, p.built]
    exact Program.mem_findAll_go hs ho (Nat.zero_le _) (Nat.le_add_right _ 2)

theorem any_findAll_iff (hs : Separate p.regex t.toArray) {f : Found → Bool} :
    (p.findAll t).any f = true ↔ ∃ i j, p.regex.Occurs t.toArray i j ∧ f ⟨i, j⟩ = true := by
  rw [List.any_eq_true]
  constructor
  case mp => exact fun ⟨m, hm, hf⟩ => ⟨m.start, m.stop, occurs_of_mem_findAll hm, hf⟩
  case mpr => exact fun ⟨i, j, ho, hf⟩ => ⟨⟨i, j⟩, (mem_findAll_iff hs).mpr ho, hf⟩

end Compiled
end ExcerptSearch.Regex
