namespace ExcerptSearch.Regex

def mark (marks : Array Bool) (s : Nat) : Array Bool :=
  if h : s < marks.size then marks.set s true
  else (marks ++ Array.replicate (s - marks.size) false).push true

theorem getD_mark {marks : Array Bool} {s u : Nat} :
    (mark marks s).getD u false = true ↔ u = s ∨ marks.getD u false = true := by
  simp only [Array.getD_eq_getD_getElem?, mark]
  split
  · rw [Array.getElem?_set]
    by_cases hu : s = u
    · simp_all
    · simp [hu, Ne.symm hu]
  · rw [Array.getElem?_push, Array.getElem?_append, Array.getElem?_replicate]
    simp only [Array.size_append, Array.size_replicate]
    grind

structure Trail where
  -- The states, the latest first.
  states : List Nat
  marks  : Array Bool
  agree  : ∀ s, marks.getD s false = true ↔ s ∈ states

namespace Trail

def empty : Trail :=
  ⟨[], #[], by simp⟩

def contains (t : Trail) (s : Nat) : Bool :=
  t.marks.getD s false

def add (t : Trail) (s : Nat) : Trail :=
  if t.contains s then t
  else match t with
    | ⟨states, marks, agree⟩ => ⟨s :: states, mark marks s, fun u => by
        rw [getD_mark, agree, List.mem_cons]⟩

def toList (t : Trail) : List Nat :=
  t.states.reverse

instance : Membership Nat Trail :=
  ⟨fun t s => s ∈ t.states⟩

variable {t : Trail} {s u : Nat}

theorem contains_iff : t.contains s = true ↔ s ∈ t :=
  t.agree s

@[simp]
theorem not_mem_empty : s ∉ empty :=
  List.not_mem_nil

@[simp]
theorem mem_add : u ∈ t.add s ↔ u = s ∨ u ∈ t := by
  unfold add
  split
  · rename_i h
    exact ⟨.inr, fun h' => h'.elim (fun e => e ▸ contains_iff.mp h) id⟩
  · exact List.mem_cons

@[simp]
theorem mem_toList : s ∈ t.toList ↔ s ∈ t :=
  List.mem_reverse

end Trail

-- A walk from the pending states, the first of them first: notes a state and goes on with the
-- states behind it, or passes over it if it is already noted. Each state taken up costs one unit of
-- `fuel`.
def walk (next : Nat → List Nat) : Nat → List Nat → Trail → Trail
  | 0, _, t                   => t
  | _, [], t                  => t
  | fuel + 1, s :: pending, t =>
    if t.contains s then walk next fuel pending t
    else walk next fuel (next s ++ pending) (t.add s)

inductive Reaches (next : Nat → List Nat) : Nat → Nat → Prop
  | refl (s : Nat) : Reaches next s s
  | step {s u v : Nat} : u ∈ next s → Reaches next u v → Reaches next s v

def Trail.missing (t : Trail) (size : Nat) : Nat :=
  (List.range size).countP fun s => !t.contains s

theorem countP_lt {α : Type} {p q : α → Bool} {as : List α} (h : ∀ a, p a → q a) {a : α}
    (ha : a ∈ as) (hq : q a) (hp : ¬p a) : as.countP p < as.countP q := by
  induction as with
  | nil => simp at ha
  | cons b as ih =>
    have hle : as.countP p ≤ as.countP q := List.countP_mono_left fun a _ => h a
    simp only [List.countP_cons]
    rcases List.mem_cons.mp ha with rfl | ha
    · simp only [hp, hq]
      simp
      omega
    · have := ih ha
      have : (if p b = true then 1 else 0) ≤ if q b = true then 1 else 0 := by
        have := h b
        split <;> simp_all
      omega

theorem Trail.missing_add_lt {t : Trail} {s size : Nat} (hs : s < size) (h : s ∉ t) :
    (t.add s).missing size < t.missing size :=
  countP_lt (a := s) (by
      simp only [Bool.not_eq_true', ← Bool.not_eq_true, contains_iff, mem_add]
      exact fun u hu hm => hu (.inr hm))
    (List.mem_range.mpr hs)
    (by simpa only [Bool.not_eq_true', ← Bool.not_eq_true, contains_iff])
    (by simp [contains_iff])

theorem Trail.missing_add_le {t : Trail} {s size : Nat} :
    (t.add s).missing size ≤ t.missing size :=
  List.countP_mono_left fun u _ => by
    simp only [Bool.not_eq_true', ← Bool.not_eq_true, contains_iff, mem_add]
    exact fun hu hm => hu (.inr hm)

section Walk

variable {next : Nat → List Nat}

theorem mem_or_reaches_of_mem_walk {fuel : Nat} {pending : List Nat} {t : Trail} {s : Nat}
    (h : s ∈ walk next fuel pending t) : s ∈ t ∨ ∃ u ∈ pending, Reaches next u s := by
  induction fuel generalizing pending t with
  | zero => exact .inl h
  | succ fuel ih =>
    match pending with
    | [] => exact .inl h
    | u :: pending =>
      unfold walk at h
      split at h
      · exact (ih h).imp_right fun ⟨v, hv, hr⟩ => ⟨v, by simp [hv], hr⟩
      · rcases ih h with hs | ⟨v, hv, hr⟩
        · rcases Trail.mem_add.mp hs with rfl | hs
          · exact .inr ⟨s, by simp, .refl s⟩
          · exact .inl hs
        · rcases List.mem_append.mp hv with hv | hv
          · exact .inr ⟨u, by simp, .step hv hr⟩
          · exact .inr ⟨v, by simp [hv], hr⟩

-- With enough fuel a walk leaves no step open: it notes all pending states, and all states behind
-- those that it notes. From a state there are at most two steps, and none from `size` on.
theorem closed_walk {size : Nat} (htwo : ∀ s, (next s).length ≤ 2)
    (hsize : ∀ s, size ≤ s → next s = []) {fuel : Nat} {pending : List Nat} {t : Trail}
    (hfuel : pending.length + 2 * t.missing size ≤ fuel)
    (ht : ∀ s ∈ t, ∀ u ∈ next s, u ∈ t ∨ u ∈ pending) :
    (∀ s, s ∈ t ∨ s ∈ pending → s ∈ walk next fuel pending t) ∧
      ∀ s ∈ walk next fuel pending t, ∀ u ∈ next s, u ∈ walk next fuel pending t := by
  induction fuel generalizing pending t with
  | zero =>
    obtain rfl : pending = [] := List.length_eq_zero_iff.mp (by omega)
    simpa [walk] using ht
  | succ fuel ih =>
    match pending with
    | [] => simpa [walk] using ht
    | s :: pending =>
      simp only [List.length_cons] at hfuel
      unfold walk
      split
      · rename_i hs
        rw [Trail.contains_iff] at hs
        have h := ih (by omega) fun v hv u hu => (ht v hv u hu).elim .inl fun h =>
          (List.mem_cons.mp h).elim (fun h => .inl (h ▸ hs)) .inr
        exact ⟨fun u hu => h.1 u (hu.elim .inl fun hu =>
          (List.mem_cons.mp hu).elim (fun hu => .inl (hu ▸ hs)) .inr), h.2⟩
      · rename_i hs
        rw [Trail.contains_iff] at hs
        have h := @ih (next s ++ pending) (t.add s) (by
            rcases Nat.lt_or_ge s size with hlt | hge
            · have := htwo s
              have := Trail.missing_add_lt hlt hs
              simp only [List.length_append]
              omega
            · have : (t.add s).missing size ≤ t.missing size := Trail.missing_add_le
              simp only [hsize s hge, List.nil_append]
              omega)
          (fun v hv u hu => by
            simp only [Trail.mem_add, List.mem_append] at hv ⊢
            rcases hv with rfl | hv
            · exact .inr (.inl hu)
            · have := ht v hv u hu
              simp only [List.mem_cons] at this
              grind)
        refine ⟨fun u hu => h.1 u ?_, h.2⟩
        simp only [Trail.mem_add, List.mem_append, List.mem_cons] at hu ⊢
        grind

theorem missing_empty (size : Nat) : Trail.empty.missing size ≤ size := by
  have := List.countP_le_length (p := fun s => !Trail.empty.contains s) (l := List.range size)
  simpa [Trail.missing] using this

theorem mem_walk {size : Nat} (htwo : ∀ s, (next s).length ≤ 2)
    (hsize : ∀ s, size ≤ s → next s = []) {fuel : Nat} {pending : List Nat}
    (hfuel : pending.length + 2 * size ≤ fuel) {s : Nat} :
    s ∈ walk next fuel pending .empty ↔ ∃ u ∈ pending, Reaches next u s := by
  constructor
  · intro h
    exact (mem_or_reaches_of_mem_walk h).resolve_left Trail.not_mem_empty
  · rintro ⟨u, hu, hr⟩
    have h := @closed_walk _ _ htwo hsize fuel pending .empty
      (by have := missing_empty size; omega) fun s hs => absurd hs Trail.not_mem_empty
    replace hu := h.1 u (.inr hu)
    induction hr with
    | refl => exact hu
    | step hv _ ih => exact ih (h.2 _ hu _ hv)

end Walk
end ExcerptSearch.Regex
