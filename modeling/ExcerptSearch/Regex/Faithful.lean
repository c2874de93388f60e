import ExcerptSearch.Regex.Matches
import ExcerptSearch.Regex.Program

namespace ExcerptSearch.Regex

namespace Program

variable {p : Program} {h : Array Char}

def Holds (p : Program) : Nat → List Op → Prop
  | _, []      => True
  | a, o :: os => p.ops[a]? = some o ∧ p.Holds (a + 1) os

theorem holds_append {a : Nat} {os us : List Op} :
    p.Holds a (os ++ us) ↔ p.Holds a os ∧ p.Holds (a + os.length) us := by
  induction os generalizing a with
  | nil => simp [Holds]
  | cons o os ih =>
    simp only [List.cons_append, Holds, ih, List.length_cons, and_assoc]
    rw [show a + 1 + os.length = a + (os.length + 1) by omega]

theorem holds_toArray {pre os : List Op} :
    (Program.mk (pre ++ os).toArray).Holds pre.length os := by
  induction os generalizing pre with
  | nil => trivial
  | cons o os ih =>
    refine ⟨by simp, ?_⟩
    simpa using @ih (pre ++ [o])

def Leads (p : Program) (h : Array Char) (a i b j : Nat) : Prop :=
  ∃ n, p.Run h n a i b j

theorem Leads.trans {a i b j c k : Nat} (h₁ : p.Leads h a i b j) (h₂ : p.Leads h b j c k) :
    p.Leads h a i c k := by
  obtain ⟨n, h₁⟩ := h₁
  induction h₁ with
  | zero => exact h₂
  | silent hs _ ih =>
    obtain ⟨m, hm⟩ := ih h₂
    exact ⟨m + 1, .silent hs hm⟩
  | taken ht _ ih =>
    obtain ⟨m, hm⟩ := ih h₂
    exact ⟨m + 1, .taken ht hm⟩

theorem leads_of_silent {a i b : Nat} (hs : b ∈ p.silent h i a) : p.Leads h a i b i :=
  ⟨1, .silent hs (.zero b i)⟩

theorem Run.cases_of_op {n a i c k : Nat} {o : Op} (hr : p.Run h n a i c k)
    (ho : p.ops[a]? = some o) (hc : p.ops[c]? = none) :
    ∃ m b, n = m + 1 ∧ (b ∈ p.silent h i a ∧ p.Run h m b i c k ∨
      p.taken? h i a = some b ∧ p.Run h m b (i + 1) c k) := by
  cases hr with
  | zero => simp [ho] at hc
  | silent hs hr => exact ⟨_, _, rfl, .inl ⟨hs, hr⟩⟩
  | taken ht hr => exact ⟨_, _, rfl, .inr ⟨ht, hr⟩⟩

theorem mem_silent_more {greedy : Bool} {i a b copy out : Nat}
    (ho : p.ops[a]? = some (.more greedy copy out)) :
    b ∈ p.silent h i a ↔ b = copy ∨ b = out := by
  cases greedy <;> simp [silent, ho, Op.more, or_comm]

theorem taken?_more {greedy : Bool} {i a copy out : Nat}
    (ho : p.ops[a]? = some (.more greedy copy out)) : p.taken? h i a = none := by
  cases greedy <;> simp [taken?, ho, Op.more]

end Program

open Program

variable {p : Program} {h : Array Char}

-- What it means that some code, which can stand at any address, reads what a relation says. The run
-- that is left behind the code is not longer than the whole.
structure Reads (p : Program) (h : Array Char) (f : Nat → Nat → List Op)
    (R : Nat → Nat → Prop) : Prop where
  sound : ∀ {start out n i c k : Nat}, p.Holds start (f start out) → p.ops[c]? = none →
    p.Run h n start i c k → ∃ j m, m ≤ n ∧ R i j ∧ p.Run h m out j c k
  complete : ∀ {start out i j : Nat}, p.Holds start (f start out) → R i j →
    p.Leads h start i out j

variable {f : Nat → Nat → List Op} {R : Nat → Nat → Prop} {size : Nat} {greedy : Bool}

theorem length_copiesCode (hf : ∀ start out, (f start out).length = size) {n start : Nat} :
    (copiesCode f size n start).length = n * size := by
  induction n generalizing start with
  | zero => simp [copiesCode]
  | succ n ih =>
    rw [Nat.succ_mul]
    simp [copiesCode, ih, hf]
    omega

theorem length_upToCode (hf : ∀ start out, (f start out).length = size) {out n start : Nat} :
    (upToCode f size greedy out n start).length = n * (1 + size) := by
  induction n generalizing start with
  | zero => simp [upToCode]
  | succ n ih =>
    rw [Nat.succ_mul]
    simp [upToCode, ih, hf]
    omega

namespace Reads

theorem sound_copies (hr : Reads p h f R) (hf : ∀ start out, (f start out).length = size)
    {n start m i c k : Nat} (hp : p.Holds start (copiesCode f size n start))
    (hc : p.ops[c]? = none) (hm : p.Run h m start i c k) :
    ∃ j m', m' ≤ m ∧ Steps R n i j ∧ p.Run h m' (start + n * size) j c k := by
  induction n generalizing start m i with
  | zero => exact ⟨i, m, Nat.le_refl m, .zero i, by simpa using hm⟩
  | succ n ih =>
    obtain ⟨hp₁, hp₂⟩ := holds_append.mp hp
    rw [hf] at hp₂
    obtain ⟨j, m₁, hle₁, hj, hm₁⟩ := hr.sound hp₁ hc hm
    obtain ⟨l, m₂, hle₂, hl, hm₂⟩ := ih hp₂ hm₁
    refine ⟨l, m₂, by omega, .succ hj hl, ?_⟩
    rwa [Nat.succ_mul, Nat.add_comm (n * size), ← Nat.add_assoc]

theorem leads_copies (hr : Reads p h f R) (hf : ∀ start out, (f start out).length = size)
    {n start i j : Nat} (hp : p.Holds start (copiesCode f size n start)) (hs : Steps R n i j) :
    p.Leads h start i (start + n * size) j := by
  induction n generalizing start i with
  | zero =>
    obtain rfl := steps_zero.mp hs
    exact ⟨0, by simpa using .zero start i⟩
  | succ n ih =>
    obtain ⟨hp₁, hp₂⟩ := holds_append.mp hp
    rw [hf] at hp₂
    cases hs with
    | succ hj hs =>
      have := (hr.complete hp₁ hj).trans (ih hp₂ hs)
      rwa [Nat.succ_mul, Nat.add_comm (n * size), ← Nat.add_assoc]

theorem sound_upTo (hr : Reads p h f R) (hf : ∀ start out, (f start out).length = size)
    {n start out m i c k : Nat} (hp : p.Holds start (upToCode f size greedy out n start))
    (hout : out = start + n * (1 + size)) (hc : p.ops[c]? = none) (hm : p.Run h m start i c k) :
    ∃ j m', m' ≤ m ∧ (∃ l ≤ n, Steps R l i j) ∧ p.Run h m' out j c k := by
  induction n generalizing start m i with
  | zero =>
    obtain rfl : out = start := by simpa using hout
    exact ⟨i, m, Nat.le_refl m, ⟨0, Nat.le_refl 0, .zero i⟩, hm⟩
  | succ n ih =>
    rw [Nat.succ_mul] at hout
    obtain ⟨ho, hp⟩ := hp
    obtain ⟨hp₁, hp₂⟩ := holds_append.mp hp
    rw [hf] at hp₂
    obtain ⟨m, b, rfl, ⟨hb, hm⟩ | ⟨hb, -⟩⟩ := hm.cases_of_op ho hc
    · rcases (mem_silent_more ho).mp hb with rfl | rfl
      · obtain ⟨j, m₁, hle₁, hj, hm₁⟩ := hr.sound hp₁ hc hm
        obtain ⟨l, m₂, hle₂, ⟨n', hn, hl⟩, hm₂⟩ := ih hp₂ (by omega) hm₁
        exact ⟨l, m₂, by omega, ⟨n' + 1, by omega, .succ hj hl⟩, hm₂⟩
      · exact ⟨i, m, by omega, ⟨0, by omega, .zero i⟩, hm⟩
    · simp [taken?_more ho] at hb

theorem leads_upTo (hr : Reads p h f R) (hf : ∀ start out, (f start out).length = size)
    {n start out l i j : Nat} (hp : p.Holds start (upToCode f size greedy out n start))
    (hout : out = start + n * (1 + size)) (hl : l ≤ n) (hs : Steps R l i j) :
    p.Leads h start i out j := by
  induction n generalizing start l i with
  | zero =>
    obtain rfl : l = 0 := by omega
    obtain rfl := steps_zero.mp hs
    obtain rfl : out = start := by simpa using hout
    exact ⟨0, .zero _ i⟩
  | succ n ih =>
    rw [Nat.succ_mul] at hout
    obtain ⟨ho, hp⟩ := hp
    obtain ⟨hp₁, hp₂⟩ := holds_append.mp hp
    rw [hf] at hp₂
    cases hs with
    | zero => exact leads_of_silent ((mem_silent_more ho).mpr (.inr rfl))
    | succ hj hs =>
      exact (leads_of_silent ((mem_silent_more ho).mpr (.inl rfl))).trans
        ((hr.complete hp₁ hj).trans (ih hp₂ (by omega) (by omega) hs))

theorem oneOrMore (hr : Reads p h f R) (hf : ∀ start out, (f start out).length = size) :
    Reads p h (oneOrMoreCode f size greedy) fun i j => ∃ n, Steps R (n + 1) i j where
  sound {start out n i c k} hp hc hn := by
    obtain ⟨hp₁, hp₂⟩ := holds_append.mp hp
    rw [hf] at hp₂
    have ho := hp₂.1
    induction n using Nat.strongRecOn generalizing i with
    | ind n ih =>
      obtain ⟨j, m, hle, hj, hm⟩ := hr.sound hp₁ hc hn
      obtain ⟨m₁, b, rfl, ⟨hb, hm₁⟩ | ⟨hb, -⟩⟩ := hm.cases_of_op ho hc
      · rcases (mem_silent_more ho).mp hb with rfl | rfl
        · obtain ⟨l, m₂, hle₂, ⟨n', hl⟩, hm₂⟩ := ih m₁ (by omega) hm₁
          exact ⟨l, m₂, by omega, ⟨n' + 1, .succ hj hl⟩, hm₂⟩
        · exact ⟨j, m₁, by omega, ⟨0, .succ hj (.zero j)⟩, hm₁⟩
      · simp [taken?_more ho] at hb
  complete {start out i j} hp := by
    obtain ⟨hp₁, hp₂⟩ := holds_append.mp hp
    rw [hf] at hp₂
    have ho := hp₂.1
    rintro ⟨n, hs⟩
    induction n generalizing i with
    | zero =>
      obtain ⟨l, hl, hs⟩ := steps_succ.mp hs
      obtain rfl := steps_zero.mp hs
      exact (hr.complete hp₁ hl).trans (leads_of_silent ((mem_silent_more ho).mpr (.inr rfl)))
    | succ n ih =>
      obtain ⟨l, hl, hs⟩ := steps_succ.mp hs
      exact (hr.complete hp₁ hl).trans
        ((leads_of_silent ((mem_silent_more ho).mpr (.inl rfl))).trans (ih hs))

theorem zeroOrMore (hr : Reads p h f R) :
    Reads p h (zeroOrMoreCode f greedy) fun i j => ∃ n, Steps R n i j where
  sound {start out n i c k} hp hc hn := by
    obtain ⟨ho, hp⟩ := hp
    induction n using Nat.strongRecOn generalizing i with
    | ind n ih =>
      obtain ⟨m, b, rfl, ⟨hb, hm⟩ | ⟨hb, -⟩⟩ := hn.cases_of_op ho hc
      · rcases (mem_silent_more ho).mp hb with rfl | rfl
        · obtain ⟨j, m₁, hle₁, hj, hm₁⟩ := hr.sound hp hc hm
          obtain ⟨l, m₂, hle₂, ⟨n', hl⟩, hm₂⟩ := ih m₁ (by omega) hm₁
          exact ⟨l, m₂, by omega, ⟨n' + 1, .succ hj hl⟩, hm₂⟩
        · exact ⟨i, m, by omega, ⟨0, .zero i⟩, hm⟩
      · simp [taken?_more ho] at hb
  complete {start out i j} hp := by
    obtain ⟨ho, hp⟩ := hp
    rintro ⟨n, hs⟩
    induction hs with
    | zero => exact leads_of_silent ((mem_silent_more ho).mpr (.inr rfl))
    | succ hj _ ih =>
      exact (leads_of_silent ((mem_silent_more ho).mpr (.inl rfl))).trans
        ((hr.complete hp hj).trans ih)

end Reads

theorem length_code (r : Regex) : ∀ start out, (r.code start out).length = r.codeSize := by
  induction r with
  | empty => simp [code, codeSize]
  | set => simp [code, codeSize]
  | look => simp [code, codeSize]
  | group _ r ih => simpa [code, codeSize] using ih
  | cat r s ihr ihs => simp [code, codeSize, ihr, ihs]
  | alt r s ihr ihs => simp [code, codeSize, ihr, ihs]; omega
  | rep r m extra greedy ih =>
    intro start out
    match extra, m with
    | some n, m => simp [code, codeSize, length_copiesCode ih, length_upToCode ih]
    | none, 0 =>
      simp only [code, codeSize]
      split
      · simp [oneOrMoreCode, ih]; omega
      · simp [zeroOrMoreCode, ih]; omega
    | none, m + 1 => simp [code, codeSize, length_copiesCode ih, oneOrMoreCode, ih]

namespace Reads

theorem empty : Reads p h (code .empty) (Matches h .empty) where
  sound {start out n i c k} hp hc hn := by
    obtain ⟨m, b, rfl, ⟨hb, hm⟩ | ⟨hb, -⟩⟩ := hn.cases_of_op hp.1 hc
    · obtain rfl : b = out := by simpa [silent, hp.1] using hb
      exact ⟨i, m, by omega, rfl, hm⟩
    · simp [taken?, hp.1] at hb
  complete {start out i j} hp hm := by
    obtain rfl : i = j := hm
    exact leads_of_silent (by simp [silent, hp.1])

theorem set (s : CharSet) : Reads p h (code (.set s)) (Matches h (.set s)) where
  sound {start out n i c k} hp hc hn := by
    obtain ⟨m, b, rfl, ⟨hb, -⟩ | ⟨hb, hm⟩⟩ := hn.cases_of_op hp.1 hc
    · simp [silent, hp.1] at hb
    · simp only [taken?, hp.1, Option.ite_none_right_eq_some, Option.some.injEq] at hb
      obtain ⟨hs, rfl⟩ := hb
      exact ⟨i + 1, m, by omega, ⟨hs, rfl⟩, hm⟩
  complete {start out i j} hp hm := by
    obtain ⟨hs, rfl⟩ := hm
    exact ⟨1, .taken (b := out) (by simp only [taken?, hp.1, hs, if_true]) (.zero out _)⟩

theorem look (l : Look) : Reads p h (code (.look l)) (Matches h (.look l)) where
  sound {start out n i c k} hp hc hn := by
    obtain ⟨m, b, rfl, ⟨hb, hm⟩ | ⟨hb, -⟩⟩ := hn.cases_of_op hp.1 hc
    · simp only [silent, hp.1] at hb
      split at hb
      · rename_i hl
        obtain rfl := List.mem_singleton.mp hb
        exact ⟨i, m, by omega, ⟨hl, rfl⟩, hm⟩
      · simp at hb
    · simp [taken?, hp.1] at hb
  complete {start out i j} hp hm := by
    obtain ⟨hl, rfl⟩ := hm
    exact leads_of_silent (by simp [silent, hp.1, hl])

theorem cat {r s : Regex} (hr : Reads p h r.code (r.Matches h))
    (hs : Reads p h s.code (s.Matches h)) :
    Reads p h (r.cat s).code ((r.cat s).Matches h) where
  sound {start out n i c k} hp hc hn := by
    obtain ⟨hp₁, hp₂⟩ := holds_append.mp hp
    rw [length_code] at hp₂
    obtain ⟨j, m₁, hle₁, hj, hm₁⟩ := hr.sound hp₁ hc hn
    obtain ⟨l, m₂, hle₂, hl, hm₂⟩ := hs.sound hp₂ hc hm₁
    exact ⟨l, m₂, by omega, ⟨j, hj, hl⟩, hm₂⟩
  complete {start out i j} hp hm := by
    obtain ⟨hp₁, hp₂⟩ := holds_append.mp hp
    rw [length_code] at hp₂
    obtain ⟨l, hl, hj⟩ := hm
    exact (hr.complete hp₁ hl).trans (hs.complete hp₂ hj)

theorem alt {r s : Regex} (hr : Reads p h r.code (r.Matches h))
    (hs : Reads p h s.code (s.Matches h)) :
    Reads p h (r.alt s).code ((r.alt s).Matches h) where
  sound {start out n i c k} hp hc hn := by
    obtain ⟨ho, hp⟩ := hp
    obtain ⟨hp₁, hp₂⟩ := holds_append.mp hp
    rw [length_code] at hp₂
    obtain ⟨m, b, rfl, ⟨hb, hm⟩ | ⟨hb, -⟩⟩ := hn.cases_of_op ho hc
    · simp only [silent, ho, List.mem_cons, List.not_mem_nil, or_false] at hb
      rcases hb with rfl | rfl
      · obtain ⟨j, m', hle, hj, hm'⟩ := hr.sound hp₁ hc hm
        exact ⟨j, m', by omega, .inl hj, hm'⟩
      · obtain ⟨j, m', hle, hj, hm'⟩ := hs.sound hp₂ hc hm
        exact ⟨j, m', by omega, .inr hj, hm'⟩
    · simp [taken?, ho] at hb
  complete {start out i j} hp hm := by
    obtain ⟨ho, hp⟩ := hp
    obtain ⟨hp₁, hp₂⟩ := holds_append.mp hp
    rw [length_code] at hp₂
    rcases hm with hj | hj
    · exact (leads_of_silent (by simp [silent, ho])).trans (hr.complete hp₁ hj)
    · exact (leads_of_silent (by simp [silent, ho])).trans (hs.complete hp₂ hj)

theorem bounded {r : Regex} (hr : Reads p h r.code (r.Matches h)) (m n : Nat) (greedy : Bool) :
    Reads p h (rep r m (some n) greedy).code ((rep r m (some n) greedy).Matches h) where
  sound {start out n' i c k} hp hc hn := by
    have hlen := length_code r
    simp only [code] at hp
    obtain ⟨hp₁, hp⟩ := holds_append.mp hp
    rw [length_copiesCode hlen] at hp
    obtain ⟨hp₂, hp₃⟩ := holds_append.mp hp
    rw [length_upToCode hlen] at hp₃
    obtain ⟨j, m₁, hle₁, hj, hm₁⟩ := hr.sound_copies hlen hp₁ hc hn
    obtain ⟨l, m₂, hle₂, ⟨n', hn', hl⟩, hm₂⟩ := hr.sound_upTo hlen hp₂ rfl hc hm₁
    obtain ⟨m₃, b, rfl, ⟨hb, hm⟩ | ⟨hb, -⟩⟩ := hm₂.cases_of_op hp₃.1 hc
    · obtain rfl : b = out := by simpa [silent, hp₃.1] using hb
      exact ⟨l, m₃, by omega, ⟨m + n', by omega, by simp; omega, hj.append hl⟩, hm⟩
    · simp [taken?, hp₃.1] at hb
  complete {start out i j} hp hm := by
    have hlen := length_code r
    simp only [code] at hp
    obtain ⟨hp₁, hp⟩ := holds_append.mp hp
    rw [length_copiesCode hlen] at hp
    obtain ⟨hp₂, hp₃⟩ := holds_append.mp hp
    rw [length_upToCode hlen] at hp₃
    obtain ⟨l, hmin, hmax, hs⟩ := hm
    obtain ⟨l, rfl⟩ := Nat.exists_eq_add_of_le hmin
    obtain ⟨j', h₁, h₂⟩ := hs.split
    have := hmax n rfl
    exact (hr.leads_copies hlen hp₁ h₁).trans
      ((hr.leads_upTo hlen hp₂ rfl (by omega) h₂).trans
        (leads_of_silent (by simp [silent, hp₃.1])))

theorem unboundedOfEmpty {r : Regex} (hr : Reads p h r.code (r.Matches h)) (greedy : Bool)
    (hsize : r.minSize = 0) :
    Reads p h (rep r 0 none greedy).code ((rep r 0 none greedy).Matches h) where
  sound {start out n i c k} hp hc hn := by
    have hone := @oneOrMore _ _ _ _ _ greedy hr (length_code r)
    simp only [code, hsize, if_true] at hp
    obtain ⟨ho, hp⟩ := hp
    obtain ⟨m, b, rfl, ⟨hb, hm⟩ | ⟨hb, -⟩⟩ := hn.cases_of_op ho hc
    · rcases (mem_silent_more ho).mp hb with rfl | rfl
      · obtain ⟨j, m', hle, ⟨n, hj⟩, hm'⟩ := hone.sound hp hc hm
        exact ⟨j, m', by omega, ⟨n + 1, by omega, by simp, hj⟩, hm'⟩
      · exact ⟨i, m, by omega, ⟨0, by omega, by simp, .zero i⟩, hm⟩
    · simp [taken?_more ho] at hb
  complete {start out i j} hp hm := by
    have hone := @oneOrMore _ _ _ _ _ greedy hr (length_code r)
    simp only [code, hsize, if_true] at hp
    obtain ⟨ho, hp⟩ := hp
    obtain ⟨n, -, -, hs⟩ := hm
    cases n with
    | zero =>
      obtain rfl := steps_zero.mp hs
      exact leads_of_silent ((mem_silent_more ho).mpr (.inr rfl))
    | succ n =>
      exact (leads_of_silent ((mem_silent_more ho).mpr (.inl rfl))).trans
        (hone.complete hp ⟨n, hs⟩)

theorem unboundedOfNonempty {r : Regex} (hr : Reads p h r.code (r.Matches h)) (greedy : Bool)
    (hsize : r.minSize ≠ 0) :
    Reads p h (rep r 0 none greedy).code ((rep r 0 none greedy).Matches h) := by
  have hcode : (rep r 0 none greedy).code = zeroOrMoreCode r.code greedy := by
    funext start out
    simp [code, hsize]
  have hmany : (rep r 0 none greedy).Matches h = fun i j => ∃ n, Steps (r.Matches h) n i j := by
    funext i j
    simp [Matches]
  rw [hcode, hmany]
  exact hr.zeroOrMore

theorem unboundedSucc {r : Regex} (hr : Reads p h r.code (r.Matches h)) (m : Nat) (greedy : Bool) :
    Reads p h (rep r (m + 1) none greedy).code ((rep r (m + 1) none greedy).Matches h) where
  sound {start out n i c k} hp hc hn := by
    have hlen := length_code r
    have hone := @oneOrMore _ _ _ _ _ greedy hr hlen
    simp only [code] at hp
    obtain ⟨hp₁, hp₂⟩ := holds_append.mp hp
    rw [length_copiesCode hlen] at hp₂
    obtain ⟨j, m₁, hle₁, hj, hm₁⟩ := hr.sound_copies hlen hp₁ hc hn
    obtain ⟨l, m₂, hle₂, ⟨n', hl⟩, hm₂⟩ := hone.sound hp₂ hc hm₁
    exact ⟨l, m₂, by omega, ⟨m + (n' + 1), by omega, by simp, hj.append hl⟩, hm₂⟩
  complete {start out i j} hp hm := by
    have hlen := length_code r
    have hone := @oneOrMore _ _ _ _ _ greedy hr hlen
    simp only [code] at hp
    obtain ⟨hp₁, hp₂⟩ := holds_append.mp hp
    rw [length_copiesCode hlen] at hp₂
    obtain ⟨l, hmin, -, hs⟩ := hm
    obtain ⟨l, rfl⟩ := Nat.exists_eq_add_of_le hmin
    rw [show m + 1 + l = m + (l + 1) by omega] at hs
    obtain ⟨j', h₁, h₂⟩ := hs.split
    exact (hr.leads_copies hlen hp₁ h₁).trans (hone.complete hp₂ ⟨l, h₂⟩)

theorem rep {r : Regex} (hr : Reads p h r.code (r.Matches h)) (m : Nat) (extra : Option Nat)
    (greedy : Bool) : Reads p h (rep r m extra greedy).code ((rep r m extra greedy).Matches h) := by
  cases extra with
  | some n => exact hr.bounded m n greedy
  | none =>
    cases m with
    | zero =>
      by_cases hsize : r.minSize = 0
      · exact hr.unboundedOfEmpty greedy hsize
      · exact hr.unboundedOfNonempty greedy hsize
    | succ m => exact hr.unboundedSucc m greedy

end Reads

theorem reads_code (p : Program) (h : Array Char) (r : Regex) : Reads p h r.code (r.Matches h) := by
  induction r with
  | empty => exact .empty
  | set s => exact .set s
  | look l => exact .look l
  | group _ r ih => exact ⟨ih.sound, ih.complete⟩
  | cat r s ihr ihs => exact ihr.cat ihs
  | alt r s ihr ihs => exact ihr.alt ihs
  | rep r m extra greedy ih => exact ih.rep m extra greedy

namespace Program

theorem accept_ofRegex (r : Regex) : (ofRegex r).accept = r.codeSize := by
  simp [accept, ofRegex, length_code]

theorem leads_accept_iff {r : Regex} {i j : Nat} :
    (ofRegex r).Leads h 0 i (ofRegex r).accept j ↔ r.Matches h i j := by
  have hp : (ofRegex r).Holds 0 (r.code 0 (ofRegex r).accept) := by
    rw [accept_ofRegex]
    exact @holds_toArray [] _
  constructor
  · rintro ⟨n, hn⟩
    have hc : (ofRegex r).ops[(ofRegex r).accept]? = none := by simp [accept]
    obtain ⟨k, m, -, hk, hm⟩ := (reads_code _ h r).sound hp hc hn
    cases hm with
    | zero => exact hk
    | silent hs => simp [silent, hc] at hs
    | taken ht => simp [taken?, hc] at ht
  · exact (reads_code _ h r).complete hp

end Program
end ExcerptSearch.Regex
