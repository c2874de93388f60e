namespace ExcerptSearch.Unicode

structure Span (α : Type) where
  lo  : Nat
  hi  : Nat
  val : α

inductive SpanTree (α : Type) where
  | leaf
  | node (left : SpanTree α) (span : Span α) (right : SpanTree α)

namespace SpanTree

variable {α : Type}

def find? (k : Nat) : SpanTree α → Option (Span α)
  | leaf => none
  | node left span right =>
    if k < span.lo then left.find? k
    else if span.hi < k then right.find? k
    else some span

-- A tree of at most the given depth over the first spans of a list, and the spans left over.
def build : Nat → List (Span α) → SpanTree α × List (Span α)
  | 0, spans => (leaf, spans)
  | depth + 1, spans =>
    match build depth spans with
    | (left, [])           => (left, [])
    | (left, span :: rest) =>
      let (right, rest) := build depth rest
      (node left span right, rest)

def ofList (spans : List (Span α)) : SpanTree α :=
  (build (spans.length.log2 + 1) spans).1

def toList : SpanTree α → List (Span α)
  | leaf => []
  | node left span right => left.toList ++ span :: right.toList

theorem mem_of_find? {k : Nat} {s : Span α} {t : SpanTree α} (h : t.find? k = some s) :
    s ∈ t.toList ∧ s.lo ≤ k ∧ k ≤ s.hi := by
  induction t with
  | leaf => simp [find?] at h
  | node left span right ihl ihr =>
    simp only [find?] at h
    split at h
    · have := ihl h
      simp [toList, this]
    · split at h
      · have := ihr h
        simp [toList, this]
      · obtain rfl := Option.some.inj h
        simp [toList]
        omega

theorem toList_build (depth : Nat) (spans : List (Span α)) :
    (build depth spans).1.toList ++ (build depth spans).2 = spans := by
  induction depth generalizing spans with
  | zero => simp [build, toList]
  | succ depth ih =>
    have h := ih spans
    simp only [build]
    split
    · simp_all
    · rename_i left span rest heq
      have h' := ih rest
      simp_all [toList]

theorem mem_of_find?_ofList {k : Nat} {s : Span α} {spans : List (Span α)}
    (h : (ofList spans).find? k = some s) : s ∈ spans ∧ s.lo ≤ k ∧ k ≤ s.hi := by
  have ⟨hm, hk⟩ := mem_of_find? h
  refine ⟨?_, hk⟩
  rw [← toList_build (spans.length.log2 + 1) spans]
  exact List.mem_append_left _ hm

end SpanTree

def runs (ends : List (Nat × Nat)) : SpanTree Unit :=
  .ofList (ends.map fun (lo, hi) => ⟨lo, hi, ()⟩)

def SpanTree.has (t : SpanTree Unit) (c : Char) : Bool :=
  (t.find? c.toNat).isSome

-- The spans that begin at the given code points and end where the next one begins.
def spansFrom {α : Type} : List (Nat × α) → List (Span α)
  | []                          => []
  | [(lo, a)]                   => [⟨lo, 0x10ffff, a⟩]
  | (lo, a) :: (next, b) :: row => ⟨lo, next - 1, a⟩ :: spansFrom ((next, b) :: row)

def parts {α : Type} (starts : List (Nat × α)) : SpanTree α :=
  .ofList (spansFrom starts)

end ExcerptSearch.Unicode
