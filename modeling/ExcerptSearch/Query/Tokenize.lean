import ExcerptSearch.Query.Token

namespace ExcerptSearch.Query

inductive Part where
  | opening (kind : GroupKind)
  | term (text : Text)

def Part.token (negated : Bool) : Part → Token
  | opening kind => .opening kind negated
  | term text    => .term negated text

def opening? : Text → Option (GroupKind × Text)
  | '(' :: rest        => some (.all, rest)
  | '&' :: '(' :: rest => some (.all, rest)
  | '|' :: '(' :: rest => some (.any, rest)
  | '~' :: '(' :: rest => some (.single, rest)
  | _                  => none

def quoted? (quote : Char) : Text → Option (Text × Text)
  | []      => none
  | c :: cs =>
    if c == quote then
      let rest := cs.dropWhile (· != quote)
      some (c :: cs.takeWhile (· != quote) ++ rest.take 1, rest.drop 1)
    else none

-- The characters that may not stand behind the first space of a field.
def fieldStops : Text :=
  [']', '[', '{', '}', '<', '>', '^', '#', '&', '@', '(', ')']

def enclosed? (opener closer : Char) : Text → Option (Text × Text)
  | []      => none
  | c :: cs =>
    let content := cs.takeWhile (· != closer)
    let rest    := cs.dropWhile (· != closer)
    if c != opener || rest.isEmpty then none
    else if (content.dropWhile (· != ' ')).any fieldStops.contains then none
    else some (c :: content ++ rest.take 1, rest.drop 1)

def tagField? (t : Text) : Option (Text × Text) := do
  let (field, rest) ← enclosed? '[' ']' (t.dropWhile (· == '/'))
  let (plus, rest) := match rest with
    | '+' :: rest => (['+'], rest)
    | rest        => ([], rest)
  return (t.takeWhile (· == '/') ++ field ++ plus ++ rest.takeWhile (· == '/'),
    rest.dropWhile (· == '/'))

-- Does a plain term end before `c` if `next` follows it?
def endsPlain (c : Char) (next : Text) : Bool :=
  match c with
  | '(' | ')' | ' ' => true
  | '!'             => (opening? next).isSome
  | '&' | '|' | '~' => next.head? == some '('
  | _               => false

def plain : Text → Text × Text
  | []      => ([], [])
  | c :: cs =>
    if endsPlain c cs then ([], c :: cs)
    else
      let (run, rest) := plain cs
      (c :: run, rest)

def plain? (t : Text) : Option (Text × Text) :=
  let (run, rest) := plain t
  if run.isEmpty then none else some (run, rest)

def source? (t : Text) : Option (Text × Text) :=
  (quoted? '"' t).or <| (quoted? '`' t).or <| (enclosed? '{' '}' t).or <|
    (tagField? t).or (plain? t)

def part? (t : Text) : Option (Part × Text) :=
  match opening? t with
  | some (kind, rest) => some (.opening kind, rest)
  | none              => (source? t).map fun (source, rest) => (.term source.trim, rest)

-- The first token of a text that begins with `c`. A negation mark with nothing behind it to negate
-- is a term.
def first? (c : Char) (cs : Text) : Option (Token × Text) :=
  if c == ')' then some (.closing, cs)
  else match (if c == '!' then part? cs else none) with
    | some (p, rest) => some (p.token true, rest)
    | none           => (part? (c :: cs)).map fun (p, rest) => (p.token false, rest)

section Split

variable {t s rest : Text}

theorem takeWhile_append_take_drop (p : Char → Bool) (t : Text) :
    t.takeWhile p ++ (t.dropWhile p).take 1 ++ (t.dropWhile p).drop 1 = t := by
  rw [List.append_assoc, List.take_append_drop, List.takeWhile_append_dropWhile]

theorem eq_append_of_quoted? {q : Char} (h : quoted? q t = some (s, rest)) :
    t = s ++ rest ∧ s ≠ [] := by
  unfold quoted? at h
  split at h
  · simp at h
  · rename_i c cs
    split at h
    · simp only [Option.some.injEq, Prod.mk.injEq] at h
      obtain ⟨rfl, rfl⟩ := h
      exact ⟨by simp only [List.cons_append, takeWhile_append_take_drop], by simp⟩
    · simp at h

theorem eq_append_of_enclosed? {o q : Char} (h : enclosed? o q t = some (s, rest)) :
    t = s ++ rest ∧ s ≠ [] := by
  unfold enclosed? at h
  split at h
  · simp at h
  · rename_i c cs
    simp only at h
    split at h
    · simp at h
    · split at h
      · simp at h
      · simp only [Option.some.injEq, Prod.mk.injEq] at h
        obtain ⟨rfl, rfl⟩ := h
        exact ⟨by simp only [List.cons_append, takeWhile_append_take_drop], by simp⟩

theorem eq_append_of_tagField? (h : tagField? t = some (s, rest)) : t = s ++ rest ∧ s ≠ [] := by
  simp only [tagField?, Option.bind_eq_bind, Option.bind_eq_some_iff] at h
  obtain ⟨⟨field, tail⟩, hf, h⟩ := h
  obtain ⟨ht, hne⟩ := eq_append_of_enclosed? hf
  simp only [Option.pure_def, Option.some.injEq, Prod.mk.injEq] at h
  obtain ⟨rfl, rfl⟩ := h
  refine ⟨?_, by simp [hne]⟩
  have hs : ∀ u : Text, u.takeWhile (· == '/') ++ u.dropWhile (· == '/') = u :=
    fun u => List.takeWhile_append_dropWhile
  have ht : t = t.takeWhile (· == '/') ++ (field ++ tail) := by rw [← ht]; exact (hs t).symm
  rw [List.append_assoc, hs]
  split <;> simpa using ht

theorem eq_append_plain (t : Text) : t = (plain t).1 ++ (plain t).2 := by
  induction t with
  | nil => rfl
  | cons c cs ih =>
    simp only [plain]
    split
    · rfl
    · simpa using ih

theorem eq_append_of_plain? (h : plain? t = some (s, rest)) : t = s ++ rest ∧ s ≠ [] := by
  have ht := eq_append_plain t
  simp only [plain?] at h
  split at h
  · simp at h
  · rename_i hne
    simp only [Option.some.injEq, Prod.mk.injEq] at h
    obtain ⟨rfl, rfl⟩ := h
    exact ⟨ht, by simpa using hne⟩

theorem eq_append_of_source? (h : source? t = some (s, rest)) : t = s ++ rest ∧ s ≠ [] := by
  simp only [source?, Option.or_eq_some_iff] at h
  rcases h with h | ⟨-, h | ⟨-, h | ⟨-, h | ⟨-, h⟩⟩⟩⟩
  · exact eq_append_of_quoted? h
  · exact eq_append_of_quoted? h
  · exact eq_append_of_enclosed? h
  · exact eq_append_of_tagField? h
  · exact eq_append_of_plain? h

theorem length_of_opening? {k : GroupKind} (h : opening? t = some (k, rest)) :
    rest.length < t.length := by
  unfold opening? at h
  split at h
  case h_5 => simp at h
  all_goals
    obtain ⟨-, rfl⟩ := Prod.mk.inj (Option.some.inj h)
    simp only [List.length_cons]
    omega

theorem length_of_part? {p : Part} (h : part? t = some (p, rest)) : rest.length < t.length := by
  unfold part? at h
  split at h
  · rename_i k r hk
    simp only [Option.some.injEq, Prod.mk.injEq] at h
    exact h.2 ▸ length_of_opening? hk
  · simp only [Option.map_eq_some_iff, Prod.mk.injEq] at h
    obtain ⟨⟨s, r⟩, hs, -, rfl⟩ := h
    obtain ⟨rfl, hne⟩ := eq_append_of_source? hs
    have := List.length_pos_iff.mpr hne
    simp only [List.length_append]
    omega

theorem length_of_first? {c : Char} {cs : Text} {k : Token}
    (h : first? c cs = some (k, rest)) : rest.length < (c :: cs).length := by
  unfold first? at h
  split at h
  · simp_all
  · split at h
    · rename_i p r hp
      simp only [Option.some.injEq, Prod.mk.injEq] at h
      split at hp
      · have := length_of_part? hp
        simp only [List.length_cons, ← h.2]
        omega
      · simp at hp
    · simp only [Option.map_eq_some_iff, Prod.mk.injEq] at h
      obtain ⟨⟨p, r⟩, hp, -, rfl⟩ := h
      exact length_of_part? hp

theorem length_trimStart_le (t : Text) : t.trimStart.length ≤ t.length :=
  (List.dropWhile_suffix _).length_le

end Split

def tokenize (query : Text) : List Token :=
  match _h : query.trimStart with
  | []      => []
  | c :: cs =>
    match _h' : first? c cs with
    | some (token, rest) => token :: tokenize rest
    | none               => tokenize cs
termination_by query.length
decreasing_by
  all_goals
    have hl := length_trimStart_le query
    rw [_h] at hl
  · exact Nat.lt_of_lt_of_le (length_of_first? _h') hl
  · exact hl

end ExcerptSearch.Query
