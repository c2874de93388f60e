import ExcerptSearch.Regex.Compiled

namespace ExcerptSearch

structure Highlighter where
  pattern : Option Regex.Compiled

namespace Highlighter

def alternation (patterns : List Text) : Text :=
  ['(', '?', 'i', ')'] ++ Text.join ['|'] patterns

def ofPatterns? (patterns : List Text) : Option Highlighter :=
  if patterns.isEmpty then some ⟨none⟩
  else (Regex.Compiled.ofSource? (alternation patterns)).map (⟨some ·⟩)

def source? (m : Highlighter) : Option Text :=
  m.pattern.map (·.source)

def spans (m : Highlighter) (t : Text) : List Regex.Found :=
  match m.pattern with
  | none   => []
  | some p => (p.findAll t).filter (!·.isEmpty)

inductive Run where
  | plain (t : Text)
  -- A tag, an entity or a bold run, or a sign of markup that stands alone.
  | markup (t : Text)
  deriving DecidableEq

def openBold : Text :=
  ['<', 'b', '>']

def closeBold : Text :=
  ['<', '/', 'b', '>']

-- A bold run that ends at the first tag after its start.
def boldRun? (t : Text) : Option (Text × Text) :=
  if openBold.isPrefixOf t then do
    let (run, rest) ← Text.through? '>' (t.drop openBold.length)
    if closeBold.isSuffixOf run then some (openBold ++ run, rest) else none
  else none

def markup? : Text → Option (Text × Text)
  | []      => none
  | c :: cs =>
    if c == '<' then
      (boldRun? (c :: cs)).or <| (Text.through? '>' (c :: cs)).or <| some ([c], cs)
    else if c == '&' then (Text.through? ';' (c :: cs)).or <| some ([c], cs)
    else if c == '>' then some ([c], cs)
    else none

theorem length_of_boldRun? {t s rest : Text} (h : boldRun? t = some (s, rest)) :
    rest.length < t.length := by
  unfold boldRun? at h
  split at h
  · simp only [Option.bind_eq_bind, Option.bind_eq_some_iff] at h
    obtain ⟨⟨run, r⟩, hr, h⟩ := h
    split at h
    · simp only [Option.some.injEq, Prod.mk.injEq] at h
      have := Text.length_of_through? hr
      rw [List.length_drop, h.2] at this
      omega
    · simp at h
  · simp at h

theorem length_of_markup? {t s rest : Text} (h : markup? t = some (s, rest)) :
    rest.length < t.length := by
  unfold markup? at h
  split at h
  · simp at h
  · split at h
    · simp only [Option.or_eq_some_iff] at h
      rcases h with h | ⟨-, h | ⟨-, h⟩⟩
      · exact length_of_boldRun? h
      · exact Text.length_of_through? h
      · simp_all
    · split at h
      · simp only [Option.or_eq_some_iff] at h
        rcases h with h | ⟨-, h⟩
        · exact Text.length_of_through? h
        · simp_all
      · split at h <;> simp_all

def consPlain (c : Char) : List Run → List Run
  | .plain t :: runs => .plain (c :: t) :: runs
  | runs             => .plain [c] :: runs

def runs : Text → List Run
  | []      => []
  | c :: cs =>
    match _h : markup? (c :: cs) with
    | some (m, rest) => .markup m :: runs rest
    | none           => consPlain c (runs cs)
termination_by t => t.length
decreasing_by
  · exact length_of_markup? _h
  · simp

-- The text with bold tags around the given spans, which are in ascending order and do not overlap;
-- the text begins at place `i`.
def embolden : Nat → Text → List Regex.Found → Text
  | _, t, []      => t
  | i, t, m :: ms =>
    t.take (m.start - i) ++
      openBold ++ (t.drop (m.start - i)).take (m.stop - m.start) ++ closeBold ++
      embolden m.stop (t.drop (m.stop - i)) ms

def boldRun (m : Highlighter) : Run → Text
  | .plain t  => embolden 0 t (m.spans t)
  | .markup t => t

-- Rendered text with the matches in bold. Bold runs that touch become one.
def bold (m : Highlighter) (html : Text) : Text :=
  if m.pattern.isNone then html
  else Text.replace (closeBold ++ openBold) [] ((runs html).flatMap m.boldRun)

end Highlighter
end ExcerptSearch
