import ExcerptSearch.Query.Basic
import ExcerptSearch.Search.Score

namespace ExcerptSearch

structure WeighedPart where
  pattern  : TermPattern
  fullWord : TermPattern
  -- Does the pattern match one of the common words?
  common   : Bool

structure Weigher where
  parts      : List WeighedPart
  -- The pattern for the whole of a field, by the character that the field begins with.
  wholeField : List (Char × TermPattern)

namespace Weigher

def specialChars : Text :=
  ['"', '`', '!', ']', '[', '{', '}', '<', '>', '^', '#', '&', '@', '(', ')']

def derived (p : Option TermPattern) : Except QueryError TermPattern :=
  match p with
  | some p => .ok p
  | none   => .error .invalidDerived

-- The patterns for whole tags and teachers, and for whole texts if the query has several words.
def wholeFieldPatterns (queryText : Text) : Except QueryError (List (Char × TermPattern)) :=
  if queryText.isEmpty || queryText.any specialChars.contains then .ok []
  else do
    let phrase ← Query.parse (['"'] ++ queryText ++ ['"']) false
    match phrase.searchParts with
    | []        => return []
    | base :: _ =>
      let around (opener closer : Char) :=
        derived (TermPattern.ofSource? (['\\', opener] ++ base.source ++ ['\\', closer]) base.scope)
      let tag ← around '[' ']'
      let teacher ← around '{' '}'
      return [('[', tag), ('{', teacher)] ++
        (if queryText.contains ' ' then [('^', base)] else [])

def weighPart (commonWords : Text) (p : TermPattern) : Except QueryError WeighedPart := do
  return { pattern := p, fullWord := ← derived p.fullWord?, common := p.isMatch commonWords }

def ofQuery (q : Query) (commonWords : Text) : Except QueryError Weigher := do
  let parts ← q.searchParts.mapM (weighPart commonWords)
  return { parts, wholeField := ← wholeFieldPatterns q.text }

def matchesWhole (w : Weigher) (blob : Text) : Bool :=
  match blob with
  | []     => false
  | c :: _ => (w.wholeField.lookup c).any (·.isMatch blob)

variable {α : Type} [Score α]

def total (commonWeight : α) (parts : List WeighedPart) : α :=
  Score.sum (parts.map fun p => if p.common then commonWeight else ((1 : Nat) : α))

-- The weight of all that matches in the blob. Whole words and a whole field count three times.
def weigh (w : Weigher) (blob : Text) (commonWeight : α) : α :=
  let three : α := ((3 : Nat) : α)
  let whole : α := ((if w.matchesWhole blob then 1 else 0 : Nat) : α)
  let found     := w.parts.filter (·.pattern.isMatch blob)
  let (full, partly) := found.partition (·.fullWord.isMatch blob)
  three * whole + three * total commonWeight full + total commonWeight partly

end Weigher
end ExcerptSearch
