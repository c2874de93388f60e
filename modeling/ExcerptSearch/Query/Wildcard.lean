import ExcerptSearch.Regex.Parser.Pattern
import ExcerptSearch.Text

namespace ExcerptSearch.Query

def fieldDelimiters : Text :=
  [']', '[', '{', '}', '<', '>', '^', '#', '&', '@', '(', ')']

def insideField : Text :=
  ['[', '^', '\\', ']', '\\', '[', '\\', '{', '\\', '}', '<', '>', '\\', '^', '\\', '#', '\\', '&',
   '@', '\\', '(', '\\', ')', ']']

def wordBoundary : Text :=
  ['\\', 'b']

-- The pattern for a term without edges. First everything is escaped, then each wildcard that has
-- been escaped, and each underscore, gives way to its pattern.
def expand (t : Text) : Text :=
  Text.replace ['\\', '$'] wordBoundary <|
    Text.replace ['_'] insideField <|
      Text.replace ['\\', '*'] (insideField ++ ['*', '?']) (Regex.escape t)

def isEdge (c : Char) : Bool :=
  c == '$' || c == '*'

def leadingEdge (t : Text) : Text :=
  t.takeWhile isEdge

def trailingEdge (t : Text) : Text :=
  (t.reverse.takeWhile isEdge).reverse

def core (t : Text) : Text :=
  Text.dropEndWhile isEdge (t.dropWhile isEdge)

-- The pattern for a term. Of the characters at either edge the innermost decides whether the match
-- has to begin or end at a word boundary there.
def expandWildcards (t : Text) : Text :=
  (if (leadingEdge t).getLast? = some '$' then wordBoundary else []) ++
  expand (core t) ++
  (if (trailingEdge t).head? = some '$' then wordBoundary else [])

end ExcerptSearch.Query
