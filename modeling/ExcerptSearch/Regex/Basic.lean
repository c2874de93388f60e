import ExcerptSearch.Regex.CharSet
import ExcerptSearch.Regex.Look

namespace ExcerptSearch

inductive Regex where
  | empty
  | set (s : Regex.CharSet)
  | look (l : Regex.Look)
  -- An expression under a number, by which it is told from all others of the pattern.
  | group (number : Nat) (r : Regex)
  | cat (r s : Regex)
  -- One of two expressions, the left one preferred.
  | alt (r s : Regex)
  -- Copies of `r`: `min` of them, and at most `extra` more, or any number more; as many as there
  -- can be if `greedy`, else as few.
  | rep (r : Regex) (min : Nat) (extra : Option Nat) (greedy : Bool)
  deriving DecidableEq

namespace Regex

def minSize : Regex → Nat
  | empty         => 0
  | set _         => 1
  | look _        => 0
  | group _ r     => r.minSize
  | cat r s       => r.minSize + s.minSize
  | alt r s       => min r.minSize s.minSize
  | rep r n _ _   => n * r.minSize

def seq : List Regex → Regex
  | []      => empty
  | [r]     => r
  | r :: rs => cat r (seq rs)

def oneOf : List Regex → Regex
  | []      => empty
  | [r]     => r
  | r :: rs => alt r (oneOf rs)

end Regex
end ExcerptSearch
