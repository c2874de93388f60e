import ExcerptSearch.Text
import ExcerptSearch.Unicode.CombiningClass
import ExcerptSearch.Unicode.Decomposition

namespace ExcerptSearch.Unicode

-- Puts a character before a text in canonical order, behind the marks of lower classes that the
-- text begins with. A character of class zero passes no mark, and no mark passes it.
def insertMark (c : Char) : Text → Text
  | []      => [c]
  | d :: ds =>
    if 0 < combiningClass d && combiningClass d < combiningClass c then d :: insertMark c ds
    else c :: d :: ds

def canonicalOrder (t : Text) : Text :=
  t.foldr insertMark []

def nfd (t : Text) : Text :=
  canonicalOrder (t.flatMap decompose)

end ExcerptSearch.Unicode
