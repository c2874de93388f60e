import ExcerptSearch.Regex.CharSet

namespace ExcerptSearch.Regex.Parser

def posixClasses : List (List Char × List (Char × Char)) := [
  (['a', 'l', 'n', 'u', 'm'],      [('0', '9'), ('A', 'Z'), ('a', 'z')]),
  (['a', 'l', 'p', 'h', 'a'],      [('A', 'Z'), ('a', 'z')]),
  (['a', 's', 'c', 'i', 'i'],      [('\x00', '\x7f')]),
  (['b', 'l', 'a', 'n', 'k'],      [('\t', '\t'), (' ', ' ')]),
  (['c', 'n', 't', 'r', 'l'],      [('\x00', '\x1f'), ('\x7f', '\x7f')]),
  (['d', 'i', 'g', 'i', 't'],      [('0', '9')]),
  (['g', 'r', 'a', 'p', 'h'],      [('!', '~')]),
  (['l', 'o', 'w', 'e', 'r'],      [('a', 'z')]),
  (['p', 'r', 'i', 'n', 't'],      [(' ', '~')]),
  (['p', 'u', 'n', 'c', 't'],      [('!', '/'), (':', '@'), ('[', '`'), ('{', '~')]),
  (['s', 'p', 'a', 'c', 'e'],      [('\t', '\r'), (' ', ' ')]),
  (['u', 'p', 'p', 'e', 'r'],      [('A', 'Z')]),
  (['w', 'o', 'r', 'd'],           [('0', '9'), ('A', 'Z'), ('_', '_'), ('a', 'z')]),
  (['x', 'd', 'i', 'g', 'i', 't'], [('0', '9'), ('A', 'F'), ('a', 'f')])]

def posixText (name : List Char) (negated : Bool) : List Char :=
  ':' :: (if negated then ['^'] else []) ++ name ++ [':', ']']

def posixClass? (text : List Char) : Option (CharSet × Bool) :=
  posixClasses.findSome? fun (name, rs) =>
    if text = posixText name false then some (.ofRanges rs, false)
    else if text = posixText name true then some (.ofRanges rs, true)
    else none

-- May the text behind an opening bracket still become a named class?
def isPosixStart (text : List Char) : Bool :=
  posixClasses.any fun (name, _) =>
    text.isPrefixOf (posixText name false) || text.isPrefixOf (posixText name true)

end ExcerptSearch.Regex.Parser
