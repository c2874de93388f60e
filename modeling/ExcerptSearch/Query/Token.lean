import ExcerptSearch.Text

namespace ExcerptSearch

inductive GroupKind where
  -- Every member matches somewhere in the item.
  | all
  -- At least one member matches.
  | any
  -- Every member matches within one and the same blob.
  | single
  deriving DecidableEq

def GroupKind.sign : GroupKind → Char
  | all    => '&'
  | any    => '|'
  | single => '~'

inductive Token where
  | opening (kind : GroupKind) (negated : Bool)
  | closing
  -- A term, with the quotes or brackets that enclose it.
  | term (negated : Bool) (text : Text)
  deriving DecidableEq

def negationMark (negated : Bool) : Text :=
  if negated then ['!'] else []

def Token.print : Token → Text
  | opening kind negated => negationMark negated ++ [kind.sign, '(']
  | closing              => [')']
  | term negated text    => negationMark negated ++ text

end ExcerptSearch
