import ExcerptSearch.Query.Highlighter
import ExcerptSearch.Query.Normalize
import ExcerptSearch.Query.Tokenize
import ExcerptSearch.Query.Tree

namespace ExcerptSearch

structure Query where
  -- The text in lower case and without diacritics.
  text        : Text
  -- The group around all terms, whose kind is that of the mode.
  root        : Node
  highlighter : Highlighter

namespace Query

-- In strict mode all members of the root have to match within one blob.
def rootKind (strict : Bool) : GroupKind :=
  if strict then .single else .all

def parse (text : Text) (strict : Bool) : Except QueryError Query := do
  let text := normalize text
  let root ← treeOfTokens (rootKind strict) (tokenize text)
  match Highlighter.ofPatterns? root.emphases with
  | some highlighter => return { text, root, highlighter }
  | none             => throw .invalidDerived

def setStrict (q : Query) (strict : Bool) : Query :=
  { q with root := .group (rootKind strict) false q.root.members }

def isMatch (q : Query) (blobs : List Text) : Bool :=
  q.root.isMatch blobs

def searchParts (q : Query) : List TermPattern :=
  q.root.searchParts

def print (q : Query) : Text :=
  q.root.print

end Query
end ExcerptSearch
