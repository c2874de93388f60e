import ExcerptSearch.Query.Emphasis
import ExcerptSearch.Query.TermPattern
import ExcerptSearch.Query.Wildcard

namespace ExcerptSearch

inductive QueryError where
  -- The pattern of a term is malformed; `raw` if the term itself is a pattern.
  | invalidPattern (text : Text) (raw : Bool)
  -- A pattern made from those of the terms is malformed.
  | invalidDerived
  deriving DecidableEq

def QueryError.message : QueryError → String
  | invalidPattern text true  => "Invalid regular expression: " ++ String.ofList text
  | invalidPattern text false => "Invalid search term: " ++ String.ofList text
  | invalidDerived            => "Failed to compile derived pattern"

structure Term where
  pattern      : TermPattern
  -- Does the term look at the metadata of a blob, too?
  seesMetadata : Bool
  raw          : Bool
  -- The pattern for what the term marks in rendered text.
  emphasis     : Option Text

namespace Term

def metadataMarks : Text :=
  ['#', '&', '@']

def metadataSeparator : Text :=
  ['|']

def looksAtMetadata (t : Text) : Bool :=
  t.any metadataMarks.contains

def isWordChar (c : Char) : Bool :=
  c.isAlphanum || c == '_'

-- The text in a form where a dollar sign stands for the quotes at either end.
def dollarQuoted (t : Text) : Text :=
  let body := t.dropWhile (· == '"')
  (if t.head? = some '"' then ['$'] else []) ++ Text.dropEndWhile (· == '"') body ++
    (if body.getLast? = some '"' then ['$'] else [])

-- The text without a dollar sign that is its first character and stands before a character that is
-- in no word.
def dropLooseDollar : Text → Text
  | '$' :: c :: cs => if isWordChar c then '$' :: c :: cs else c :: cs
  | t              => t

-- Quotes at the ends of a term ask for word boundaries there, except next to punctuation.
def quotesToBoundaries (t : Text) : Text :=
  (dropLooseDollar (dropLooseDollar (dollarQuoted t)).reverse).reverse

def quoteNumber (t : Text) : Text :=
  if !t.isEmpty && t.all Char.isDigit then ['"'] ++ t ++ ['"'] else t

def isSlash (c : Char) : Bool :=
  c == '/'

def questionSide (t : Text) : Text × TagScope :=
  if [']', '/', '/'].isSuffixOf t then (Text.dropEndWhile isSlash t, .question) else (t, .any)

def answerSide (t : Text) : Text × TagScope :=
  if ['/', '/', '['].isPrefixOf t then (t.dropWhile isSlash, .answer) else (t, .any)

def element (t : Text) : Text × TagScope :=
  let (t, s)  := questionSide t
  let (t, s') := answerSide t
  (t, s.restrict s')

def rawSource? : Text → Option Text
  | '`' :: inner => some (if inner.getLast? = some '`' then inner.dropLast else inner)
  | _            => none

def ofText (t : Text) : Except QueryError Term :=
  match rawSource? t with
  | some source =>
    match TermPattern.ofSource? source .any with
    | some p =>
      .ok { pattern := p, seesMetadata := looksAtMetadata t, raw := true, emphasis := none }
    | none   => .error (.invalidPattern t true)
  | none =>
    let (e, scope) := element (quoteNumber t)
    let source     := Query.expandWildcards (quotesToBoundaries e)
    match TermPattern.ofSource? source scope with
    | some p =>
      .ok { pattern := p, seesMetadata := looksAtMetadata t, raw := false
            emphasis := if looksAtMetadata t then none else Query.emphasis? source }
    | none   => .error (.invalidPattern e false)

def visible (s : Term) (blob : Text) : Text :=
  if s.seesMetadata then blob else Text.before metadataSeparator blob

def matchesBlob (s : Term) (blob : Text) : Bool :=
  s.pattern.isMatch (s.visible blob)

end Term
end ExcerptSearch
