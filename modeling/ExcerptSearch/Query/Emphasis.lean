import ExcerptSearch.Text

namespace ExcerptSearch.Query

def isEscapedDelimiter (c : Char) : Bool :=
  c == ']' || c == '[' || c == '{' || c == '}' || c == '^'

def isAngle (c : Char) : Bool :=
  c == '<' || c == '>'

def dropLeadingDelimiters : Text → Text
  | []            => []
  | [c]           => if isAngle c then [] else [c]
  | c :: d :: cs  =>
    if isAngle c then dropLeadingDelimiters (d :: cs)
    else if c == '\\' && isEscapedDelimiter d then dropLeadingDelimiters cs
    else c :: d :: cs

def dropDelimitersReversed : Text → Text
  | []           => []
  | [c]          => if isAngle c then [] else [c]
  | c :: d :: cs =>
    if isAngle c then dropDelimitersReversed (d :: cs)
    else if isEscapedDelimiter c && d == '\\' then dropDelimitersReversed cs
    else c :: d :: cs

def stripDelimiters (pattern : Text) : Text :=
  (dropDelimitersReversed (dropLeadingDelimiters pattern).reverse).reverse

-- The pattern for a letter and its forms with diacritics, and for an apostrophe and the quotation
-- marks that may be set in its place.
def variants (c : Char) : Text :=
  match c with
  | 'a'  => ['[', 'a', 'ā', ']']
  | 'i'  => ['[', 'i', 'ī', ']']
  | 'u'  => ['[', 'u', 'ū', ']']
  | 'd'  => ['[', 'd', 'ḍ', ']']
  | 'l'  => ['[', 'l', 'ḷ', ']']
  | 't'  => ['[', 't', 'ṭ', ']']
  | 'n'  => ['[', 'n', 'ñ', 'ṇ', 'ṅ', ']']
  | 'm'  => ['[', 'm', 'ṁ', 'ṃ', ']']
  | '\'' => ['[', '\'', '‘', '’', '"', '“', '”', ']']
  | c    => [c]

inductive Atom where
  -- A backslash and the character behind it, if there is one.
  | escape (c : Option Char)
  -- A bracketed class, with its brackets.
  | bracket (source : Text)
  -- A sign of repetition.
  | repetition (c : Char)
  | literal (c : Char)
  deriving DecidableEq

def bracketEnd : Text → Text × Text
  | []              => ([], [])
  | ['\\']          => (['\\'], [])
  | '\\' :: c :: cs =>
    let (s, rest) := bracketEnd cs
    ('\\' :: c :: s, rest)
  | ']' :: cs       => ([']'], cs)
  | c :: cs         =>
    let (s, rest) := bracketEnd cs
    (c :: s, rest)

theorem length_bracketEnd_le (t : Text) : (bracketEnd t).2.length ≤ t.length := by
  fun_induction bracketEnd t <;> simp_all <;> omega

def atoms : Text → List Atom
  | []      => []
  | c :: cs =>
    if c = '\\' then
      match cs with
      | []      => [.escape none]
      | d :: cs => .escape (some d) :: atoms cs
    else if c = '[' then .bracket ('[' :: (bracketEnd cs).1) :: atoms (bracketEnd cs).2
    else if c = '*' ∨ c = '?' then .repetition c :: atoms cs
    else .literal c :: atoms cs
termination_by t => t.length
decreasing_by
  all_goals simp only [List.length_cons]
  · omega
  · have := length_bracketEnd_le cs; omega
  · omega
  · omega

namespace Atom

def emphasized : Atom → Text
  | escape none     => ['\\']
  | escape (some c) => ['\\', c]
  | bracket s       => s
  | repetition c    => [c]
  | literal c       => variants c

def isLiteral : Atom → Bool
  | escape (some c) => c != 'b'
  | literal _       => true
  | _               => false

end Atom

-- The pattern that marks in rendered text what the given pattern finds in a blob. A pattern without
-- a certain character, which could mark everything, marks nothing.
def emphasis? (pattern : Text) : Option Text :=
  let as := atoms (stripDelimiters pattern)
  if as.any (·.isLiteral) then some (as.flatMap (·.emphasized)) else none

end ExcerptSearch.Query
