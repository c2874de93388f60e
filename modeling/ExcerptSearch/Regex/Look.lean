import ExcerptSearch.Unicode.Word

namespace ExcerptSearch.Regex

inductive Alphabet where
  | unicode
  | ascii
  deriving DecidableEq

def Alphabet.isWord : Alphabet → Char → Bool
  | unicode, c => Unicode.isWord c
  | ascii, c   => c.isAlphanum || c == '_'

inductive Look where
  | textStart
  | textEnd
  | lineStart
  | lineEnd
  -- As `lineStart`, where a carriage return ends a line too, alone or before a line feed.
  | lineStartCrlf
  | lineEndCrlf
  | boundary (a : Alphabet)
  | notBoundary (a : Alphabet)
  | wordStart (a : Alphabet)
  | wordEnd (a : Alphabet)
  -- No word character before.
  | wordStartHalf (a : Alphabet)
  -- No word character after.
  | wordEndHalf (a : Alphabet)
  deriving DecidableEq

namespace Look

def before? (h : Array Char) (i : Nat) : Option Char :=
  if i = 0 then none else h[i - 1]?

def between (before after : Option Char) : Look → Bool
  | textStart       => before.isNone
  | textEnd         => after.isNone
  | lineStart       => before.all (· == '\n')
  | lineEnd         => after.all (· == '\n')
  | lineStartCrlf   => before.all fun b => b == '\n' || (b == '\r' && after != some '\n')
  | lineEndCrlf     => after.all fun a => a == '\r' || (a == '\n' && before != some '\r')
  | boundary a      => before.any a.isWord != after.any a.isWord
  | notBoundary a   => before.any a.isWord == after.any a.isWord
  | wordStart a     => !before.any a.isWord && after.any a.isWord
  | wordEnd a       => before.any a.isWord && !after.any a.isWord
  | wordStartHalf a => !before.any a.isWord
  | wordEndHalf a   => !after.any a.isWord

def holds (h : Array Char) (i : Nat) (l : Look) : Bool :=
  l.between (before? h i) h[i]?

end Look
end ExcerptSearch.Regex
