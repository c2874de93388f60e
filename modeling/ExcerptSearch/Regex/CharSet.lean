import ExcerptSearch.Unicode.CaseFold
import ExcerptSearch.Unicode.Digit
import ExcerptSearch.Unicode.Property
import ExcerptSearch.Unicode.WhiteSpace
import ExcerptSearch.Unicode.Word

namespace ExcerptSearch.Regex

inductive CharSet where
  | empty
  -- The characters from `lo` to `hi`, both included.
  | range (lo hi : Char)
  | digit
  | space
  | word
  | property (p : Unicode.Property)
  | compl (s : CharSet)
  | union (s t : CharSet)
  | inter (s t : CharSet)
  | diff (s t : CharSet)
  | symmDiff (s t : CharSet)
  -- The characters that simple case folding does not tell from a member of `s`.
  | folded (s : CharSet)
  -- The members of `s` and the other cases of its ASCII letters.
  | foldedAscii (s : CharSet)
  deriving DecidableEq

namespace CharSet

def otherCase (c : Char) : Char :=
  if 'a' ≤ c ∧ c ≤ 'z' then Char.ofNat (c.toNat - 32)
  else if 'A' ≤ c ∧ c ≤ 'Z' then Char.ofNat (c.toNat + 32)
  else c

def mem : CharSet → Char → Bool
  | empty, _         => false
  | range lo hi, c   => decide (lo ≤ c) && decide (c ≤ hi)
  | digit, c         => Unicode.isDigit c
  | space, c         => Unicode.isWhiteSpace c
  | word, c          => Unicode.isWord c
  | property p, c    => p.holds c
  | compl s, c       => !s.mem c
  | union s t, c     => s.mem c || t.mem c
  | inter s t, c     => s.mem c && t.mem c
  | diff s t, c      => s.mem c && !t.mem c
  | symmDiff s t, c  => s.mem c != t.mem c
  | folded s, c      => (Unicode.caseClass c).any s.mem
  | foldedAscii s, c => s.mem c || s.mem (otherCase c)

def singleton (c : Char) : CharSet :=
  range c c

def ofRanges (rs : List (Char × Char)) : CharSet :=
  rs.foldr (fun r s => union (range r.1 r.2) s) empty

def unions : List CharSet → CharSet
  | []      => empty
  | [s]     => s
  | s :: ss => union s (unions ss)

def any : CharSet :=
  compl empty

def asciiDigit : CharSet :=
  range '0' '9'

def asciiSpace : CharSet :=
  ofRanges [('\t', '\r'), (' ', ' ')]

def asciiWord : CharSet :=
  ofRanges [('0', '9'), ('A', 'Z'), ('_', '_'), ('a', 'z')]

@[simp]
theorem mem_singleton {c d : Char} : (singleton c).mem d = decide (d = c) := by
  simp only [singleton, mem]
  by_cases h : d = c
  · simp [h]
  · have : ¬(c ≤ d ∧ d ≤ c) := fun ⟨h₁, h₂⟩ => h (Char.le_antisymm h₂ h₁)
    simp_all

end CharSet
end ExcerptSearch.Regex
