import ExcerptSearch.Unicode.Lower
import ExcerptSearch.Unicode.Normalization

namespace ExcerptSearch.Query

def isDiacritic (c : Char) : Bool :=
  0x0300 ≤ c.toNat && c.toNat ≤ 0x036f

def stripDiacritics (t : Text) : Text :=
  (Unicode.nfd t).filter (!isDiacritic ·)

-- The text in lower case. A backslash keeps the case of the character behind it, for the sake of
-- raw patterns, where case tells one class from its complement.
def lowered : Text → Text
  | []              => []
  | '\\' :: c :: cs => '\\' :: c :: lowered cs
  | c :: cs         => Unicode.lower c ++ lowered cs

def normalize (t : Text) : Text :=
  stripDiacritics (lowered t)

end ExcerptSearch.Query
