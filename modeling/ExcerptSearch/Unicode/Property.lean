import ExcerptSearch.Text
import ExcerptSearch.Unicode.Age
import ExcerptSearch.Unicode.Break

namespace ExcerptSearch.Unicode

inductive Property where
  | any
  | ascii
  | assigned
  | category (cs : List Category)
  | script (s : Script)
  -- Is the script among those that use the character?
  | scriptExtension (s : Script)
  -- Was the character there in this version?
  | age (version : Nat)
  | binary (p : BinaryProperty)
  | graphemeBreak (b : GraphemeBreak)
  | wordBreak (b : WordBreak)
  | sentenceBreak (b : SentenceBreak)
  deriving DecidableEq

namespace Property

-- Noncharacters are not assigned, but were set apart in some version.
def isSince (version : Nat) (c : Char) : Bool :=
  (!hasCategory [.cn] c || BinaryProperty.isNoncharacter c) && Unicode.age c ≤ version

def holds : Property → Char → Bool
  | any, _               => true
  | ascii, c             => c.toNat ≤ 0x7f
  | assigned, c          => !hasCategory [.cn] c
  | category cs, c       => hasCategory cs c
  | script s, c          => script? c == some s
  | scriptExtension s, c => (scripts c).contains s
  | age version, c       => isSince version c
  | binary p, c          => p.holds c
  | graphemeBreak b, c   => graphemeBreak? c == some b
  | wordBreak b, c       => wordBreak? c == some b
  | sentenceBreak b, c   => sentenceBreak? c == some b

def looseName (name : Text) : Text :=
  (name.filter fun c => c.toNat ≤ 0x7f && c != ' ' && c != '_' && c != '-').map Char.toLower

-- The form in which names are looked up. Case, spaces, hyphens and underscores do not count, and
-- neither do the letters `is` in front, but for a name that is not that of the category `c`.
def normalName (name : Text) : String :=
  if (name.take 2).map Char.toLower = ['i', 's'] then
    let rest := looseName (name.drop 2)
    String.ofList (if rest = ['c'] then ['i', 's', 'c'] else rest)
  else String.ofList (looseName name)

def named? {α : Type} (names : List (α × List String)) (name : String) : Option α :=
  (names.find? (·.2.contains name)).map (·.1)

def category? (name : String) : Option Property :=
  if name = "any" then some any
  else if name = "assigned" then some assigned
  else if name = "ascii" then some ascii
  else (named? Category.names name).map category

def version? (name : String) : Option Nat :=
  versions.find? fun v =>
    name = String.ofList (Text.ofNat (v / 10) ++ '.' :: Text.ofNat (v % 10)) ||
    name = String.ofList ('v' :: Text.ofNat v)

def ofName? (name : Text) : Option Property :=
  let name := normalName name
  ((named? BinaryProperty.names name).map binary).or
    ((category? name).or ((named? Script.names name).map script))

def ofValue? (name value : Text) : Option Property :=
  let name := normalName name
  let value := normalName value
  let isOne (names : List String) := names.contains name
  if isOne ["gc", "generalcategory"] then category? value
  else if isOne ["sc", "script"] then (named? Script.names value).map script
  else if isOne ["scx", "scriptextensions"] then (named? Script.names value).map scriptExtension
  else if isOne ["age"] then (version? value).map age
  else if isOne ["gcb", "graphemeclusterbreak"] then
    (named? GraphemeBreak.names value).map graphemeBreak
  else if isOne ["wb", "wordbreak"] then (named? WordBreak.names value).map wordBreak
  else if isOne ["sb", "sentencebreak"] then (named? SentenceBreak.names value).map sentenceBreak
  else none

end Property
end ExcerptSearch.Unicode
