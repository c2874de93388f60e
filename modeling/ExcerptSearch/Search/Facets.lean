import ExcerptSearch.Archive.Basic
import ExcerptSearch.Query.TermPattern
import ExcerptSearch.Search.Score

namespace ExcerptSearch

inductive Facet where
  -- Tags with a plus sign behind them.
  | featuredTag
  -- Tags before the side marker of the first blob.
  | questionTag
  -- All other tags.
  | answerTag
  | teacher
  -- The text of the blob at this place: the first is that of the excerpt, the rest annotate it.
  | text (i : Nat)
  deriving DecidableEq

namespace Facet

def weight : Facet → Nat
  | questionTag => 7
  | text 0      => 3
  | answerTag   => 2
  | teacher     => 2
  | featuredTag => 1
  | text _      => 1

def name : Facet → Text
  | featuredTag => "fTag".toList
  | questionTag => "qTag".toList
  | answerTag   => "aTag".toList
  | teacher     => "teacher".toList
  | text i      => "text".toList ++ Text.ofNat i

end Facet

def fieldsThen (opener closer : Char) (blob : Text) : List (Text × Text) :=
  match _h : Text.through? opener blob with
  | none           => []
  | some (_, rest) =>
    match _h' : Text.through? closer rest with
    | none                  => []
    | some (content, rest') => (opener :: content, rest') :: fieldsThen opener closer rest'
termination_by blob.length
decreasing_by exact Nat.lt_trans (Text.length_of_through? _h') (Text.length_of_through? _h)

def fields (opener closer : Char) (blob : Text) : List Text :=
  (fieldsThen opener closer blob).map (·.1)

def tags (blob : Text) : List Text :=
  fields '[' ']' blob

def featuredTags (blob : Text) : List Text :=
  (fieldsThen '[' ']' blob).filterMap fun (tag, rest) =>
    if rest.head? = some '+' then some (tag ++ ['+']) else none

def teachers (blob : Text) : List Text :=
  fields '{' '}' blob

def textField? (blob : Text) : Option Text :=
  (fields '^' '^' blob).head?

-- The fields found in the blobs that hold a small ASCII letter, each once, at its first place.
def distinctFields (find : Text → List Text) (blobs : List Text) : List Text :=
  ((blobs.flatMap find).filter (·.any Char.isLower)).eraseDups

structure FacetText (α : Type) where
  text  : Text
  count : α

structure Facets (α : Type) where
  entries : List (Facet × FacetText α)

namespace Facets

variable {α : Type} [Score α]

def ofFields (facet : Facet) (fields : List Text) (count : Nat) : List (Facet × FacetText α) :=
  if fields.isEmpty then [] else [(facet, ⟨fields.flatten, (count : α)⟩)]

-- A text counts as one match, and a long one as one match per sixty characters.
def textCount (t : Text) : α :=
  if t.length ≤ 60 then ((1 : Nat) : α) else (t.length : α) / ((60 : Nat) : α)

def ofTexts (blobs : List Text) : List (Facet × FacetText α) :=
  let texts := (blobs.map textField?).zipIdx.filterMap fun (t, i) => t.map (·, i)
  let total : α := Score.sum (texts.map fun (t, _) => textCount t)
  texts.map fun (t, i) => (.text i, ⟨t, if i = 0 then textCount t else total⟩)

-- The facets of an item. Answer tags are relative to the number of all tags, and teachers to the
-- number of persons where the item gives it.
def ofItem (item : Item) : Facets α :=
  let question := distinctFields tags (item.blobs.head?.toList.map (Text.before sideMarker))
  let answer   := (distinctFields tags item.blobs).filter (!question.contains ·)
  let teacher  := distinctFields teachers item.blobs
  let featured := distinctFields featuredTags item.blobs
  ⟨ofFields .featuredTag featured featured.length ++
    ofFields .questionTag question question.length ++
    ofFields .answerTag answer (answer.length + question.length) ++
    ofFields .teacher teacher (item.uniqueTeachers.getD teacher.length) ++
    ofTexts item.blobs⟩

def get? (f : Facets α) (facet : Facet) : Option (FacetText α) :=
  f.entries.lookup facet

def isFeatured (f : Facets α) : Bool :=
  (f.get? .featuredTag).isSome

end Facets
end ExcerptSearch
