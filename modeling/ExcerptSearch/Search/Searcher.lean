import ExcerptSearch.Search.Facets
import ExcerptSearch.Search.Results
import ExcerptSearch.Search.Weigher

namespace ExcerptSearch

structure SearchOptions where
  -- Are featured excerpts to come first?
  featured : Bool := false
  -- Are excerpts to be sorted by how well they match?
  relevant : Bool := false
  -- The number of items of each kind that may be displayed.
  limit    : Option Nat := none

namespace SearchOptions

def ranks (o : SearchOptions) : Bool :=
  o.featured || o.relevant

end SearchOptions

def excerptLimit : Nat :=
  100

section Ranking

variable {α : Type} [Score α]

-- What the featured tags of an excerpt add to its score. Where relevance counts, too, tags that
-- match no term but a common word add nothing.
def featuredScore (w : Weigher) (o : SearchOptions) (f : Facets α) : α :=
  match o.featured, f.get? .featuredTag with
  | true, some t =>
    let common : α := if o.relevant then ((0 : Nat) : α) else Score.half
    let score := ((900 : Nat) : α) * w.weigh t.text common
    if !o.relevant || Score.isPositive score then score + t.count * ((100 : Nat) : α) else score
  | _, _         => ((0 : Nat) : α)

-- What a facet adds to the score of an excerpt: more the more the facet weighs, and the fewer its
-- matches are relative to.
def addFacet (w : Weigher) (score : α) (entry : Facet × FacetText α) : α :=
  let (facet, t) := entry
  let matched := w.weigh t.text Score.half
  if facet = .featuredTag || Score.isZero matched then score
  else
    score + matched * (facet.weight : α) * (((1 : Nat) : α) + Score.half / t.count)

def scoreOf (w : Weigher) (o : SearchOptions) (f : Facets α) : α :=
  let score := featuredScore w o f
  if o.relevant then f.entries.foldl (addFacet w) score else score

def rank (items : List (FoundItem α)) : List (FoundItem α) :=
  items.mergeSort fun a b => Score.atMost b.score a.score

end Ranking

structure SectionSearcher where
  -- Are these excerpts, which can be ranked?
  ranks   : Bool
  archive : Section

namespace SectionSearcher

variable {α : Type} [Score α] (s : SectionSearcher)

def heading : Text :=
  if !s.ranks && s.archive.code = ['p'] then "Sutta and Vinaya texts".toList
  else capitalize (pluralOf s.archive.name)

def limit (o : SearchOptions) : Option Nat :=
  if s.ranks then some (o.limit.getD excerptLimit) else o.limit

def grouping (o : SearchOptions) : Grouping :=
  if s.ranks then if o.ranks then .ranked else .sessionHeaders s.archive.sessionHeaders
  else if s.archive.eventFooters.isEmpty then .none
  else .eventFooters s.archive.eventFooters

def found (q : Query) : List Item :=
  s.archive.items.filter fun item => q.isMatch item.blobs

def foundItems (q : Query) (o : SearchOptions) : Except QueryError (List (FoundItem α)) :=
  if s.ranks && o.ranks then do
    let w ← Weigher.ofQuery q s.archive.commonWords
    return rank ((s.found q).map fun item => { item, score := scoreOf w o (.ofItem item) })
  else return (s.found q).map fun item => { item, score := ((0 : Nat) : α) }

def search (q : Query) (o : SearchOptions) : Except QueryError (FoundSection α) := do
  return {
    code := s.archive.code
    name := s.archive.name
    heading := s.heading
    items := ← s.foundItems q o
    limit := s.limit o
    grouping := s.grouping o }

end SectionSearcher

inductive Searcher where
  | one (s : SectionSearcher)
  -- Several sections under a code of their own.
  | several (code : Text) (members : List SectionSearcher)

namespace Searcher

variable {α : Type} [Score α]

def code : Searcher → Text
  | one s          => s.archive.code
  | several code _ => code

def name : Searcher → Text
  | one s       => s.archive.name
  | several _ _ => "item".toList

def members : Searcher → List SectionSearcher
  | one s        => [s]
  | several _ ms => ms

def itemCount (s : Searcher) : Nat :=
  (s.members.flatMap (·.archive.items)).length

def search (q : Query) (o : SearchOptions) : Searcher → Except QueryError (Results α)
  | one s             => do return .ofSection (← s.search q o)
  | several _ members => do
    return {
      kindPlural := "items".toList
      sections := ← members.mapM (·.search q o)
      combined := true }

end Searcher
end ExcerptSearch
