import ExcerptSearch.Search.Searcher

namespace ExcerptSearch

structure Catalog where
  searchers : List Searcher := []
  loaded    : Bool := false

namespace Catalog

def excerptCode : Text :=
  ['x']

def knownCodes : List Text :=
  [['k'], ['b'], ['g'], ['t'], ['e'], ['s'], ['p'], ['o'], ['a'], ['x']]

def groups : List (Text × List Text) := [
  ("multi-tag".toList, [['k'], ['b'], ['g']]),
  ("ref".toList, [['p'], ['o'], ['a']]),
  ("all".toList, [['k'], ['b'], ['g'], ['t'], ['e'], ['s'], ['p'], ['o'], ['x']])]

-- Is a section listed before another, or both at one place? Known codes come first, others in
-- ascending order.
def listedBefore (s t : Section) : Bool :=
  let i := knownCodes.idxOf s.code
  let j := knownCodes.idxOf t.code
  decide (i < j) || (i == j && !decide (t.code < s.code))

def sectionSearcher (s : Section) : SectionSearcher :=
  { ranks := s.code == excerptCode, archive := s }

def members (sections : List SectionSearcher) (codes : List Text) : List SectionSearcher :=
  codes.filterMap fun code => sections.find? (·.archive.code == code)

def groupSearcher? (sections : List SectionSearcher) (group : Text × List Text) : Option Searcher :=
  let (code, codes) := group
  match members sections codes with
  | [] => none
  | ms => some (.several code ms)

def searchersOf (d : Database) : List Searcher :=
  let sections := (d.sections.values.mergeSort listedBefore).map sectionSearcher
  sections.map .one ++ groups.filterMap (groupSearcher? sections)

-- Fills a catalog that is still empty; one that has been loaded stays as it is. The answer is
-- whether the archive has been loaded.
def load (c : Catalog) (d : Database) : Catalog × Bool :=
  if c.loaded then (c, false) else ({ searchers := searchersOf d, loaded := true }, true)

def ofDatabase (d : Database) : Catalog :=
  (load {} d).1

def find? (c : Catalog) (code : Text) : Option Searcher :=
  c.searchers.find? (·.code == code)

end Catalog
end ExcerptSearch
