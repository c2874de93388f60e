import ExcerptSearch.Archive.Catalog
import ExcerptSearch.Command.Error

namespace ExcerptSearch

structure SearchRequest where
  query    : Text
  -- The code of what is to be searched.
  kind     : Option Text := none
  strict   : Bool := false
  options  : SearchOptions := {}

structure ReportedItem (α : Type) where
  kind  : Text
  score : α
  blobs : List Text
  html  : Text

structure Report (α : Type) where
  query      : Text
  kind       : Text
  foundCount : Nat
  summary    : Text
  html       : Text
  items      : List (ReportedItem α)

inductive SearchOutcome (α : Type) where
  -- There was nothing to search for.
  | emptyQuery
  | found (r : Report α)

structure Explanation where
  queryText   : Text
  tree        : Text
  highlight   : Option Text
  searchParts : List Text

structure Kind where
  code  : Text
  name  : Text
  items : Nat

def defaultKind : Text :=
  ['a', 'l', 'l']

def checkLength (query : Text) : Except CommandError Unit :=
  if maxQueryLength < query.length then .error (.queryTooLong query.length) else .ok ()

def parseQuery (text : Text) (strict : Bool) : Except CommandError Query :=
  (Query.parse text strict).mapError .query

namespace Report

variable {α : Type}

def item (m : Highlighter) (code : Text) (f : FoundItem α) : ReportedItem α :=
  { kind := code, score := f.score, blobs := f.item.blobs, html := m.bold f.item.html }

def ofResults (q : Query) (kind : Text) (r : Results α) : Report α :=
  { query := q.print
    kind := kind
    foundCount := r.foundCount
    summary := r.summary
    html := r.render q.highlighter
    items := r.sections.flatMap fun s => s.displayed.map (item q.highlighter s.code) }

end Report

namespace Catalog

variable {α : Type} [Score α] (c : Catalog)

def findKind (code : Text) : Except CommandError Searcher :=
  match c.find? code with
  | some s => .ok s
  | none   => .error (.unknownKind code)

def results (kind : Text) (query : Text) (strict : Bool) (o : SearchOptions) :
    Except CommandError (Query × Results α) := do
  let s ← c.findKind kind
  let q ← parseQuery query strict
  return (q, ← (s.search q o).mapError .query)

def search (r : SearchRequest) : Except CommandError (SearchOutcome α) := do
  checkLength r.query
  if r.query.isBlank then return .emptyQuery
  let kind := r.kind.getD defaultKind
  let (q, results) ← c.results kind r.query r.strict r.options
  return .found (.ofResults q kind results)

def kinds : List Kind :=
  c.searchers.map fun s => ⟨s.code, s.name, s.itemCount⟩

end Catalog

def explain (query : Text) (strict : Bool) : Except CommandError Explanation := do
  checkLength query
  let q ← parseQuery query strict
  return {
    queryText := q.text
    tree := q.print
    highlight := q.highlighter.source?
    searchParts := q.searchParts.map (·.source) }

end ExcerptSearch
