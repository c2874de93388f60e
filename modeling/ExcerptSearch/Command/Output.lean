import ExcerptSearch.Command.Search
import ExcerptSearch.Decimal.Shortest
import ExcerptSearch.Json.Printer

namespace ExcerptSearch

-- A score in JSON, which has no word for infinity.
def scoreJson (x : Float) : Json :=
  match Decimal.ofFloat? x with
  | some t => .number t
  | none   => .null

def ReportedItem.toJson (i : ReportedItem Float) : Json :=
  .record [("kind", .ofText i.kind), ("score", scoreJson i.score),
    ("blobs", .ofList .ofText i.blobs), ("html", .ofText i.html)]

def SearchOutcome.toJson : SearchOutcome Float → Json
  | emptyQuery => .record [("status", .ofString "empty_query")]
  | found r    =>
    .record [("status", .ofString "found"), ("query", .ofText r.query), ("kind", .ofText r.kind),
      ("found_count", .ofNat r.foundCount), ("summary", .ofText r.summary),
      ("html", .ofText r.html), ("items", .ofList (·.toJson) r.items)]

def line (t : Text) : Text :=
  t ++ ['\n']

def SearchOutcome.print {α : Type} : SearchOutcome α → Text
  | emptyQuery => line "Enter a query to search the archive.".toList
  | found r    =>
    line r.summary ++ if 0 < r.foundCount then ['\n'] ++ line r.html else []

def Explanation.print (e : Explanation) : Text :=
  line ("Query:     ".toList ++ e.queryText) ++
  line ("Tree:      ".toList ++ e.tree) ++
  line ("Highlight: ".toList ++ e.highlight.getD "(none)".toList) ++
  line ("Weighted:  ".toList ++ Text.join [' ', ' '] e.searchParts)

def padRight (width : Nat) (t : Text) : Text :=
  t ++ List.replicate (width - t.length) ' '

def Kind.print (k : Kind) : Text :=
  line (padRight 10 k.code ++ [' '] ++ padRight 12 k.name ++ [' '] ++ Text.ofNat k.items ++
    " items".toList)

end ExcerptSearch
