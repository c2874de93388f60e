import ExcerptSearch.Archive.Basic
import ExcerptSearch.Query.Highlighter
import ExcerptSearch.Search.Score
import ExcerptSearch.Unicode.Upper

namespace ExcerptSearch

structure FoundItem (α : Type) where
  item  : Item
  score : α

inductive Grouping where
  | none
  -- A header before each run of items of one session.
  | sessionHeaders (headers : Dictionary Text)
  -- A footer behind each run of items of one event.
  | eventFooters (footers : Dictionary Text)
  -- Ranked items, under a rule.
  | ranked

structure FoundSection (α : Type) where
  code     : Text
  name     : Text
  -- The heading where several kinds are displayed together.
  heading  : Text
  items    : List (FoundItem α)
  -- The number of items that may be displayed.
  limit    : Option Nat
  grouping : Grouping

structure Results (α : Type) where
  -- What has not been found if nothing has.
  kindPlural : Text
  sections   : List (FoundSection α)
  -- Are these the results of several sections searched together?
  combined   : Bool

def capitalize : Text → Text
  | []      => []
  | c :: cs => Unicode.upper c ++ cs

def pluralOf (name : Text) : Text :=
  name ++ ['s']

def rule : Text :=
  "<hr>".toList

namespace FoundSection

variable {α : Type} (s : FoundSection α)

def plural : Text :=
  pluralOf s.name

def foundText : Text :=
  match s.items.length with
  | 0 => []
  | 1 => "1 ".toList ++ s.name
  | n => Text.ofNat n ++ [' '] ++ s.plural

def displayed : List (FoundItem α) :=
  match s.limit with
  | some n => s.items.take n
  | none   => s.items

def isTruncated : Bool :=
  s.displayed.length < s.items.length

-- Items under the headers of their sessions. A header is displayed where a session begins, `last`
-- being that of the item before.
def renderSessions (m : Highlighter) (headers : Dictionary Text) :
    Option Text → List (FoundItem α) → List Text
  | _, []          => []
  | last, f :: fs =>
    let session := f.item.session
    (if session = last then [] else (session.bind headers.get?).toList) ++
      m.bold f.item.html :: rule :: renderSessions m headers session fs

-- Items with the footers of their events. A footer is displayed where an event ends, `last` being
-- that of the item before.
def renderEvents (m : Highlighter) (footers : Dictionary Text) :
    Option Text → List (FoundItem α) → List Text
  | last, []      => (last.bind footers.get?).toList
  | last, f :: fs =>
    let event := f.item.event
    (if event = last then [] else (last.bind footers.get?).toList) ++
      m.bold f.item.html :: renderEvents m footers event fs

def renderPlain (m : Highlighter) (fs : List (FoundItem α)) : List Text :=
  fs.flatMap fun f => [m.bold f.item.html, rule]

def render (m : Highlighter) : Text :=
  Text.joinLines <| match s.grouping with
    | .none                   => renderPlain m s.displayed
    | .sessionHeaders headers => renderSessions m headers none s.displayed
    | .eventFooters footers   => renderEvents m footers none s.displayed
    | .ranked                 =>
      (if s.items.isEmpty then [] else [rule]) ++ renderPlain m s.displayed

end FoundSection

namespace Results

variable {α : Type}

def ofSection (s : FoundSection α) : Results α :=
  { kindPlural := s.plural, sections := [s], combined := false }

variable (r : Results α)

def items : List (FoundItem α) :=
  r.sections.flatMap (·.items)

def foundCount : Nat :=
  r.items.length

def isEmpty : Bool :=
  r.foundCount == 0

def enumerate : List Text → Text
  | []     => []
  | [a]    => a
  | [a, b] => a ++ " and ".toList ++ b
  | as     => Text.join [',', ' '] as.dropLast ++ ", and ".toList ++ as.getLast?.getD []

def summaryEnd : Text :=
  match r.combined, r.sections with
  | false, [s] =>
    if s.isTruncated then
      ". Showing only the first ".toList ++ Text.ofNat s.displayed.length ++ [':']
    else [':']
  | _, _       => ['.']

def summary : Text :=
  match (r.sections.map (·.foundText)).filter (!·.isEmpty) with
  | []    => "No ".toList ++ r.kindPlural ++ " found.".toList
  | found => "Found ".toList ++ enumerate found ++ r.summaryEnd

def renderHeaded (m : Highlighter) (s : FoundSection α) : Text :=
  "<h3>".toList ++ s.heading ++ " (".toList ++ Text.ofNat s.items.length ++ "):</h3>\n".toList ++
    s.render m

def render (m : Highlighter) : Text :=
  let headed := 1 < r.sections.length
  let found  := r.sections.filter (!·.items.isEmpty)
  Text.join ("\n".toList ++ rule ++ "\n".toList)
    (found.map fun s => if headed then renderHeaded m s else s.render m)

end Results
end ExcerptSearch
