import ExcerptSearch.Archive.Basic
import ExcerptSearch.Json.Parser

namespace ExcerptSearch.Archive

open Json

-- The fields that a record has in JSON, in the order in which an array gives them.
abbrev Names := List Text

abbrev Fields := List (Option Json)

def field? (members : List (Option Text × Json)) (name : Text) : Option (Option Json) :=
  match members.filter (·.1 == some name) with
  | []       => some none
  | [(_, v)] => some (some v)
  | _        => none

def fields? (names : Names) : Json → Option Fields
  | object members =>
    if members.all (·.1.isSome) then names.mapM (field? members) else none
  | array xs       =>
    if xs.length ≤ names.length then
      some (xs.map some ++ List.replicate (names.length - xs.length) none)
    else none
  | _              => none

def optional {α : Type} (default : α) (read : Json → Option α) : Option Json → Option α
  | some v => read v
  | none   => some default

def required {α : Type} (read : Json → Option α) (v : Option Json) : Option α :=
  v.bind read

def nullable {α : Type} (read : Json → Option α) : Json → Option (Option α)
  | null => some none
  | v    => (read v).map some

def list? {α : Type} (read : Json → Option α) : Json → Option (List α)
  | array xs => xs.mapM read
  | _        => none

-- An object whose members are entries; the last of several with one key counts.
def dictionary? {α : Type} (read : Json → Option α) : Json → Option (Dictionary α)
  | object members => do
    let entries ← members.mapM fun (k, v) => do return (← k, ← read v)
    return .ofList entries
  | _              => none

def count? (v : Json) : Option Nat :=
  v.nat?.filter (· < Nat.pow 2 64)

def itemNames : Names :=
  ["blobs".toList, "html".toList, "session".toList, "event".toList, "uniqueTeachers".toList]

def item? (v : Json) : Option Item :=
  match fields? itemNames v with
  | some [blobs, html, session, event, uniqueTeachers] => do
    return {
      blobs := ← required (list? text?) blobs
      html := ← optional [] text? html
      session := ← optional none (nullable text?) session
      event := ← optional none (nullable text?) event
      uniqueTeachers := ← optional none (nullable count?) uniqueTeachers }
  | _ => none

def sectionNames : Names :=
  ["code".toList, "name".toList, "items".toList, "sessionHeader".toList, "eventHtml".toList,
   "commonWordBlob".toList]

def section? (v : Json) : Option Section :=
  match fields? sectionNames v with
  | some [code, name, items, sessionHeader, eventHtml, commonWordBlob] => do
    return {
      code := ← required text? code
      name := ← required text? name
      items := ← optional [] (list? item?) items
      sessionHeaders := ← optional .empty (dictionary? text?) sessionHeader
      eventFooters := ← optional .empty (dictionary? text?) eventHtml
      commonWords := ← optional [] text? commonWordBlob }
  | _ => none

def databaseNames : Names :=
  ["searches".toList]

def database? (v : Json) : Option Database :=
  match fields? databaseNames v with
  | some [searches] => do
    return { sections := ← optional .empty (dictionary? section?) searches }
  | _ => none

end ExcerptSearch.Archive

namespace ExcerptSearch

def Database.ofText? (t : Text) : Option Database :=
  (Json.parse? t).bind Archive.database?

end ExcerptSearch
