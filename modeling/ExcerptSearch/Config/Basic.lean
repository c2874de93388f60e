import ExcerptSearch.Config.Path
import ExcerptSearch.Toml.Parser

namespace ExcerptSearch

structure Config where
  databasePath : Text := "./assets/SearchDatabase.json".toList
  strict       : Bool := false
  featured     : Bool := false
  relevant     : Bool := false
  limit        : Option Nat := none

namespace Config

open Toml

def string? : Toml → Option Text
  | .string t => some t
  | _         => none

def boolean? : Toml → Option Bool
  | .boolean b => some b
  | _          => none

def count? : Toml → Option Nat
  | .integer n => if 0 ≤ n && n.toNat < Nat.pow 2 64 then some n.toNat else none
  | _          => none

def fieldOr {α : Type} (default : α) (read : Toml → Option α) : Option Toml → Option α
  | some v => read v
  | none   => some default

-- Can the numbers in all entries but the named ones be represented? What is not asked for is read
-- all the same, except at the end of an array.
def restSound (names : List String) (entries : Entries) : Bool :=
  entriesSound (entries.filter fun (k, _) => !names.any (·.toList == k))

def readDatabase? (c : Config) : Toml → Option Config
  | .table _ entries =>
    if restSound ["path"] entries then withPath? (entries.lookup "path".toList) else none
  | .array elements  => withPath? elements.head?
  | .tables _        => none
  | .datetime        => some c
  | _                => none
where
  withPath? (v : Option Toml) : Option Config := do
    return { c with databasePath := ← fieldOr c.databasePath string? v }

def readSearch? (c : Config) : Toml → Option Config
  | .table _ es =>
    if restSound ["strict", "featured", "relevant", "limit"] es then
      withOptions? (es.lookup "strict".toList) (es.lookup "featured".toList)
        (es.lookup "relevant".toList) (es.lookup "limit".toList)
    else none
  | .array (strict :: featured :: relevant :: limit :: _) =>
    withOptions? strict featured relevant limit
  | .datetime   => some c
  | _           => none
where
  withOptions? (strict featured relevant limit : Option Toml) : Option Config := do
    return { c with
      strict := ← fieldOr c.strict boolean? strict
      featured := ← fieldOr c.featured boolean? featured
      relevant := ← fieldOr c.relevant boolean? relevant
      limit := ← fieldOr c.limit (fun v => (count? v).map some) limit }

def ofTable? (t : Table) : Option Config := do
  if !restSound ["database", "search"] t.entries then none
  let c ← match t.get? "database".toList with
    | some v => readDatabase? {} v
    | none   => some {}
  match t.get? "search".toList with
  | some v => readSearch? c v
  | none   => some c

def ofText? (t : Text) : Option Config :=
  (Toml.parse? t).bind ofTable?

end Config
end ExcerptSearch
