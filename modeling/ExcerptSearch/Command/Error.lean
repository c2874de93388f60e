import ExcerptSearch.Query.Term

namespace ExcerptSearch

inductive CommandError where
  -- The query has this many characters, which are too many.
  | queryTooLong (length : Nat)
  | query (e : QueryError)
  | unknownKind (code : Text)
  | databaseNotFound (path : Text)
  -- The archive is there, but cannot be read as text.
  | databaseUnreadable
  | databaseMalformed
  -- The configuration is there, but cannot be read or used.
  | badConfig
  deriving DecidableEq

def maxQueryLength : Nat :=
  1000

def CommandError.message : CommandError → String
  | queryTooLong n        => s!"Query too long: {n} chars (max {maxQueryLength})"
  | query e               => e.message
  | unknownKind code      => "Unknown search kind '" ++ String.ofList code ++ "'"
  | databaseNotFound path => "Search database not found at " ++ String.ofList path
  | databaseUnreadable    => "Failed to read search database"
  | databaseMalformed     => "Failed to parse search database"
  | badConfig             => "Failed to load configuration"

end ExcerptSearch
