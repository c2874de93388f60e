import ExcerptSearch.Archive.Reader
import ExcerptSearch.Command.Files
import ExcerptSearch.Command.Search
import ExcerptSearch.Config.Basic

namespace ExcerptSearch

structure Environment where
  -- A configuration file to use instead of the usual one.
  configFile      : Option Text := none
  -- The directory of configurations, unless it is the usual one below the home directory.
  configDirectory : Option Text := none
  home            : Option Text := none

namespace Environment

def configPath (e : Environment) : Option Text :=
  e.configFile.or <|
    (e.configDirectory.or (e.home.map (Path.join · ".config".toList))).map
      (Path.join · "qsearch/config.toml".toList)

def expandHome (e : Environment) (path : Text) : Text :=
  Path.expandHome e.home path

end Environment

section Run

variable {m : Type → Type} [Monad m] (read : Text → m FileState) (e : Environment)

def loadConfig : ExceptT CommandError m Config :=
  match e.configPath with
  | none      => return {}
  | some path => do
    match ← read path with
    | .missing    => return {}
    | .unreadable => throw .badConfig
    | .text t     => match Config.ofText? t with
      | some c => return c
      | none   => throw .badConfig

def loadDatabase (path : Text) : ExceptT CommandError m Database := do
  match ← read path with
  | .missing    => throw (.databaseNotFound path)
  | .unreadable => throw .databaseUnreadable
  | .text t     => match Database.ofText? t with
    | some d => return d
    | none   => throw .databaseMalformed

-- Searches the archive at the given path, or else where the configuration says. What the request
-- leaves open, the configuration decides.
def runSearch {α : Type} [Score α] (r : SearchRequest) (database : Option Text) :
    ExceptT CommandError m (SearchOutcome α) := do
  checkLength r.query
  if r.query.isBlank then return .emptyQuery
  let c ← loadConfig read e
  let r := { r with
    strict := r.strict || c.strict
    options := {
      featured := r.options.featured || c.featured
      relevant := r.options.relevant || c.relevant
      limit := r.options.limit.or c.limit } }
  let d ← loadDatabase read (database.getD (e.expandHome c.databasePath))
  (Catalog.ofDatabase d).search r

def runKinds (database : Option Text) : ExceptT CommandError m (List Kind) := do
  let path ← match database with
    | some path => pure path
    | none      => do pure (e.expandHome (← loadConfig read e).databasePath)
  return (Catalog.ofDatabase (← loadDatabase read path)).kinds

end Run
end ExcerptSearch
