import ExcerptSearch.Text

namespace ExcerptSearch

inductive CommandName where
  | search
  | explain
  | kinds
  | help
  deriving DecidableEq

namespace CommandName

def ofText? (t : Text) : Option CommandName :=
  if t = "search".toList then some search
  else if t = "explain".toList then some explain
  else if t = "kinds".toList then some kinds
  else if t = "help".toList then some help
  else none

end CommandName

namespace Help

def overview : String :=
"Search a curated excerpt archive

Usage: qsearch [COMMAND]

Commands:
  search   Search the archive for items matching a query
  explain  Show how a query is parsed
  kinds    List the searchable kinds in the database
  help     Print this message or the help of the given subcommand(s)

Options:
  -h, --help     Print help
  -V, --version  Print version
"

def onSearch : String :=
"Search the archive for items matching a query

Usage: qsearch search [OPTIONS] <QUERY>

Arguments:
  <QUERY>  The search query, e.g. `[merit]// !death` or `~(abhayagiri \x7bajahn pasanno\x7d)`

Options:
  -k, --kind <KIND>          Kind of item to search: a section code such as `x` or `g`, or `multi-tag`, `ref`, `all`
  -s, --strict               Require every term to match within a single blob
  -f, --featured             Put featured excerpts first
  -r, --relevant             Sort excerpts by relevance
  -l, --limit <LIMIT>        Maximum number of items to show per kind
      --json                 Print results as JSON
  -d, --database <DATABASE>  Path to SearchDatabase.json, overriding the config file
  -h, --help                 Print help
"

def onExplain : String :=
"Show how a query is parsed

Usage: qsearch explain [OPTIONS] <QUERY>

Arguments:
  <QUERY>  The search query

Options:
  -s, --strict  Parse with a single-blob root group
  -h, --help    Print help
"

def onKinds : String :=
"List the searchable kinds in the database

Usage: qsearch kinds [OPTIONS]

Options:
  -d, --database <DATABASE>  Path to SearchDatabase.json, overriding the config file
  -h, --help                 Print help
"

def onHelp : String :=
"Print this message or the help of the given subcommand(s)

Usage: qsearch help [COMMAND]...

Arguments:
  [COMMAND]...  Print help for the subcommand(s)
"

end Help

def CommandName.helpText : CommandName → String
  | search  => Help.onSearch
  | explain => Help.onExplain
  | kinds   => Help.onKinds
  | help    => Help.onHelp

end ExcerptSearch
