import ExcerptSearch.Archive.Basic
import ExcerptSearch.Archive.Catalog
import ExcerptSearch.Archive.Reader
import ExcerptSearch.Command.Error
import ExcerptSearch.Command.Files
import ExcerptSearch.Command.Help
import ExcerptSearch.Command.Line
import ExcerptSearch.Command.Output
import ExcerptSearch.Command.Run
import ExcerptSearch.Command.Search
import ExcerptSearch.Config.Basic
import ExcerptSearch.Config.Path
import ExcerptSearch.Decimal.Basic
import ExcerptSearch.Decimal.Shortest
import ExcerptSearch.Dictionary
import ExcerptSearch.Json.Basic
import ExcerptSearch.Json.Parser
import ExcerptSearch.Json.Printer
import ExcerptSearch.Main
import ExcerptSearch.Proofs.Archive.Catalog
import ExcerptSearch.Proofs.Archive.Format
import ExcerptSearch.Proofs.Archive.Groups
import ExcerptSearch.Proofs.Archive.Storable
import ExcerptSearch.Proofs.Binary64.Arithmetic
import ExcerptSearch.Proofs.Binary64.Bounds
import ExcerptSearch.Proofs.Binary64.Rounding
import ExcerptSearch.Proofs.Dictionary
import ExcerptSearch.Proofs.Except
import ExcerptSearch.Proofs.Json.Printing
import ExcerptSearch.Proofs.Json.Spelling
import ExcerptSearch.Proofs.Query.Balance
import ExcerptSearch.Proofs.Query.Blanks
import ExcerptSearch.Proofs.Query.Bold
import ExcerptSearch.Proofs.Query.Emphasis
import ExcerptSearch.Proofs.Query.Enclosed
import ExcerptSearch.Proofs.Query.Errors
import ExcerptSearch.Proofs.Query.Expansion
import ExcerptSearch.Proofs.Query.Inert
import ExcerptSearch.Proofs.Query.Joining
import ExcerptSearch.Proofs.Query.Layout
import ExcerptSearch.Proofs.Query.Listing
import ExcerptSearch.Proofs.Query.Markup
import ExcerptSearch.Proofs.Query.Matching
import ExcerptSearch.Proofs.Query.Modes
import ExcerptSearch.Proofs.Query.Negation
import ExcerptSearch.Proofs.Query.Normalize
import ExcerptSearch.Proofs.Query.Phrases
import ExcerptSearch.Proofs.Query.Printing
import ExcerptSearch.Proofs.Query.Quoted
import ExcerptSearch.Proofs.Query.Readers
import ExcerptSearch.Proofs.Query.Rendering
import ExcerptSearch.Proofs.Query.Renormalize
import ExcerptSearch.Proofs.Query.Reprint
import ExcerptSearch.Proofs.Query.Runs
import ExcerptSearch.Proofs.Query.Sides
import ExcerptSearch.Proofs.Query.Spaces
import ExcerptSearch.Proofs.Query.Wildcard
import ExcerptSearch.Proofs.Query.Words
import ExcerptSearch.Proofs.Regex.Alternation
import ExcerptSearch.Proofs.Regex.Between
import ExcerptSearch.Proofs.Regex.Covers
import ExcerptSearch.Proofs.Regex.Property
import ExcerptSearch.Proofs.Regex.Spelling
import ExcerptSearch.Proofs.Regex.Successive
import ExcerptSearch.Proofs.Regex.WholeWord
import ExcerptSearch.Proofs.Search.Counts
import ExcerptSearch.Proofs.Search.Exact
import ExcerptSearch.Proofs.Search.Facets
import ExcerptSearch.Proofs.Search.Featured
import ExcerptSearch.Proofs.Search.Fields
import ExcerptSearch.Proofs.Search.QuestionTags
import ExcerptSearch.Proofs.Search.Ranking
import ExcerptSearch.Proofs.Search.Relevance
import ExcerptSearch.Proofs.Search.Runs
import ExcerptSearch.Proofs.Search.Spaces
import ExcerptSearch.Proofs.Search.Weighing
import ExcerptSearch.Proofs.Search.WholeFields
import ExcerptSearch.Proofs.Search.WholeWords
import ExcerptSearch.Proofs.Text
import ExcerptSearch.Proofs.Unicode.CanonicalOrder
import ExcerptSearch.Proofs.Unicode.CaseFold
import ExcerptSearch.Proofs.Unicode.Lower
import ExcerptSearch.Proofs.Unicode.Shift
import ExcerptSearch.Proofs.Unicode.Utf8
import ExcerptSearch.Query.Basic
import ExcerptSearch.Query.Emphasis
import ExcerptSearch.Query.Highlighter
import ExcerptSearch.Query.Normalize
import ExcerptSearch.Query.Term
import ExcerptSearch.Query.TermPattern
import ExcerptSearch.Query.Token
import ExcerptSearch.Query.Tokenize
import ExcerptSearch.Query.Tree
import ExcerptSearch.Query.Wildcard
import ExcerptSearch.Regex.Basic
import ExcerptSearch.Regex.CharSet
import ExcerptSearch.Regex.Compiled
import ExcerptSearch.Regex.Faithful
import ExcerptSearch.Regex.Look
import ExcerptSearch.Regex.Matches
import ExcerptSearch.Regex.Normal
import ExcerptSearch.Regex.Parser.Bracket
import ExcerptSearch.Regex.Parser.Escape
import ExcerptSearch.Regex.Parser.Flags
import ExcerptSearch.Regex.Parser.Pattern
import ExcerptSearch.Regex.Parser.Posix
import ExcerptSearch.Regex.Program
import ExcerptSearch.Regex.Reading
import ExcerptSearch.Regex.Search
import ExcerptSearch.Regex.Walk
import ExcerptSearch.Search.Facets
import ExcerptSearch.Search.Results
import ExcerptSearch.Search.Score
import ExcerptSearch.Search.Searcher
import ExcerptSearch.Search.Weigher
import ExcerptSearch.Text
import ExcerptSearch.Toml.Basic
import ExcerptSearch.Toml.Parser
import ExcerptSearch.Toml.Scalar
import ExcerptSearch.Unicode.Age
import ExcerptSearch.Unicode.Alphanumeric
import ExcerptSearch.Unicode.BinaryProperty
import ExcerptSearch.Unicode.Break
import ExcerptSearch.Unicode.CaseFold
import ExcerptSearch.Unicode.Category
import ExcerptSearch.Unicode.CombiningClass
import ExcerptSearch.Unicode.Decomposition
import ExcerptSearch.Unicode.Digit
import ExcerptSearch.Unicode.Lower
import ExcerptSearch.Unicode.Normalization
import ExcerptSearch.Unicode.Property
import ExcerptSearch.Unicode.PropertyList
import ExcerptSearch.Unicode.Script
import ExcerptSearch.Unicode.Shift
import ExcerptSearch.Unicode.SpanTree
import ExcerptSearch.Unicode.Upper
import ExcerptSearch.Unicode.WhiteSpace
import ExcerptSearch.Unicode.Word
