import ExcerptSearch.Command.Help
import ExcerptSearch.Command.Output
import ExcerptSearch.Command.Run

namespace ExcerptSearch

inductive Invocation where
  | search (r : SearchRequest) (json : Bool) (database : Option Text)
  | explain (query : Text) (strict : Bool)
  | kinds (database : Option Text)
  -- Help on a command, or on all.
  | help (command : Option CommandName)
  | version

namespace CommandLine

inductive OptionName where
  | kind
  | strict
  | featured
  | relevant
  | limit
  | json
  | database
  | help
  deriving DecidableEq

namespace OptionName

def takesValue : OptionName → Bool
  | kind | limit | database => true
  | _                       => false

def ofChar? : Char → Option OptionName
  | 'k' => some kind
  | 's' => some strict
  | 'f' => some featured
  | 'r' => some relevant
  | 'l' => some limit
  | 'd' => some database
  | 'h' => some help
  | _   => none

def ofWord? (t : Text) : Option OptionName :=
  if t = "kind".toList then some kind
  else if t = "strict".toList then some strict
  else if t = "featured".toList then some featured
  else if t = "relevant".toList then some relevant
  else if t = "limit".toList then some limit
  else if t = "json".toList then some json
  else if t = "database".toList then some database
  else if t = "help".toList then some help
  else none

end OptionName

structure Reading where
  -- The options that the command has.
  options  : List OptionName
  -- Does the command take a query?
  hasQuery : Bool
  query    : Option Text := none
  given    : List (OptionName × Text) := []
  -- The option whose value is the next word.
  pending  : Option OptionName := none
  -- Are all further words queries, whatever they look like?
  literal  : Bool := false
  -- Has help been asked for?
  help     : Bool := false

def number? (t : Text) : Option Nat :=
  let ds := match t with
    | '+' :: ds => ds
    | ds        => ds
  if ds.isEmpty || !ds.all Char.isDigit then none
  else
    let n := Nat.ofDigitChars 10 ds 0
    if n < Nat.pow 2 64 then some n else none

def isValue (o : OptionName) (v : Text) : Bool :=
  match o with
  | .limit    => (number? v).isSome
  | .database => !v.isEmpty
  | _         => true

namespace Reading

def give? (r : Reading) (o : OptionName) (v : Text) : Option Reading :=
  if (r.given.lookup o).isSome || !isValue o v then none
  else some { r with given := (o, v) :: r.given, pending := none }

def word? (r : Reading) (t : Text) : Option Reading :=
  if r.hasQuery && r.query.isNone then some { r with query := some t } else none

def option? (r : Reading) (o : OptionName) : Option Reading :=
  if !r.options.contains o then none
  else if o = .help then some { r with help := true }
  else if o.takesValue then
    if (r.given.lookup o).isSome then none else some { r with pending := some o }
  else r.give? o []

-- Options by their letters. The first that takes a value has the rest of the word as its value, if
-- there is any.
def letters? (r : Reading) : Text → Option Reading
  | []      => some r
  | c :: cs => do
    let o ← OptionName.ofChar? c
    if o.takesValue && r.options.contains o && !cs.isEmpty then
      r.give? o (if cs.head? = some '=' then cs.tail else cs)
    else
      let r ← r.option? o
      if r.help then return r
      r.letters? cs

def named? (r : Reading) (t : Text) : Option Reading := do
  let o ← OptionName.ofWord? (t.takeWhile (· != '='))
  if !r.options.contains o then none
  else match t.dropWhile (· != '=') with
    | []     => r.option? o
    | _ :: v => if o.takesValue then r.give? o v else none

def step? (r : Reading) (t : Text) : Option Reading :=
  if r.help then some r
  else if r.literal then r.word? t
  else match t, r.pending with
    | ['-', '-'], none           => some { r with literal := true }
    | '-' :: '-' :: name, none   => r.named? name
    | '-' :: c :: cs, none       => r.letters? (c :: cs)
    | '-' :: _ :: _, some _      => none
    | t, some o                  => r.give? o t
    | t, none                    => r.word? t

def has (r : Reading) (o : OptionName) : Bool :=
  (r.given.lookup o).isSome

def read? (r : Reading) (words : List Text) : Option Reading :=
  (words.foldlM step? r).filter fun r => r.help || r.pending.isNone

end Reading

def readSearch? (words : List Text) : Option Invocation := do
  let r ← Reading.read? {
    options := [.kind, .strict, .featured, .relevant, .limit, .json, .database, .help]
    hasQuery := true } words
  if r.help then return .help (some .search)
  return .search
    { query := ← r.query
      kind := r.given.lookup .kind
      strict := r.has .strict
      options := {
        featured := r.has .featured
        relevant := r.has .relevant
        limit := (r.given.lookup .limit).bind number? } }
    (r.has .json) (r.given.lookup .database)

def readExplain? (words : List Text) : Option Invocation := do
  let r ← Reading.read? { options := [.strict, .help], hasQuery := true } words
  if r.help then return .help (some .explain)
  return .explain (← r.query) (r.has .strict)

def readKinds? (words : List Text) : Option Invocation := do
  let r ← Reading.read? { options := [.database, .help], hasQuery := false } words
  if r.help then return .help (some .kinds)
  return .kinds (r.given.lookup .database)

def readHelp? : List Text → Option Invocation
  | []  => some (.help none)
  | [t] => (CommandName.ofText? t).map fun c => .help (some c)
  | _   => none

-- The options before any command, by their letters or names. The mark that ends the options may
-- only stand alone.
def readGlobal? (t : Text) (words : List Text) : Option Invocation :=
  match t with
  | ['-', '-']         => if words.isEmpty then some (.help none) else none
  | '-' :: '-' :: name =>
    if name = "help".toList then some (.help none)
    else if name = "version".toList then some .version
    else none
  | '-' :: 'h' :: _    => some (.help none)
  | '-' :: 'V' :: _    => some .version
  | _                  => none

def read? : List Text → Option Invocation
  | []         => some (.help none)
  | t :: words => match CommandName.ofText? t with
    | some .search  => readSearch? words
    | some .explain => readExplain? words
    | some .kinds   => readKinds? words
    | some .help    => readHelp? words
    | none          => readGlobal? t words

structure Outcome where
  code   : Nat := 0
  output : Text := []
  errors : Text := []

namespace Outcome

def ofError (e : CommandError) : Outcome :=
  { code := 1, errors := line ("Error: ".toList ++ e.message.toList) }

def usageError : Outcome :=
  { code := 2, errors := line "error: unexpected or missing argument".toList }

def ofAnswer {α : Type} (print : α → Text) : Except CommandError α → Outcome
  | .ok a    => { output := print a }
  | .error e => ofError e

end Outcome

section Run

variable {m : Type → Type} [Monad m] (read : Text → m FileState) (e : Environment)

def perform : Invocation → m Outcome
  | .search r json database => do
    let answer ← (runSearch read e r database : ExceptT CommandError m (SearchOutcome Float)).run
    return .ofAnswer (if json then fun o => line (o.toJson.pretty 0) else (·.print)) answer
  | .explain query strict => return .ofAnswer (·.print) (explain query strict)
  | .kinds database => do
    return .ofAnswer (·.flatMap (·.print)) (← (runKinds read e database).run)
  | .help none => return { output := Help.overview.toList }
  | .help (some c) => return { output := c.helpText.toList }
  | .version => return { output := line "qsearch 0.1.0".toList }

def run (words : List Text) : m Outcome :=
  match read? words with
  | some i => perform read e i
  | none   => return .usageError

end Run
end CommandLine
end ExcerptSearch
