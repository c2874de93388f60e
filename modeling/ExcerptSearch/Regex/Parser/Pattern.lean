import ExcerptSearch.Regex.Parser.Bracket
import ExcerptSearch.Unicode.Alphanumeric

namespace ExcerptSearch.Regex.Parser

structure Piece where
  regex   : Regex
  depth   : Nat := 0
  operand : Bool := true
  deriving DecidableEq

namespace Piece

def maxDepth (ps : List Piece) : Nat :=
  Bracket.maxDepth (ps.map (·.depth))

def concat : List Piece → Piece
  | []  => { regex := .empty, operand := false }
  | [p] => { p with regex := .concat [p.regex] }
  | ps  => { regex := .concat (ps.map (·.regex)), depth := 1 + maxDepth ps }

def alternatives : List Piece → Piece
  | [p] => p
  | ps  => { regex := .choice (ps.map (·.regex)), depth := 1 + maxDepth ps }

def group (p : Piece) : Option Nat → Piece
  | some n => { regex := .group n p.regex, depth := 1 + p.depth }
  | none   => { regex := p.regex, depth := 1 + p.depth }

def repeated (p : Piece) (min : Nat) (max : Option Nat) (greedy : Bool) : Piece :=
  { regex := .rep (.concat [p.regex]) min (max.map (· - min)) greedy, depth := 1 + p.depth }

def swapGreed (p : Piece) : Piece :=
  match p.regex with
  | .rep r min extra greedy => { p with regex := .rep r min extra !greedy }
  | _                       => p

end Piece

structure Group where
  -- The finished alternatives, the latest first.
  branches : List Piece := []
  -- The pieces of the alternative being read, the latest first.
  items    : List Piece := []
  -- The flags to go back to where the group ends.
  saved    : Flags := {}
  number   : Option Nat := none
  deriving DecidableEq

namespace Group

def branch (g : Group) : Piece :=
  .concat g.items.reverse

def content (g : Group) : Piece :=
  .alternatives (g.branch :: g.branches).reverse

end Group

inductive Count where
  -- The digits of the lower bound; `closed` behind white space after them.
  | lower (digits : List Char) (closed : Bool)
  -- The digits of the upper bound; `fresh` directly behind the comma.
  | upper (min : Nat) (digits : List Char) (closed fresh : Bool)
  deriving DecidableEq

structure FlagList where
  flags    : Flags
  seen     : List Flag := []
  negated  : Bool := false
  -- Is the minus sign the last character?
  dangling : Bool := false
  deriving DecidableEq

-- What the piece before the next character allows that character to mean.
inductive Tail where
  | plain
  -- A word boundary, to which a name in braces may belong.
  | boundary
  -- A repetition, which a question mark right behind it makes lazy.
  | repetition
  -- A counted repetition, which a question mark behind it makes lazy.
  | counted
  deriving DecidableEq

inductive Point where
  | piece (tail : Tail)
  | escape (e : Escape)
  | bracket (b : Bracket)
  | count (c : Count)
  -- Behind a word boundary and a brace.
  | boundary (name : List Char)
  -- Behind an opening parenthesis.
  | opened
  -- Behind a parenthesis and a question mark.
  | question
  -- Behind the letter that may announce a name.
  | announced
  | name (read : List Char)
  | flags (l : FlagList)
  deriving DecidableEq

structure State where
  group   : Group := {}
  outer   : List Group := []
  flags   : Flags := {}
  -- How many numbered groups there are so far.
  numbers : Nat := 0
  -- The names of the groups so far.
  names   : List (List Char) := []
  point   : Point := .piece .plain
  -- In a comment, in extended mode?
  comment : Bool := false
  deriving DecidableEq

namespace Count

def number? (digits : List Char) : Option Nat :=
  let n := Nat.ofDigitChars 10 digits 0
  if digits.isEmpty || Nat.pow 2 32 ≤ n then none else some n

def step? : Count → Char → Option (Count ⊕ (Nat × Option Nat))
  | lower digits closed, c =>
    if c.isDigit then if closed then none else some (.inl (lower (digits ++ [c]) false))
    else if c == ',' then (number? digits).map (.inl <| upper · [] false true)
    else if c == '}' then (number? digits).map fun n => .inr (n, some n)
    else if Unicode.isWhiteSpace c then some (.inl (lower digits (!digits.isEmpty)))
    else none
  | upper min digits closed fresh, c =>
    if c.isDigit then if closed then none else some (.inl (upper min (digits ++ [c]) false false))
    else if c == '}' then
      if fresh then some (.inr (min, none))
      else (number? digits).bind fun n => if min ≤ n then some (.inr (min, some n)) else none
    else if Unicode.isWhiteSpace c then some (.inl (upper min digits (!digits.isEmpty) false))
    else none

end Count

namespace FlagList

def step? (l : FlagList) (c : Char) : Option FlagList :=
  if c == '-' then
    if l.negated then none else some { l with negated := true, dangling := true }
  else do
    let flag ← Flag.ofChar? c
    if l.seen.contains flag then none
    else some { l with flags := l.flags.set (!l.negated) flag, seen := flag :: l.seen,
                       dangling := false }

end FlagList

namespace State

def push (st : State) (p : Piece) (tail : Tail := .plain) : State :=
  { st with group.items := p :: st.group.items, point := .piece tail }

def operand? (st : State) : Option (Piece × List Piece) :=
  match st.group.items with
  | p :: ps => if p.operand then some (p, ps) else none
  | []      => none

def repeat? (st : State) (min : Nat) (max : Option Nat) (tail : Tail) : Option State :=
  st.operand?.map fun (p, ps) =>
    { st with group.items := p.repeated min max (!st.flags.swapGreed) :: ps, point := .piece tail }

def makeLazy (st : State) : State :=
  match st.group.items with
  | p :: ps => { st with group.items := p.swapGreed :: ps, point := .piece .plain }
  | []      => st

def openGroup (st : State) (flags : Flags) : State :=
  { st with group := { saved := st.flags }, outer := st.group :: st.outer, flags := flags,
            point := .piece .plain }

def openNumbered (st : State) : State :=
  let st := { st.openGroup st.flags with numbers := st.numbers + 1 }
  { st with group.number := some st.numbers }

def closeGroup? (st : State) : Option State :=
  match st.outer with
  | []         => none
  | g :: outer =>
    some (push { st with group := g, outer := outer, flags := st.group.saved }
      (st.group.content.group st.group.number))

def nextBranch (st : State) : State :=
  { st with group := { st.group with branches := st.group.branch :: st.group.branches,
                                     items := [] },
            point := .piece .plain }

def readPiece? (st : State) (tail : Tail) (c : Char) : Option State :=
  match c with
  | '('  => some { st with point := .opened }
  | ')'  => st.closeGroup?
  | '|'  => some st.nextBranch
  | '['  => some { st with point := .bracket {} }
  | '\\' => some { st with point := .escape .opened }
  | '*'  => st.repeat? 0 none .repetition
  | '+'  => st.repeat? 1 none .repetition
  | '?'  =>
    if tail = .repetition || tail = .counted then some st.makeLazy
    else st.repeat? 0 (some 1) .repetition
  | '{'  =>
    if tail = .boundary then some { st with point := .boundary [] }
    else st.operand?.map fun _ => { st with point := .count (.lower [] false) }
  | '.'  => st.flags.dot?.map fun r => st.push { regex := r }
  | '^'  => some (st.push { regex := st.flags.caret })
  | '$'  => some (st.push { regex := st.flags.dollar })
  | c    => (st.flags.literal? ⟨c, false⟩).map fun r => st.push { regex := r }

def readCount? (st : State) (k : Count) (c : Char) : Option State :=
  (k.step? c).bind fun
    | .inl k          => some { st with point := .count k }
    | .inr (min, max) => st.repeat? min max .counted

def boundaryNamed? (a : Alphabet) (name : List Char) : Option Look :=
  if name = ['s', 't', 'a', 'r', 't'] then some (.wordStart a)
  else if name = ['e', 'n', 'd'] then some (.wordEnd a)
  else if name = ['s', 't', 'a', 'r', 't', '-', 'h', 'a', 'l', 'f'] then some (.wordStartHalf a)
  else if name = ['e', 'n', 'd', '-', 'h', 'a', 'l', 'f'] then some (.wordEndHalf a)
  else none

def readBoundary? (st : State) (name : List Char) (c : Char) : Option State :=
  if c.isAlpha || c == '-' then some { st with point := .boundary (name ++ [c]) }
  else if name.isEmpty then st.readCount? (.lower [] false) c
  else if c == '}' then do
    let l ← boundaryNamed? st.flags.alphabet name
    return push { st with group.items := st.group.items.drop 1 } { regex := .look l }
  else none

def isNameChar (first : Bool) (c : Char) : Bool :=
  c == '_' || Unicode.isAlphabetic c ||
    (!first && (c == '.' || c == '[' || c == ']' || Unicode.isNumeric c))

def readName? (st : State) (read : List Char) (c : Char) : Option State :=
  if c == '>' then
    if read.isEmpty || st.names.contains read then none
    else some (openNumbered { st with names := read :: st.names })
  else if isNameChar read.isEmpty c then some { st with point := .name (read ++ [c]) }
  else none

-- Reads a flag, or the end of the flags: a colon, behind which they hold to the end of the group,
-- or a parenthesis, behind which they hold to the end of the group around it.
def readFlags? (st : State) (l : FlagList) (c : Char) : Option State :=
  if c == ':' then if l.dangling then none else some (st.openGroup l.flags)
  else if c == ')' then
    if l.dangling || l.seen.isEmpty then none
    else some (push { st with flags := l.flags } { regex := .empty, operand := false })
  else (l.step? c).map fun l => { st with point := .flags l }

def readPoint? (st : State) (c : Char) : Option State :=
  match st.point with
  | .piece tail => st.readPiece? tail c
  | .escape e   =>
    match e.step? st.flags c with
    | none          => none
    | some (.inl e) => some { st with point := .escape e }
    | some (.inr p) =>
      (st.flags.primitive? p).map fun r =>
        st.push { regex := r } (if let .look (.boundary _) := p then .boundary else .plain)
  | .bracket b  =>
    match b.step? st.flags c with
    | none          => none
    | some (.inl b) => some { st with point := .bracket b }
    | some (.inr s) => some (st.push { regex := .set s.set, depth := s.depth })
  | .count k       => st.readCount? k c
  | .boundary name => st.readBoundary? name c
  | .opened        =>
    if c == '?' then some { st with point := .question }
    else st.openNumbered.readPiece? .plain c
  | .question      =>
    if c == 'P' then some { st with point := .announced }
    else if c == '<' then some { st with point := .name [] }
    else st.readFlags? { flags := st.flags } c
  | .announced     => if c == '<' then some { st with point := .name [] } else none
  | .name read     => st.readName? read c
  | .flags l       => st.readFlags? l c

def skipsSpace (st : State) : Bool :=
  match st.point with
  | .escape e  => e.skipsSpace
  | .bracket b => b.skipsSpace
  | .piece _ | .count _ | .boundary _ | .opened => true
  | .question | .announced | .name _ | .flags _ => false

def pass (st : State) (c : Char) : State :=
  match st.point with
  | .piece .counted => st
  | .piece _        => { st with point := .piece .plain }
  | .bracket b      => { st with point := .bracket (b.pass c) }
  | _               => st

def settle (st : State) (c : Char) : State :=
  match st.point with
  | .bracket b => { st with point := .bracket (b.settle c) }
  | _          => st

def step? (st : State) (c : Char) : Option State :=
  if st.comment then some { st.pass c with comment := c != '\n' }
  else
    let st := st.settle c
    if st.flags.extended && st.skipsSpace && (Unicode.isWhiteSpace c || c == '#') then
      some { st.pass c with comment := c == '#' }
    else st.readPoint? c

def read? (st : State) (text : List Char) : Option State :=
  text.foldlM step? st

def finish? (st : State) : Option Piece :=
  match st.point, st.outer with
  | .piece _, [] => some st.group.content
  | _, _         => none

theorem read?_append (st : State) (s t : List Char) :
    st.read? (s ++ t) = (st.read? s).bind (·.read? t) := by
  simp [read?, List.foldlM_append]

end State

def piece? (pattern : List Char) : Option Piece :=
  (State.read? {} pattern).bind State.finish?

def maxNesting : Nat :=
  250

end Parser

-- The expression that a pattern denotes, unless the pattern is malformed or nested too deep.
def parse? (pattern : List Char) : Option Regex :=
  ((Parser.piece? pattern).filter (·.depth ≤ Parser.maxNesting)).map (·.regex)

def escape (text : List Char) : List Char :=
  text.flatMap fun c => if Parser.Escape.isMeta c then ['\\', c] else [c]

end ExcerptSearch.Regex
