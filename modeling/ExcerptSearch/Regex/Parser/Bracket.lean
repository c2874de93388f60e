import ExcerptSearch.Regex.Parser.Escape
import ExcerptSearch.Regex.Parser.Posix

namespace ExcerptSearch.Regex.Parser

structure SetPiece where
  set   : CharSet
  depth : Nat := 0
  deriving DecidableEq

inductive SetOp where
  | inter
  | diff
  | symmDiff
  deriving DecidableEq

namespace SetOp

def ofChar : Char → SetOp
  | '&' => inter
  | '-' => diff
  | _   => symmDiff

def apply : SetOp → CharSet → CharSet → CharSet
  | inter    => .inter
  | diff     => .diff
  | symmDiff => .symmDiff

end SetOp

namespace Bracket

structure Level where
  negated : Bool := false
  -- What stands before the operator that waits for its right operand.
  left    : Option (SetPiece × SetOp) := none
  -- The members of the operand being read, the latest first.
  items   : List SetPiece := []
  deriving DecidableEq

-- What is seen behind the hyphen after a member. The first character that is not white space tells
-- whether the hyphen stands for itself, as before a closing bracket or another hyphen, or makes a
-- range. A number sign is passed over once, but what stands behind it counts even in a comment.
inductive Ahead where
  -- White space at most.
  | nothing
  -- A number sign that begins a comment, and white space at most.
  | mark
  | decided (alone : Bool)
  deriving DecidableEq

namespace Ahead

def isAlone (c : Char) : Bool :=
  c == '-' || c == ']'

def pass (a : Ahead) (c : Char) : Ahead :=
  if Unicode.isWhiteSpace c then a
  else match a with
    | nothing   => mark
    | mark      => decided (isAlone c)
    | decided _ => a

def verdict (a : Ahead) (c : Char) : Bool :=
  match a with
  | decided alone => alone
  | _             => isAlone c

end Ahead

inductive Point where
  -- A caret, or anything.
  | opened
  -- A hyphen or a closing bracket that stands for itself, or anything.
  | lead
  | body
  -- Behind a character that makes an operator if it is doubled.
  | single (o : Char)
  -- Behind a member that may begin a range.
  | item (p : Primitive)
  -- Behind the hyphen after a member, directly if `adjacent`.
  | dash (p : Primitive) (adjacent : Bool) (ahead : Ahead)
  -- In an escape sequence, which may end the range that `low` began.
  | escape (low : Option Primitive) (e : Escape)
  deriving DecidableEq

end Bracket

structure Bracket where
  level : Bracket.Level := {}
  outer : List Bracket.Level := []
  point : Bracket.Point := .opened
  -- What stands behind the latest bracket, while it may become a named class.
  posix : Option (List Char) := none
  deriving DecidableEq

namespace Bracket

def maxDepth (depths : List Nat) : Nat :=
  depths.foldl max 0

def Level.operand (l : Level) : SetPiece :=
  match l.items with
  | []  => ⟨.empty, 0⟩
  | [p] => p
  | ps  => ⟨.unions (ps.reverse.map (·.set)), 1 + maxDepth (ps.map (·.depth))⟩

def Level.content (l : Level) (f : Flags) : SetPiece :=
  match l.left with
  | none            => l.operand
  | some (p, op) =>
    let q := l.operand
    ⟨op.apply (f.fold p.set) (f.fold q.set), 1 + max p.depth q.depth⟩

def Level.close? (l : Level) (f : Flags) : Option SetPiece :=
  let p := l.content f
  (f.negate? l.negated (f.fold p.set)).map (⟨·, 1 + p.depth⟩)

def add (b : Bracket) (s : SetPiece) : Bracket :=
  { b with level.items := s :: b.level.items, point := .body }

def member? (f : Flags) : Primitive → Option SetPiece
  | .literal l          => (f.member? l).map fun c => ⟨.singleton c, 0⟩
  | .short k negated    => (f.short? k negated).map (⟨·, 0⟩)
  | .property p negated => (f.property? p negated).map (⟨·, 0⟩)
  | .look _             => none

def range? (f : Flags) : Primitive → Primitive → Option SetPiece
  | .literal l, .literal m => do
    let lo ← f.member? l
    let hi ← f.member? m
    if lo ≤ hi then some ⟨.range lo hi, 0⟩ else none
  | _, _ => none

def readBody? (f : Flags) (b : Bracket) (c : Char) : Option (Bracket ⊕ SetPiece) :=
  if c == '[' then
    some (.inl { level := {}, outer := b.level :: b.outer, point := .opened, posix := some [] })
  else if c == ']' then
    (b.level.close? f).map fun s => match b.outer with
      | []         => .inr s
      | l :: outer => .inl (add { b with level := l, outer := outer } s)
  else if c == '&' || c == '-' || c == '~' then some (.inl { b with point := .single c })
  else if c == '\\' then some (.inl { b with point := .escape none .opened })
  else some (.inl { b with point := .item (.literal ⟨c, false⟩) })

def readItem? (f : Flags) (b : Bracket) (p : Primitive) (c : Char) : Option (Bracket ⊕ SetPiece) :=
  if c == '-' then some (.inl { b with point := .dash p true .nothing })
  else do readBody? f (b.add (← member? f p)) c

def operator (f : Flags) (b : Bracket) (op : SetOp) : Bracket :=
  { b with level := { b.level with left := some (b.level.content f, op), items := [] },
           point := .body }

def hyphen : Primitive :=
  .literal ⟨'-', false⟩

def readPoint? (f : Flags) (b : Bracket) (c : Char) : Option (Bracket ⊕ SetPiece) :=
  match b.point with
  | .opened =>
    if c == '^' then some (.inl { b with level.negated := true, point := .lead })
    else readLead c
  | .lead => readLead c
  | .body => readBody? f b c
  | .single o =>
    if c == o then some (.inl (b.operator f (.ofChar o)))
    else readItem? f b (.literal ⟨o, false⟩) c
  | .item p => readItem? f b p c
  | .dash p adjacent ahead =>
    if ahead.verdict c then do
      let b := b.add (← member? f p)
      if c == '-' && adjacent then return .inl (b.operator f .diff)
      readItem? f b hyphen c
    else if c == '\\' then some (.inl { b with point := .escape (some p) .opened })
    else (range? f p (.literal ⟨c, false⟩)).map (.inl <| b.add ·)
  | .escape low e =>
    match e.step? f c with
    | none           => none
    | some (.inl e)  => some (.inl { b with point := .escape low e })
    | some (.inr q)  => match low with
      | none   => some (.inl { b with point := .item q })
      | some p => (range? f p q).map (.inl <| b.add ·)
where
  readLead (c : Char) : Option (Bracket ⊕ SetPiece) :=
    if c == '-' then some (.inl { b.add ⟨.singleton '-', 0⟩ with point := .lead })
    else if c == ']' && b.level.items.isEmpty then some (.inl (b.add ⟨.singleton ']', 0⟩))
    else readBody? f b c

-- Reads one more character: the class goes on or is complete. A bracket whose text turns out to be
-- the name of a class was no bracket of its own.
def step? (f : Flags) (b : Bracket) (c : Char) : Option (Bracket ⊕ SetPiece) :=
  let text := b.posix.map (· ++ [c])
  match text.bind posixClass?, b.outer with
  | some (s, negated), l :: outer =>
    (f.negate? negated (f.fold s)).map fun s =>
      .inl (add { level := l, outer := outer, point := .body, posix := none } ⟨s, 0⟩)
  | _, _ => readPoint? f { b with posix := text.filter isPosixStart } c

def settle (b : Bracket) (c : Char) : Bracket :=
  match b.point with
  | .single o => if c == o then b else { b with point := .item (.literal ⟨o, false⟩) }
  | _         => b

def skipsSpace (b : Bracket) : Bool :=
  match b.point with
  | .single _   => false
  | .escape _ e => e.skipsSpace
  | _           => true

def pass (b : Bracket) (c : Char) : Bracket :=
  match b.point with
  | .dash p _ ahead => { b with point := .dash p false (ahead.pass c), posix := none }
  | _               => { b with posix := none }

end Bracket
end ExcerptSearch.Regex.Parser
