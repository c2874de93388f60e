import ExcerptSearch.Regex.Normal

namespace ExcerptSearch.Regex.Parser

inductive Flag where
  | ignoreCase
  | multiLine
  | dotAll
  | swapGreed
  | unicode
  | crlf
  | extended
  deriving DecidableEq

def Flag.ofChar? : Char → Option Flag
  | 'i' => some ignoreCase
  | 'm' => some multiLine
  | 's' => some dotAll
  | 'U' => some swapGreed
  | 'u' => some unicode
  | 'R' => some crlf
  | 'x' => some extended
  | _   => none

structure Flags where
  ignoreCase : Bool := false
  multiLine  : Bool := false
  dotAll     : Bool := false
  swapGreed  : Bool := false
  unicode    : Bool := true
  crlf       : Bool := false
  extended   : Bool := false
  deriving DecidableEq

inductive ShortClass where
  | digit
  | space
  | word
  deriving DecidableEq

structure Literal where
  char : Char
  byte : Bool := false
  deriving DecidableEq

inductive Primitive where
  | literal (l : Literal)
  | short (k : ShortClass) (negated : Bool)
  | property (p : Unicode.Property) (negated : Bool)
  | look (l : Look)
  deriving DecidableEq

namespace Flags

def set (f : Flags) (v : Bool) : Flag → Flags
  | .ignoreCase => { f with ignoreCase := v }
  | .multiLine  => { f with multiLine := v }
  | .dotAll     => { f with dotAll := v }
  | .swapGreed  => { f with swapGreed := v }
  | .unicode    => { f with unicode := v }
  | .crlf       => { f with crlf := v }
  | .extended   => { f with extended := v }

def alphabet (f : Flags) : Alphabet :=
  if f.unicode then .unicode else .ascii

def fold (f : Flags) (s : CharSet) : CharSet :=
  if !f.ignoreCase then s else if f.unicode then .folded s else .foldedAscii s

-- A set or its complement, which the ASCII mode refuses.
def negate? (f : Flags) (negated : Bool) (s : CharSet) : Option CharSet :=
  if !negated then some s else if f.unicode then some (.compl s) else none

-- A character on its own. A byte beyond ASCII is no character.
def literal? (f : Flags) (l : Literal) : Option Regex :=
  if !f.unicode && l.byte && 0x7f < l.char.toNat then none
  else some (.set (f.fold (.singleton l.char)))

def member? (f : Flags) (l : Literal) : Option Char :=
  if f.unicode || l.char.toNat ≤ 0x7f then some l.char else none

def short? (f : Flags) (k : ShortClass) (negated : Bool) : Option CharSet :=
  f.negate? negated <| match k, f.unicode with
    | .digit, true  => .digit
    | .space, true  => .space
    | .word, true   => .word
    | .digit, false => .asciiDigit
    | .space, false => .asciiSpace
    | .word, false  => .asciiWord

def property? (f : Flags) (p : Unicode.Property) (negated : Bool) : Option CharSet :=
  if f.unicode then f.negate? negated (f.fold (.property p)) else none

def dot? (f : Flags) : Option Regex :=
  if !f.unicode then none
  else if f.dotAll then some (.set .any)
  else if f.crlf then some (.set (.compl (.union (.singleton '\n') (.singleton '\r'))))
  else some (.set (.compl (.singleton '\n')))

def caret (f : Flags) : Regex :=
  .look (if !f.multiLine then .textStart else if f.crlf then .lineStartCrlf else .lineStart)

def dollar (f : Flags) : Regex :=
  .look (if !f.multiLine then .textEnd else if f.crlf then .lineEndCrlf else .lineEnd)

def primitive? (f : Flags) : Primitive → Option Regex
  | .literal l          => f.literal? l
  | .short k negated    => (f.short? k negated).map .set
  | .property p negated => (f.property? p negated).map .set
  | .look l             => some (.look l)

end Flags
end ExcerptSearch.Regex.Parser
