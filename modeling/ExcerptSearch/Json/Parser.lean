import ExcerptSearch.Json.Basic

namespace ExcerptSearch.Json

def isSpace (c : Char) : Bool :=
  c == ' ' || c == '\n' || c == '\t' || c == '\r'

def skipSpace (t : Text) : Text :=
  t.dropWhile isSpace

def unit? (a b c d : Char) : Option Nat := do
  return 4096 * (← Text.digit? a) + 256 * (← Text.digit? b) + 16 * (← Text.digit? c) +
    (← Text.digit? d)

def escaped? : Char → Option Char
  | '"'  => some '"'
  | '\\' => some '\\'
  | '/'  => some '/'
  | 'b'  => some '\x08'
  | 'f'  => some '\x0c'
  | 'n'  => some '\n'
  | 'r'  => some '\r'
  | 't'  => some '\t'
  | _    => none

def isHighSurrogate (k : Nat) : Bool :=
  0xd800 ≤ k && k < 0xdc00

def isLowSurrogate (k : Nat) : Bool :=
  0xdc00 ≤ k && k < 0xe000

-- An element of a string: a character, or half a surrogate pair.
abbrev Element := Char ⊕ Nat

def stringElements? : Text → Option (List Element × Text)
  | []                                   => none
  | '"' :: rest                          => some ([], rest)
  | '\\' :: 'u' :: a :: b :: c :: d :: t => do
    let k ← unit? a b c d
    let (es, rest) ← stringElements? t
    return ((if k.isValidChar then .inl (Char.ofNat k) else .inr k) :: es, rest)
  | '\\' :: c :: t                       => do
    let d ← escaped? c
    let (es, rest) ← stringElements? t
    return (.inl d :: es, rest)
  | c :: t                               =>
    if c.toNat < 0x20 || c == '\\' then none
    else do
      let (es, rest) ← stringElements? t
      return (.inl c :: es, rest)

def textOf? : List Element → Option Text
  | []                     => some []
  | .inl c :: es           => (textOf? es).map (c :: ·)
  | .inr k :: .inr l :: es =>
    if isHighSurrogate k && isLowSurrogate l then
      (textOf? es).map (Char.ofNat (0x10000 + (k - 0xd800) * 0x400 + (l - 0xdc00)) :: ·)
    else none
  | .inr _ :: _            => none

def string? (t : Text) : Option (Option Text × Text) :=
  (stringElements? t).map fun (es, rest) => (textOf? es, rest)

def digits? (t : Text) : Option (Text × Text) :=
  let ds := t.takeWhile Char.isDigit
  if ds.isEmpty then none else some (ds, t.dropWhile Char.isDigit)

def whole? (t : Text) : Option (Text × Text) :=
  match t with
  | '0' :: rest => some (['0'], rest)
  | _           => digits? t

def fraction? : Text → Option (Text × Text)
  | '.' :: t => (digits? t).map fun (ds, rest) => ('.' :: ds, rest)
  | t        => some ([], t)

def exponent? : Text → Option (Text × Text)
  | []      => some ([], [])
  | c :: cs =>
    if c == 'e' || c == 'E' then
      match cs with
      | '+' :: t => (digits? t).map fun (ds, rest) => (c :: '+' :: ds, rest)
      | '-' :: t => (digits? t).map fun (ds, rest) => (c :: '-' :: ds, rest)
      | t        => (digits? t).map fun (ds, rest) => (c :: ds, rest)
    else some ([], c :: cs)

def number? (t : Text) : Option (Text × Text) := do
  let (sign, t) := match t with
    | '-' :: t => (['-'], t)
    | t        => ([], t)
  let (w, t) ← whole? t
  let (f, t) ← fraction? t
  let (e, t) ← exponent? t
  return (sign ++ w ++ f ++ e, t)

mutual

-- The value that a text begins with, behind white space. Each step into an array or object and each
-- step along one takes one unit of `fuel`.
def readValue? : Nat → Text → Option (Json × Text)
  | 0, _        => none
  | fuel + 1, t =>
    match skipSpace t with
    | 'n' :: 'u' :: 'l' :: 'l' :: rest        => some (null, rest)
    | 't' :: 'r' :: 'u' :: 'e' :: rest        => some (bool true, rest)
    | 'f' :: 'a' :: 'l' :: 's' :: 'e' :: rest => some (bool false, rest)
    | '"' :: rest                             =>
      (string? rest).map fun (s, rest) => (string s, rest)
    | '[' :: rest                             =>
      match skipSpace rest with
      | ']' :: rest => some (array [], rest)
      | rest        => (readElements? fuel rest).map fun (xs, rest) => (array xs, rest)
    | '{' :: rest                             =>
      match skipSpace rest with
      | '}' :: rest => some (object [], rest)
      | rest        => (readMembers? fuel rest).map fun (ms, rest) => (object ms, rest)
    | rest                                    =>
      (number? rest).map fun (n, rest) => (number n, rest)

def readElements? : Nat → Text → Option (List Json × Text)
  | 0, _        => none
  | fuel + 1, t => do
    let (x, rest) ← readValue? fuel t
    match skipSpace rest with
    | ']' :: rest => return ([x], rest)
    | ',' :: rest =>
      let (xs, rest) ← readElements? fuel rest
      return (x :: xs, rest)
    | _           => none

def readMembers? : Nat → Text → Option (List (Option Text × Json) × Text)
  | 0, _        => none
  | fuel + 1, t => do
    let '"' :: rest := skipSpace t | none
    let (k, rest) ← string? rest
    let ':' :: rest := skipSpace rest | none
    let (x, rest) ← readValue? fuel rest
    match skipSpace rest with
    | '}' :: rest => return ([(k, x)], rest)
    | ',' :: rest =>
      let (ms, rest) ← readMembers? fuel rest
      return ((k, x) :: ms, rest)
    | _           => none

end

def parse? (t : Text) : Option Json := do
  let (x, rest) ← readValue? (2 * t.length + 2) t
  if (skipSpace rest).isEmpty then some x else none

end ExcerptSearch.Json
