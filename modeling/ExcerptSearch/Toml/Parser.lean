import ExcerptSearch.Toml.Scalar

namespace ExcerptSearch.Toml
open Text (digit? charOfHex? hexWidth?)

def isBlank (c : Char) : Bool :=
  c == ' ' || c == '\t'

def skipBlanks (t : Text) : Text :=
  t.dropWhile isBlank

def isPrintable (c : Char) : Bool :=
  c == '\t' || (0x20 ≤ c.toNat && c.toNat != 0x7f)

def newline? : Text → Option Text
  | '\n' :: t         => some t
  | '\r' :: '\n' :: t => some t
  | _                 => none

def skipComment : Text → Text
  | '#' :: t => t.dropWhile isPrintable
  | t        => t

def lineEnd? (t : Text) : Option Text :=
  match skipComment (skipBlanks t) with
  | [] => some []
  | t  => newline? t

def skipLines : Nat → Text → Text
  | 0, t        => t
  | fuel + 1, t =>
    match newline? (skipComment (skipBlanks t)) with
    | some t => skipLines fuel t
    | none   => skipBlanks t

def escaped? : Char → Option Char
  | 'b'  => some '\x08'
  | 't'  => some '\t'
  | 'n'  => some '\n'
  | 'f'  => some '\x0c'
  | 'r'  => some '\r'
  | 'e'  => some '\x1b'
  | '"'  => some '"'
  | '\\' => some '\\'
  | _    => none

def escape? : Text → Option (Char × Text)
  | []     => none
  | c :: t =>
    match hexWidth? c with
    | some n =>
      let digits := t.take n
      if digits.length = n && digits.all fun d => (digit? d).isSome then
        (charOfHex? digits).map (·, t.drop n)
      else none
    | none   => (escaped? c).map (·, t)

def skipSpace : Text → Text
  | '\r' :: '\n' :: t => skipSpace t
  | c :: t             => if isBlank c || c == '\n' then skipSpace t else c :: t
  | []                 => []

-- The text behind blanks at the end of a line, the line break, and all white space that follows.
def continuation? (t : Text) : Option Text :=
  (newline? (skipBlanks t)).map skipSpace

-- The quotes that end a string of several lines: three, after one or two that belong to it.
def closing? (quote : Char) (t : Text) : Option (Text × Text) :=
  let n := (t.takeWhile (· == quote)).length
  if n < 3 then none
  else
    let inside := min (n - 3) 2
    some (List.replicate inside quote, t.drop (inside + 3))

def lineString? (quote : Char) (escapes : Bool) : Nat → Text → Option (Text × Text)
  | 0, _             => none
  | _ + 1, []        => none
  | fuel + 1, c :: t =>
    if c == quote then some ([], t)
    else if c == '\\' && escapes then do
      let (d, t) ← escape? t
      let (s, t) ← lineString? quote escapes fuel t
      return (d :: s, t)
    else if isPrintable c then (lineString? quote escapes fuel t).map fun (s, t) => (c :: s, t)
    else none

def linesString? (quote : Char) (escapes : Bool) : Nat → Text → Option (Text × Text)
  | 0, _             => none
  | _ + 1, []        => none
  | fuel + 1, c :: t =>
    match closing? quote (c :: t) with
    | some (s, t) => some (s, t)
    | none        =>
      if c == '\\' && escapes then
        match continuation? t with
        | some t => linesString? quote escapes fuel t
        | none   => do
          let (d, t) ← escape? t
          let (s, t) ← linesString? quote escapes fuel t
          return (d :: s, t)
      else if isPrintable c || (newline? (c :: t)).isSome then
        (linesString? quote escapes fuel t).map fun (s, t) => (c :: s, t)
      else none

def string? (quote : Char) (t : Text) : Option (Text × Text) :=
  let escapes := quote == '"'
  if [quote, quote].isPrefixOf t then
    let t := t.drop 2
    linesString? quote escapes (t.length + 1) ((newline? t).getD t)
  else lineString? quote escapes (t.length + 1) t

def isBareKeyChar (c : Char) : Bool :=
  c.isAlphanum || c == '_' || c == '-'

def keyPart? : Text → Option (Text × Text)
  | []     => none
  | c :: t =>
    if c == '"' || c == '\'' then lineString? c (c == '"') (t.length + 1) t
    else
      let word := (c :: t).takeWhile isBareKeyChar
      if word.isEmpty then none else some (word, (c :: t).dropWhile isBareKeyChar)

def keyParts? : Nat → Text → Option (List Text × Text)
  | 0, _        => none
  | fuel + 1, t => do
    let (part, t) ← keyPart? (skipBlanks t)
    match skipBlanks t with
    | '.' :: t =>
      let (parts, t) ← keyParts? fuel t
      return (part :: parts, t)
    | t        => return ([part], t)

def maxDepth : Nat :=
  80

def key? (t : Text) : Option (List Text × Text) :=
  (keyParts? (t.length + 1) t).filter fun (parts, _) => parts.length ≤ maxDepth

def isWordChar (c : Char) : Bool :=
  c.isAlphanum || c == '+' || c == '-' || c == '_' || c == '.' || c == ':'

-- The word that the text begins with. A blank between a date and a time belongs to it.
def word (t : Text) : Text × Text :=
  let first := t.takeWhile isWordChar
  match date? first, t.dropWhile isWordChar with
  | some [], ' ' :: c :: t =>
    if c.isDigit then
      (first ++ ' ' :: (c :: t).takeWhile isWordChar, (c :: t).dropWhile isWordChar)
    else (first, ' ' :: c :: t)
  | _, rest => (first, rest)

mutual

def value? : Nat → Nat → Text → Option (Toml × Text)
  | 0, _, _             => none
  | fuel + 1, depth, t =>
    match depth, t with
    | _, '"' :: t          => (string? '"' t).map fun (s, t) => (.string s, t)
    | _, '\'' :: t         => (string? '\'' t).map fun (s, t) => (.string s, t)
    | depth + 1, '[' :: t  => (elements? fuel depth t).map fun (xs, t) => (.array xs, t)
    | depth + 1, '{' :: t  =>
      (members? fuel depth {} t).map fun (u, t) => (.table .inline u.entries, t)
    | _, t                 =>
      let (w, t) := word t
      (scalar? w).map (·, t)

def elements? : Nat → Nat → Text → Option (List Toml × Text)
  | 0, _, _             => none
  | fuel + 1, depth, t =>
    match skipLines (t.length + 1) t with
    | ']' :: t => some ([], t)
    | t        => do
      let (x, t) ← value? fuel depth t
      match skipLines (t.length + 1) t with
      | ']' :: t => return ([x], t)
      | ',' :: t =>
        let (xs, t) ← elements? fuel depth t
        return (x :: xs, t)
      | _        => none

def members? : Nat → Nat → Table → Text → Option (Table × Text)
  | 0, _, _, _            => none
  | fuel + 1, depth, u, t =>
    match skipLines (t.length + 1) t with
    | '}' :: t => some (u, t)
    | t        => do
      let (k, t) ← key? t
      let (v, t) ← value? fuel depth (skipBlanks (← skip? '=' t))
      let u ← u.set? k v
      match skipLines (t.length + 1) t with
      | '}' :: t => return (u, t)
      | ',' :: t => members? fuel depth u t
      | _        => none

end

structure Document where
  root    : Table := {}
  current : List Text := []

namespace Document

def header? (closing : Text) (t : Text) : Option (List Text × Text) := do
  let (k, t) ← key? t
  if closing.isPrefixOf t then some (k, t.drop closing.length) else none

def line? (d : Document) (t : Text) : Option (Document × Text) :=
  match t with
  | '[' :: '[' :: t => do
    let (k, t) ← header? [']', ']'] t
    return ({ root := ← d.root.openElement? k, current := k }, ← lineEnd? t)
  | '[' :: t        => do
    let (k, t) ← header? [']'] t
    return ({ root := ← d.root.openTable? k, current := k }, ← lineEnd? t)
  | t               => do
    let (k, t) ← key? t
    let (v, t) ← value? (2 * t.length + 2) maxDepth (skipBlanks (← skip? '=' t))
    let root ← d.root.modify? false d.current (·.set? k v)
    return ({ d with root }, ← lineEnd? t)

def lines? : Nat → Document → Text → Option Document
  | 0, _, _        => none
  | fuel + 1, d, t =>
    match skipComment (skipLines (t.length + 1) t) with
    | [] => some d
    | t  => do
      let (d, t) ← d.line? t
      lines? fuel d t

end Document

def parse? (t : Text) : Option Table :=
  let t := match t with
    | '\ufeff' :: t => t
    | t             => t
  (Document.lines? (t.length + 1) {} t).map (·.root)

end ExcerptSearch.Toml
