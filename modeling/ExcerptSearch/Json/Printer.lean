import ExcerptSearch.Json.Basic

namespace ExcerptSearch.Json

def hexDigit (n : Nat) : Char :=
  Nat.digitChar n

def printChar (c : Char) : Text :=
  match c with
  | '"'    => ['\\', '"']
  | '\\'   => ['\\', '\\']
  | '\x08' => ['\\', 'b']
  | '\x0c' => ['\\', 'f']
  | '\n'   => ['\\', 'n']
  | '\r'   => ['\\', 'r']
  | '\t'   => ['\\', 't']
  | c      =>
    if c.toNat < 0x20 then ['\\', 'u', '0', '0', hexDigit (c.toNat / 16), hexDigit (c.toNat % 16)]
    else [c]

def printText (t : Text) : Text :=
  '"' :: t.flatMap printChar ++ ['"']

-- A string in writing. One without a text is written like the empty one.
def printString (t : Option Text) : Text :=
  printText (t.getD [])

mutual

def print : Json → Text
  | null       => "null".toList
  | bool true  => "true".toList
  | bool false => "false".toList
  | number n   => n
  | string t   => printString t
  | array xs   => '[' :: printElements xs ++ [']']
  | object ms  => '{' :: printMembers ms ++ ['}']

def printElements : List Json → Text
  | []           => []
  | [x]          => x.print
  | x :: y :: xs => x.print ++ ',' :: printElements (y :: xs)

def printMembers : List (Option Text × Json) → Text
  | []                => []
  | [(k, x)]          => printString k ++ ':' :: x.print
  | (k, x) :: m :: ms => printString k ++ ':' :: x.print ++ ',' :: printMembers (m :: ms)

end

def newline (depth : Nat) : Text :=
  '\n' :: List.replicate (2 * depth) ' '

mutual

-- The value on several lines, where its first line is already indented to the depth.
def pretty (depth : Nat) : Json → Text
  | array []  => ['[', ']']
  | object [] => ['{', '}']
  | array xs  => '[' :: prettyElements (depth + 1) xs ++ newline depth ++ [']']
  | object ms => '{' :: prettyMembers (depth + 1) ms ++ newline depth ++ ['}']
  | null      => "null".toList
  | bool b    => print (bool b)
  | number n  => n
  | string t  => printString t

def prettyElements (depth : Nat) : List Json → Text
  | []           => []
  | [x]          => newline depth ++ x.pretty depth
  | x :: y :: xs => newline depth ++ x.pretty depth ++ ',' :: prettyElements depth (y :: xs)

def prettyMembers (depth : Nat) : List (Option Text × Json) → Text
  | []                => []
  | [(k, x)]          => newline depth ++ printString k ++ ':' :: ' ' :: x.pretty depth
  | (k, x) :: m :: ms =>
    newline depth ++ printString k ++ ':' :: ' ' :: x.pretty depth ++
      ',' :: prettyMembers depth (m :: ms)

end

end ExcerptSearch.Json
