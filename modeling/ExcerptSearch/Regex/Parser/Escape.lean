import ExcerptSearch.Regex.Parser.Flags

namespace ExcerptSearch.Regex.Parser

inductive Escape where
  -- The backslash.
  | opened
  -- A letter that announces `width` hexadecimal digits, or some in braces.
  | hex (width : Nat)
  | digits (width : Nat) (read : List Char)
  | braced (read : List Char)
  -- A letter that announces the name of a property, or of its complement if `negated`.
  | property (negated : Bool)
  | propertyName (negated : Bool) (read : List Char)
  deriving DecidableEq

namespace Escape

def metaChars : List Char :=
  ['\\', '.', '+', '*', '?', '(', ')', '|', '[', ']', '{', '}', '^', '$', '#', '&', '-', '~']

def isMeta (c : Char) : Bool :=
  metaChars.contains c

-- May a backslash stand before `c` to no effect but that `c` means itself?
def isSelf (c : Char) : Bool :=
  isMeta c || (c.toNat < 0x80 && !c.isAlphanum && c != '<' && c != '>')

def control? : Char → Option Char
  | 'a' => some '\x07'
  | 'f' => some '\x0c'
  | 't' => some '\t'
  | 'n' => some '\n'
  | 'r' => some '\r'
  | 'v' => some '\x0b'
  | _   => none

def special? (f : Flags) : Char → Option Primitive
  | 'd' => some (.short .digit false)
  | 'D' => some (.short .digit true)
  | 's' => some (.short .space false)
  | 'S' => some (.short .space true)
  | 'w' => some (.short .word false)
  | 'W' => some (.short .word true)
  | 'A' => some (.look .textStart)
  | 'z' => some (.look .textEnd)
  | 'b' => some (.look (.boundary f.alphabet))
  | 'B' => some (.look (.notBoundary f.alphabet))
  | '<' => some (.look (.wordStart f.alphabet))
  | '>' => some (.look (.wordEnd f.alphabet))
  | _   => none

-- The property that stands in braces, by its name alone or by a name and a value with a sign
-- between them, and whether that is the sign of inequality, which is looked for first.
def propertyNamed? (text : List Char) : Option (Unicode.Property × Bool) :=
  match Text.splitAt? ['!', '='] text with
  | some (name, value) => (Unicode.Property.ofValue? name value).map (·, true)
  | none               =>
    match (Text.splitAt? [':'] text).or (Text.splitAt? ['='] text) with
    | some (name, value) => (Unicode.Property.ofValue? name value).map (·, false)
    | none               => (Unicode.Property.ofName? text).map (·, false)

def skipsSpace : Escape → Bool
  | opened => false
  | _      => true

def step? (f : Flags) : Escape → Char → Option (Escape ⊕ Primitive)
  | opened, c =>
    if isSelf c then some (.inr (.literal ⟨c, false⟩))
    else if c == 'p' || c == 'P' then some (.inl (property (c == 'P')))
    else match Text.hexWidth? c, control? c with
      | some w, _    => some (.inl (hex w))
      | none, some d => some (.inr (.literal ⟨d, false⟩))
      | none, none   => (special? f c).map .inr
  | hex w, c =>
    if c == '{' then some (.inl (braced []))
    else (Text.digit? c).map fun _ => .inl (digits w [c])
  | digits w read, c => do
    let _ ← Text.digit? c
    let read := read ++ [c]
    if read.length < w then return .inl (digits w read)
    let d ← Text.charOfHex? read
    return .inr (.literal ⟨d, w == 2⟩)
  | braced read, c =>
    if c == '}' then
      if read.isEmpty then none else (Text.charOfHex? read).map (.inr <| .literal ⟨·, false⟩)
    else (Text.digit? c).map fun _ => .inl (braced (read ++ [c]))
  | property negated, c =>
    if c == '{' then some (.inl (propertyName negated []))
    else if c == '\\' then none
    else (Unicode.Property.ofName? [c]).map (.inr <| .property · negated)
  | propertyName negated read, c =>
    if c == '}' then
      (propertyNamed? read).map fun (p, unequal) => .inr (.property p (negated != unequal))
    else some (.inl (propertyName negated (read ++ [c])))

end Escape
end ExcerptSearch.Regex.Parser
