import ExcerptSearch.Text

namespace ExcerptSearch

inductive Json where
  | null
  | bool (b : Bool)
  -- A number, in writing.
  | number (digits : Text)
  -- A string; it has no text if an escape in it names half a surrogate pair.
  | string (t : Option Text)
  | array (elements : List Json)
  | object (members : List (Option Text × Json))

namespace Json

def ofText (t : Text) : Json :=
  string (some t)

def ofString (s : String) : Json :=
  ofText s.toList

def ofNat (n : Nat) : Json :=
  number (Text.ofNat n)

def ofOption {α : Type} (f : α → Json) : Option α → Json
  | some a => f a
  | none   => null

def ofList {α : Type} (f : α → Json) (l : List α) : Json :=
  array (l.map f)

def record (members : List (String × Json)) : Json :=
  object (members.map fun (k, v) => (some k.toList, v))

def member? (name : String) : Json → Option Json
  | object members => (members.find? fun (k, _) => k == some name.toList).map (·.2)
  | _              => none

def text? : Json → Option Text
  | string t => t
  | _        => none

def elements? : Json → Option (List Json)
  | array xs => some xs
  | _        => none

def nat? : Json → Option Nat
  | number ds =>
    if !ds.isEmpty && ds.all Char.isDigit then
      some (Nat.ofDigitChars 10 ds 0)
    else none
  | _         => none

end Json
end ExcerptSearch
