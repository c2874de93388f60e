import ExcerptSearch.Unicode.WhiteSpace

namespace ExcerptSearch

abbrev Text := List Char

namespace Text

def dropEndWhile (p : Char → Bool) (t : Text) : Text :=
  (t.reverse.dropWhile p).reverse

def trimStart (t : Text) : Text :=
  t.dropWhile Unicode.isWhiteSpace

def trimEnd (t : Text) : Text :=
  t.dropEndWhile Unicode.isWhiteSpace

def trim (t : Text) : Text :=
  t.trimStart.trimEnd

def isBlank (t : Text) : Bool :=
  t.all Unicode.isWhiteSpace

def before (mark : Text) : Text → Text
  | []      => []
  | c :: cs => if mark.isPrefixOf (c :: cs) then [] else c :: before mark cs

def splitAt? (mark t : Text) : Option (Text × Text) :=
  let front := before mark t
  if front.length < t.length then some (front, t.drop (front.length + mark.length)) else none

def lastIndexOf? (mark : Text) : Text → Option Nat
  | []      => none
  | c :: cs => match lastIndexOf? mark cs with
    | some i => some (i + 1)
    | none   => if mark.isPrefixOf (c :: cs) then some 0 else none

-- The text with `new` in place of every occurrence of `old`, from left to right.
def replace (old new t : Text) : Text :=
  go 0 t
where
  go : Nat → Text → Text
    | _, []            => []
    | skip + 1, _ :: t => go skip t
    | 0, c :: t        =>
      if old.isPrefixOf (c :: t) then new ++ go (old.length - 1) t else c :: go 0 t

def join (mark : Text) (ts : List Text) : Text :=
  mark.intercalate ts

def joinLines (ts : List Text) : Text :=
  join ['\n'] ts

def through? (stop : Char) (t : Text) : Option (Text × Text) :=
  match t.dropWhile (· != stop) with
  | []        => none
  | c :: rest => some (t.takeWhile (· != stop) ++ [c], rest)

theorem length_of_through? {stop : Char} {t s rest : Text} (h : through? stop t = some (s, rest)) :
    rest.length < t.length := by
  have hl := congrArg List.length (List.takeWhile_append_dropWhile (p := (· != stop)) (l := t))
  unfold through? at h
  split at h
  · simp at h
  · rename_i c r hd
    simp only [Option.some.injEq, Prod.mk.injEq] at h
    simp only [hd, List.length_append, List.length_cons, h.2] at hl
    omega

-- The number of bytes before each place of the text, its end included, of which `n` stand before
-- the text.
def utf8Offsets (n : Nat) : Text → List Nat
  | []      => [n]
  | c :: cs => n :: utf8Offsets (n + c.utf8Size) cs

def ofNat (n : Nat) : Text :=
  Nat.toDigits 10 n

def digit? (c : Char) : Option Nat :=
  if '0' ≤ c ∧ c ≤ '9' then some (c.toNat - '0'.toNat)
  else if 'a' ≤ c ∧ c ≤ 'f' then some (c.toNat - 'a'.toNat + 10)
  else if 'A' ≤ c ∧ c ≤ 'F' then some (c.toNat - 'A'.toNat + 10)
  else none

def valueOf (base : Nat) (digits : Text) : Nat :=
  digits.foldl (fun n c => base * n + (digit? c).getD 0) 0

def charOfHex? (digits : Text) : Option Char :=
  let k := valueOf 16 digits
  if k.isValidChar then some (Char.ofNat k) else none

def hexWidth? : Char → Option Nat
  | 'x' => some 2
  | 'u' => some 4
  | 'U' => some 8
  | _   => none

end Text
end ExcerptSearch
