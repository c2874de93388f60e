import ExcerptSearch.Decimal.Basic
import ExcerptSearch.Toml.Basic

namespace ExcerptSearch.Toml
open Text (digit? valueOf)

-- The digits of a run in which single underscores may stand between digits.
def digitRun? (base : Nat) (t : Text) : Option Text :=
  let isDigit (c : Char) := (digit? c).any (· < base)
  let parts := t.splitOn '_'
  if parts.all fun p => !p.isEmpty && p.all isDigit then some parts.flatten else none

def decimal? (t : Text) : Option Nat := do
  let ds ← digitRun? 10 t
  if 1 < ds.length && ds.head? = some '0' then none else some (valueOf 10 ds)

def signed : Text → Bool × Text
  | '-' :: t => (true, t)
  | '+' :: t => (false, t)
  | t        => (false, t)

def integer? (t : Text) : Option Int :=
  match t with
  | '0' :: 'x' :: ds => (digitRun? 16 ds).map fun ds => (valueOf 16 ds : Int)
  | '0' :: 'o' :: ds => (digitRun? 8 ds).map fun ds => (valueOf 8 ds : Int)
  | '0' :: 'b' :: ds => (digitRun? 2 ds).map fun ds => (valueOf 2 ds : Int)
  | t                =>
    let (negative, ds) := signed t
    (decimal? ds).map fun n => if negative then -(n : Int) else n

def isExponentMark (c : Char) : Bool :=
  c == 'e' || c == 'E'

def fraction? : Text → Option Text
  | []     => some []
  | _ :: t => digitRun? 10 t

def exponent? : Text → Option Int
  | []     => some 0
  | _ :: t =>
    let (negative, ds) := signed t
    (digitRun? 10 ds).map fun ds => if negative then -(valueOf 10 ds : Int) else valueOf 10 ds

def decimalFloat? (t : Text) : Option Decimal := do
  let mantissa := t.takeWhile (!isExponentMark ·)
  let exponent := t.dropWhile (!isExponentMark ·)
  let whole    := mantissa.takeWhile (· != '.')
  let fraction := mantissa.dropWhile (· != '.')
  let n ← decimal? whole
  let ds ← fraction? fraction
  let e ← exponent? exponent
  if fraction.isEmpty && exponent.isEmpty then none
  else some ⟨n * Nat.pow 10 ds.length + valueOf 10 ds, e - ds.length⟩

def float? (t : Text) : Option Toml :=
  let (_, u) := signed t
  if u = ['i', 'n', 'f'] || u = ['n', 'a', 'n'] then some (.float false)
  else (decimalFloat? u).map fun d => .float d.exceedsFloat

def fixed? (n : Nat) (t : Text) : Option (Nat × Text) :=
  let ds := t.take n
  if ds.length = n && ds.all Char.isDigit then some (valueOf 10 ds, t.drop n) else none

def daysInMonth (year month : Nat) : Nat :=
  match month with
  | 2 => if year % 4 = 0 && (year % 100 ≠ 0 || year % 400 = 0) then 29 else 28
  | 4 | 6 | 9 | 11 => 30
  | _ => 31

def skip? (c : Char) : Text → Option Text
  | d :: t => if d == c then some t else none
  | []     => none

def date? (t : Text) : Option Text := do
  let (year, t) ← fixed? 4 t
  let (month, t) ← fixed? 2 (← skip? '-' t)
  let (day, t) ← fixed? 2 (← skip? '-' t)
  if 1 ≤ month && month ≤ 12 && 1 ≤ day && day ≤ daysInMonth year month then some t else none

def time? (t : Text) : Option Text := do
  let (hour, t) ← fixed? 2 t
  let (minute, t) ← fixed? 2 (← skip? ':' t)
  if 23 < hour || 59 < minute then none
  else match t with
    | ':' :: t => do
      let (second, t) ← fixed? 2 t
      if 60 < second then none
      else match t with
        | '.' :: t =>
          if (t.takeWhile Char.isDigit).isEmpty then none else some (t.dropWhile Char.isDigit)
        | t        => some t
    | t        => some t

def offset? : Text → Option Text
  | []     => some []
  | c :: t =>
    if c == 'Z' || c == 'z' then some t
    else if c == '+' || c == '-' then do
      let (hour, t) ← fixed? 2 t
      let (minute, t) ← fixed? 2 (← skip? ':' t)
      if 23 < hour || 59 < minute then none else some t
    else none

def isTimeMark (c : Char) : Bool :=
  c == 'T' || c == 't' || c == ' '

def isDatetime (t : Text) : Bool :=
  match date? t with
  | some []       => true
  | some (c :: t) => isTimeMark c && ((time? t).bind offset?) == some []
  | none          => time? t == some []

def scalar? (t : Text) : Option Toml :=
  if t = ['t', 'r', 'u', 'e'] then some (.boolean true)
  else if t = ['f', 'a', 'l', 's', 'e'] then some (.boolean false)
  else match integer? t with
    | some n => some (.integer n)
    | none   => (float? t).or (if isDatetime t then some .datetime else none)

end ExcerptSearch.Toml
