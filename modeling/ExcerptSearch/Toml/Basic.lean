import ExcerptSearch.Text

namespace ExcerptSearch

inductive Toml.Form where
  -- By a header for a table inside it.
  | implicit
  -- By a header of its own; so is the document itself.
  | header
  -- By a dotted key.
  | dotted
  -- Between braces, which completes it.
  | inline
  deriving DecidableEq

inductive Toml where
  | string (t : Text)
  | integer (n : Int)
  -- A floating-point number; `excessive` if its digits write one that is too large.
  | float (excessive : Bool)
  | boolean (b : Bool)
  | datetime
  | array (elements : List Toml)
  | table (form : Toml.Form) (entries : List (Text × Toml))
  -- The tables of an array that headers fill, the latest first.
  | tables (elements : List (List (Text × Toml)))

namespace Toml

abbrev Entries := List (Text × Toml)

mutual

def isSound : Toml → Bool
  | integer n        => -(Nat.pow 2 127 : Int) ≤ n && n < (Nat.pow 2 128 : Int)
  | float excessive  => !excessive
  | array elements   => allSound elements
  | table _ entries  => entriesSound entries
  | tables elements  => tablesSound elements
  | string _         => true
  | boolean _        => true
  | datetime         => true

def allSound : List Toml → Bool
  | []      => true
  | v :: vs => v.isSound && allSound vs

def entriesSound : List (Text × Toml) → Bool
  | []           => true
  | (_, v) :: es => v.isSound && entriesSound es

def tablesSound : List (List (Text × Toml)) → Bool
  | []        => true
  | es :: ess => entriesSound es && tablesSound ess

end

structure Table where
  form    : Form := .header
  entries : Entries := []

namespace Table

def get? (t : Table) (k : Text) : Option Toml :=
  t.entries.lookup k

def put (t : Table) (k : Text) (v : Toml) : Table :=
  { t with entries := (t.entries.filter (·.1 != k)) ++ [(k, v)] }

def add? (t : Table) (k : Text) (v : Toml) : Option Table :=
  if (t.get? k).isSome then none else some (t.put k v)

-- Changes the table at the end of a path, and creates the tables that are missing on it. A dotted
-- key only leads through tables that no header of their own has completed.
def modify? (dotted : Bool) : List Text → (Table → Option Table) → Table → Option Table
  | [], f, t      => f t
  | k :: ks, f, t =>
    match t.get? k with
    | none => do
      let u ← modify? dotted ks f { form := if dotted then .dotted else .implicit }
      return t.put k (.table u.form u.entries)
    | some (.table form entries) =>
      if form = .inline || (dotted && form = .header) then none
      else do
        let u ← modify? dotted ks f { form, entries }
        return t.put k (.table u.form u.entries)
    | some (.tables (latest :: elements)) => do
      let u ← modify? dotted ks f { entries := latest }
      return t.put k (.tables (u.entries :: elements))
    | some _ => none

-- Sets the value at the end of a dotted key. What only headers have created takes no such value.
def set? (t : Table) (key : List Text) (v : Toml) : Option Table := do
  let last ← key.getLast?
  let path := key.dropLast
  modify? true path (fun u => if !path.isEmpty && u.form != .dotted then none else u.add? last v) t

def openTable? (t : Table) (key : List Text) : Option Table := do
  let last ← key.getLast?
  modify? false key.dropLast (fun u => match u.get? last with
    | none                         => some (u.put last (.table .header []))
    | some (.table .implicit es)   => some (u.put last (.table .header es))
    | some _                       => none) t

def openElement? (t : Table) (key : List Text) : Option Table := do
  let last ← key.getLast?
  modify? false key.dropLast (fun u => match u.get? last with
    | none                    => some (u.put last (.tables [[]]))
    | some (.tables elements) => some (u.put last (.tables ([] :: elements)))
    | some _                  => none) t

end Table
end Toml
end ExcerptSearch
