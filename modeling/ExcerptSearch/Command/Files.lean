import ExcerptSearch.Text

namespace ExcerptSearch

inductive FileState where
  | missing
  -- A directory, or a file that holds no text.
  | unreadable
  | text (t : Text)
  deriving DecidableEq

structure FileTree where
  entries : List (List Text × Option ByteArray) := []

namespace FileTree

def parts (path : Text) : List Text :=
  (path.splitOn '/').filter (!·.isEmpty)

def isDirectory (t : FileTree) (path : List Text) : Bool :=
  path.isEmpty || t.entries.any fun (p, content) =>
    path.isPrefixOf p && (p.length != path.length || content.isNone)

-- The path without dots, which have to stand in a directory, and steps up, which have to lead out
-- of one.
def resolve? (t : FileTree) : List Text → List Text → Option (List Text)
  | done, []      => some done
  | done, p :: ps =>
    if p = ['.'] then if t.isDirectory done then t.resolve? done ps else none
    else if p = ['.', '.'] then
      if done.isEmpty || !t.isDirectory done then none else t.resolve? done.dropLast ps
    else t.resolve? (done ++ [p]) ps

def isStep (part : Text) : Bool :=
  part = ['.'] || part = ['.', '.']

-- What is at a path relative to the directory. Of all that is outside, only the directories around
-- it are there.
def read (t : FileTree) (path : Text) : FileState :=
  if path.isEmpty then .missing
  else if (parts path).all isStep then .unreadable
  else if path.head? = some '/' then .missing
  else match t.resolve? [] (parts path) with
    | none   => .missing
    | some p =>
      if t.isDirectory p then .unreadable
      else if path.getLast? = some '/' then .missing
      else match t.entries.lookup p with
        | some (some content) =>
          match String.fromUTF8? content with
          | some s => .text s.toList
          | none   => .unreadable
        | _ => .missing

def insert (t : FileTree) (path : Text) (content : Option ByteArray) : FileTree :=
  ⟨t.entries ++ [((parts path).filter (· != ['.']), content)]⟩

end FileTree
end ExcerptSearch
