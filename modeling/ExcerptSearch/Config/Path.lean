import ExcerptSearch.Text

namespace ExcerptSearch.Path

def join (directory path : Text) : Text :=
  if path.head? = some '/' then path
  else if directory.getLast? = some '/' || directory.isEmpty then directory ++ path
  else directory ++ '/' :: path

def expandHome (home : Option Text) (path : Text) : Text :=
  match path, home with
  | '~' :: '/' :: rest, some home => join home rest
  | _, _                          => path

end ExcerptSearch.Path
