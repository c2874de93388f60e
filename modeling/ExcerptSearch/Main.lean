import ExcerptSearch.Command.Line

namespace ExcerptSearch.Main

def readFile (path : Text) : IO FileState := do
  try
    match String.fromUTF8? (← IO.FS.readBinFile (String.ofList path)) with
    | some s => return .text s.toList
    | none   => return .unreadable
  catch
    | .noFileOrDirectory .. => return .missing
    | _                     => return .unreadable

def variableText? (name : String) : IO (Option Text) := do
  return (← IO.getEnv name).map String.toList

def environment : IO Environment := do
  return {
    configFile := ← variableText? "QSEARCH_CONFIG"
    configDirectory := (← variableText? "XDG_CONFIG_HOME").filter (·.head? == some '/')
    home := (← variableText? "HOME").filter (!·.isEmpty) }

end ExcerptSearch.Main

open ExcerptSearch in
def main (args : List String) : IO UInt32 := do
  let outcome ← CommandLine.run Main.readFile (← Main.environment) (args.map String.toList)
  IO.print (String.ofList outcome.output)
  IO.eprint (String.ofList outcome.errors)
  return outcome.code.toUInt32
