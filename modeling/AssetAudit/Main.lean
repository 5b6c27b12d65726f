import AssetAudit.CommandLine.Snapshot

/-!
# The program

The program reads a snapshot of a computer from its standard input, and runs on it with the given
arguments. What a run prints goes to the standard output, its notices to the standard error.
-/
namespace AssetAudit

def noticeLine (n : Notice) : String :=
  String.ofList (match n.level with
    | .warning => "WARNING ".toList ++ n.message
    | .error => "ERROR ".toList ++ n.message)

def readInput (input : IO.FS.Stream) : IO String := do
  let mut document := ""
  repeat
    let line ← input.getLine
    if line.isEmpty then break
    document := document ++ line
  return document

end AssetAudit

open AssetAudit in
def main (arguments : List String) : IO UInt32 := do
  let document ← readInput (← IO.getStdin)
  match CommandLine.Snapshot.read document.toList with
  | .error message =>
    IO.eprintln (String.ofList message)
    return 2
  | .ok host =>
    let run := CommandLine.run host (arguments.map String.toList)
    for n in run.notices do IO.eprintln (noticeLine n)
    IO.print (String.ofList run.value.output)
    return run.value.code.toUInt32
