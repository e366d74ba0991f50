import MarkdownTree.Command.Run

/-!
# The program

Reads what a command line asks for, runs it, and prints the outcome. Of the files only those are
looked at that the command line may lead to.
-/

namespace MarkdownTree

/-- A path in text, from the root on. -/
def Path.absolute (cwd : Path) (path : String) : Path :=
  let start := if path.startsWith "/" then [] else cwd
  (FileTree.split path).foldl (fun here name => if name == ".." then here.dropLast else here ++ [name])
    start

/-- The paths that a command line may lead to. -/
def Invocation.paths (cwd : Path) : Invocation → List Path
  | .run _ _ g input =>
    (g.config.toList ++ [input]).map (Path.absolute cwd) ++
      (Path.upward cwd).map (· ++ [configName])
  | _ => []

/-- Whether a command line reads standard input. -/
def Invocation.readsInput : Invocation → Bool
  | .run _ _ _ input => input == "-"
  | _ => false

/-- Adds to a file tree what stands at a path, from its first name on. -/
def FileTree.discoverAt (t : FileTree) (path : Path) : IO FileTree := do
  let mut t := t
  for n in List.range path.length do
    let here := path.take (n + 1)
    if (t.entry? here).isNone then
      try
        let contents ← IO.FS.readBinFile ("/" ++ Path.text here)
        t := t.insert here (.file contents)
      catch
        | .noFileOrDirectory .. => return t
        | _ => t := t.insert here .directory
  return t

end MarkdownTree

open MarkdownTree in
/-- Runs the program. -/
def main (args : List String) : IO UInt32 := do
  let invocation := Invocation.ofArgs args
  let cwd := FileTree.split (← IO.currentDir).toString
  let mut files : FileTree := {}
  for path in cwd :: invocation.paths cwd do
    files ← files.discoverAt path
  let input ← if invocation.readsInput then (← IO.getStdin).readBinToEnd else pure .empty
  let outcome := invocation.perform ⟨files, cwd, input⟩
  (← IO.getStdout).putStr outcome.output
  (← IO.getStderr).putStr outcome.errors
  return outcome.exitCode.toUInt32
