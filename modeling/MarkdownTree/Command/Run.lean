import MarkdownTree.Command.Help
import MarkdownTree.Config.Decode
import MarkdownTree.Config.Load
import MarkdownTree.Document.Outline
import MarkdownTree.Layout.Json
import MarkdownTree.Layout.Preview
import MarkdownTree.Markdown.Parse
import MarkdownTree.Render.Layout

/-!
# Running a command

A command loads its configuration, reads its input, prints the document, and then says what is wrong
with it on standard error.

* `Outcome` — what a run prints, and its exit code
* `Invocation.perform` — runs a command line
-/

namespace MarkdownTree

/-- What a run prints on standard output and standard error, and its exit code. -/
structure Outcome where
  exitCode : Nat := 0
  output : String := ""
  errors : String := ""
deriving DecidableEq, Repr, Inhabited

/-- Where a command runs: the files, the working directory, and standard input. -/
structure World where
  files : FileTree
  cwd : Path
  input : ByteArray

/-- The exit code of a command line that cannot be read. -/
def usageExitCode : Nat := 2

namespace Outcome

/-- A run that fails for a reason. -/
def failure (reason : String) : Outcome :=
  { exitCode := 1, errors := "Error: " ++ reason ++ "\n" }

/-- A document with a line end. -/
def document (text : String) : String :=
  if text.endsWith "\n" then text else text ++ "\n"

end Outcome

/-- The text of an input. A hyphen stands for standard input. -/
def World.read (w : World) (input : String) : Except FileError String :=
  if input == "-" then FileTree.Entry.readText (.file w.input) else w.files.readText w.cwd input

/-- The layout and the diagnostics of a document in JSON. -/
def Rendering.toJson (r : Rendering) : Json :=
  .obj [("layout", r.layout.toJson), ("diagnostics", .arr (r.diagnostics.map Diagnostic.toJson))]

/-- A document and its rendering in a format. -/
def Format.show (f : Format) (doc : Document) (r : Rendering) : String :=
  match f with
  | .text => r.layout.preview
  | .json => r.toJson.text
  | .ast => doc.dump

/-- What is said about diagnostics: each of them, unless they have been logged, and their number. -/
def diagnosticLines (verbose : Bool) (ds : List Diagnostic) : String :=
  if ds.isEmpty then ""
  else
    let warnings := if verbose then [] else ds.map fun d => "warning: " ++ d.message ++ "\n"
    String.join warnings ++ toString ds.length ++ " node(s) rendered with diagnostics\n"

/-- Prints a rendered text. -/
def Config.render (c : Config) (verbose strict : Bool) (text : String) : Outcome :=
  let doc := Document.parse c.parseOptions text
  let rendering := doc.render .none c.maxDepth
  let output := Outcome.document (c.format.show doc rendering)
  let errors := diagnosticLines verbose rendering.diagnostics
  if strict && !rendering.diagnostics.isEmpty then
    { exitCode := 1, output, errors := errors ++ "Error: document contains misplaced nodes\n" }
  else { output, errors }

/-- Prints the outline of a text. -/
def Config.outline (c : Config) (text : String) : Outcome :=
  { output := Outcome.document (Document.parse c.parseOptions text).dump }

/-- What the options of a command set. -/
def Given.settings (g : Given) : CommandSettings :=
  { format := g.format
    maxDepth := g.maxDepth
    fadeOut := if g.has .fadeOut then some true else none
    gfm := if g.has .noGfm then some false else none }

/-- Runs a command. -/
def World.run (w : World) (command : CommandName) (verbose : Bool) (g : Given) (input : String) :
    Outcome :=
  match Config.load FileSettings.decode? w.files w.cwd g.config (some g.settings) with
  | .error e => .failure e.message
  | .ok c =>
    match w.read input with
    | .error e => .failure e.message
    | .ok text =>
      match command with
      | .render => c.render verbose (g.has .strict) text
      | .ast => c.outline text

/-- Runs a command line. A line that cannot be read prints how the program is used. -/
def Invocation.perform (w : World) : Invocation → Outcome
  | .run command verbose g input => w.run command verbose g input
  | .help topic => { output := topic.text }
  | .version => { output := programName ++ " " ++ programVersion ++ "\n" }
  | .usage => { exitCode := usageExitCode, errors := HelpTopic.program.text }

end MarkdownTree
