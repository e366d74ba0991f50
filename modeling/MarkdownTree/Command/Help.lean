import MarkdownTree.Command.Options

/-!
# Help

What the program says about itself. Names stand in a column that is as wide as the widest of them.
-/

namespace MarkdownTree

/-- The name of the program. -/
def programName : String := "mdwalk"

/-- The version of the program. -/
def programVersion : String := "0.1.0"

namespace Help

/-- What a command does. -/
def purpose : CommandName → String
  | .render => "Render a markdown file"
  | .ast => "Print the syntax tree of a markdown file"

/-- What the command for help does. -/
def helpPurpose : String :=
  "Print this message or the help of the given subcommand(s)"

/-- Lines of two columns under a heading. -/
def columns (heading : String) (rows : List (String × String)) : String :=
  let width := (rows.map fun r => r.1.length).foldl max 0
  let line (r : String × String) : String :=
    "  " ++ r.1 ++ "".pushn ' ' (width - r.1.length) ++ "  " ++ r.2 ++ "\n"
  "\n" ++ heading ++ ":\n" ++ String.join (rows.map line)

/-- How an option is written. -/
def optionText (o : OptionSpec) : String :=
  let letter := match o.letter with
    | some c => "-" ++ c.toString ++ ", "
    | none => "    "
  let value := match o.value with
    | some name => " <" ++ name ++ ">"
    | none => ""
  letter ++ "--" ++ o.name ++ value

/-- The options of a command. -/
def options (specs : List OptionSpec) : String :=
  columns "Options" (specs.map fun o => (optionText o, o.purpose))

/-- The first lines of a help text. -/
def opening (about usage : String) : String :=
  about ++ "\n\nUsage: " ++ programName ++ " " ++ usage ++ "\n"

end Help

/-- The help text of a topic. -/
def HelpTopic.text : HelpTopic → String
  | .program =>
    Help.opening "Markdown tree renderer - CLI" "[OPTIONS] <COMMAND>" ++
      Help.columns "Commands" [
        (CommandName.render.word, Help.purpose .render),
        (CommandName.ast.word, Help.purpose .ast),
        ("help", Help.helpPurpose)] ++
      Help.options OptionSpec.ofProgram
  | .command c =>
    Help.opening (Help.purpose c) (c.word ++ " [OPTIONS] <INPUT>") ++
      Help.columns "Arguments" [("<INPUT>", "Path to the markdown file, or `-` for stdin")] ++
      Help.options (OptionSpec.ofCommand c)
  | .help =>
    Help.opening Help.helpPurpose "help [COMMAND]..." ++
      Help.columns "Arguments" [("[COMMAND]...", "Print help for the subcommand(s)")]

end MarkdownTree
