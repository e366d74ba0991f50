import MarkdownTree.Config.Basic

/-!
# Command lines

A command line names a command, after options for all commands and before options of its own. An
option has a long name after two hyphens, and may have a letter after one. Its value follows as the
next word, or in the same word: after an equals sign, and for a letter also without one. Letters of
options without a value may be written together. After a word of two hyphens, words are no options.

Words are looked at one by one. The first one that is wrong, or that asks for help or the version,
decides what happens.

* `Invocation` — what a command line asks for
* `Invocation.ofArgs` — reads a command line
-/

namespace MarkdownTree

/-- The options of all commands. -/
inductive Switch
  | verbose
  | config
  | format
  | maxDepth
  | fadeOut
  | noGfm
  | strict
  | help
  | version
deriving DecidableEq, Repr, Inhabited

/-- An option: its letter, its name, the name of its value, and what it does. -/
structure OptionSpec where
  switch : Switch
  letter : Option Char
  name : String
  value : Option String
  purpose : String
deriving Repr, Inhabited

/-- The commands. -/
inductive CommandName
  | render
  | ast
deriving DecidableEq, Repr, Inhabited

/-- What there is help for. -/
inductive HelpTopic
  | program
  | command (name : CommandName)
  | help
deriving DecidableEq, Repr, Inhabited

/-- The word for a command. -/
def CommandName.word : CommandName → String
  | .render => "render"
  | .ast => "ast"

/-- The command with a word. -/
def CommandName.ofWord? (word : String) : Option CommandName :=
  [CommandName.render, .ast].find? (·.word == word)

namespace OptionSpec

/-- Says more on standard error. -/
def verbose : OptionSpec :=
  ⟨.verbose, some 'v', "verbose", none, "Enable verbose output (show render diagnostics as logs)"⟩

/-- Prints help. -/
def help : OptionSpec :=
  ⟨.help, some 'h', "help", none, "Print help"⟩

/-- Prints the version. -/
def version : OptionSpec :=
  ⟨.version, some 'V', "version", none, "Print version"⟩

/-- Names a configuration file. -/
def config : OptionSpec :=
  ⟨.config, some 'c', "config", some "CONFIG",
    "Path to configuration file (default: auto-discover mdwalk.toml)"⟩

/-- Leaves out the extensions of GitHub. -/
def noGfm : OptionSpec :=
  ⟨.noGfm, none, "no-gfm", none, "Disable tables, strikethrough and task lists"⟩

/-- The options before the command. -/
def ofProgram : List OptionSpec :=
  [verbose, help, version]

/-- The options of a command. -/
def ofCommand : CommandName → List OptionSpec
  | .render =>
    [config, verbose,
      ⟨.format, some 'f', "format", some "FORMAT",
        "Output format (overrides config) [possible values: text, json, ast]"⟩,
      ⟨.maxDepth, none, "max-depth", some "MAX_DEPTH",
        "Maximum nesting depth (overrides config)"⟩,
      ⟨.fadeOut, none, "fade-out", none,
        "Mark the last paragraph as fading out (overrides config)"⟩,
      noGfm,
      ⟨.strict, none, "strict", none, "Fail when rendering reports misplaced nodes"⟩,
      help]
  | .ast => [config, verbose, noGfm, help]

end OptionSpec

/-- The options and words given to a command so far. -/
structure Given where
  switches : List Switch := []
  config : Option String := none
  format : Option Format := none
  maxDepth : Option Nat := none
  input : Option String := none
deriving DecidableEq, Repr, Inhabited

/-- Why a command line is not read to its end. -/
inductive Halt
  | usage
  | help
  | version
deriving DecidableEq, Repr, Inhabited

/-- A number without sign of at most 64 bits, perhaps after a plus. -/
def count? (s : String) : Option Nat :=
  let digits := match s.toList with
    | '+' :: s => s
    | s => s
  let n := digits.foldl (fun n c => 10 * n + (c.toNat - '0'.toNat)) 0
  if !digits.isEmpty && digits.all Char.isDigit && n ≤ 0xFFFFFFFFFFFFFFFF then some n else none

namespace Given

/-- Whether an option was given. -/
def has (g : Given) (s : Switch) : Bool :=
  g.switches.contains s

/-- Takes note of an option, which may be given once. -/
def note (g : Given) (s : Switch) : Except Halt Given :=
  if g.has s then .error .usage else .ok { g with switches := s :: g.switches }

/-- An option without a value. -/
def raise (g : Given) (o : OptionSpec) : Except Halt Given :=
  match o.switch with
  | .help => .error .help
  | .version => .error .version
  | s => g.note s

/-- An option with its value. -/
def set (g : Given) (o : OptionSpec) (value : String) : Except Halt Given :=
  (g.note o.switch).bind fun g =>
    match o.switch with
    | .config => if value.isEmpty then .error .usage else .ok { g with config := some value }
    | .format =>
      match Format.ofName? value with
      | some f => .ok { g with format := some f }
      | none => .error .usage
    | .maxDepth =>
      match count? value with
      | some n => .ok { g with maxDepth := some n }
      | none => .error .usage
    | _ => .error .usage

/-- A word that is no option. There may be one. -/
def word (g : Given) (w : String) : Except Halt Given :=
  if g.input.isSome || w.isEmpty then .error .usage else .ok { g with input := some w }

/-- An option by its name, with a value after an equals sign if there is one; also the option if its
value is yet to come. -/
def long (specs : List OptionSpec) (g : Given) (text : List Char) :
    Except Halt (Given × Option OptionSpec) :=
  let name := text.takeWhile (· != '=')
  let value := match text.drop name.length with
    | _ :: v => some (String.ofList v)
    | [] => none
  match specs.find? (·.name == String.ofList name) with
  | none => .error .usage
  | some o =>
    match o.value, value with
    | some _, some v => (g.set o v).map (·, none)
    | some _, none => .ok (g, some o)
    | none, some _ => .error .usage
    | none, none => (g.raise o).map (·, none)

/-- Options by their letters; also the last one if its value is yet to come. -/
def letters (specs : List OptionSpec) : Given → List Char → Except Halt (Given × Option OptionSpec)
  | g, [] => .ok (g, none)
  | g, c :: rest =>
    match specs.find? (·.letter == some c) with
    | none => .error .usage
    | some o =>
      match o.value, rest with
      | none, _ => (g.raise o).bind (letters specs · rest)
      | some _, [] => .ok (g, some o)
      | some _, '=' :: value => (g.set o (String.ofList value)).map (·, none)
      | some _, value => (g.set o (String.ofList value)).map (·, none)

/-- Whether a word is an option or two hyphens. -/
def isOption (w : String) : Bool :=
  w.startsWith "-" && w != "-"

/-- An option, long or short. -/
def option (specs : List OptionSpec) (g : Given) (w : String) :
    Except Halt (Given × Option OptionSpec) :=
  match w.toList with
  | '-' :: '-' :: name => long specs g name
  | _ :: cs => letters specs g cs
  | [] => .error .usage

/-- The words of a command. `pending` is an option whose value is the next word. -/
def words (specs : List OptionSpec) : Option OptionSpec → Given → List String → Except Halt Given
  | none, g, [] => .ok g
  | some _, _, [] => .error .usage
  | some o, g, w :: ws =>
    if isOption w then .error .usage else (g.set o w).bind (words specs none · ws)
  | none, g, w :: ws =>
    if w == "--" then ws.foldlM word g
    else if isOption w then (option specs g w).bind fun (g, pending) => words specs pending g ws
    else (g.word w).bind (words specs none · ws)

end Given

/-- What a command line asks for. `input` is the path of the text, or a hyphen for standard
input. -/
inductive Invocation
  | run (command : CommandName) (verbose : Bool) (given : Given) (input : String)
  | help (topic : HelpTopic)
  | version
  | usage
deriving DecidableEq, Repr, Inhabited

namespace Invocation

/-- A command line that is not read to its end. -/
def halt (topic : HelpTopic) : Halt → Invocation
  | .usage => .usage
  | .help => .help topic
  | .version => .version

/-- The words after a command. -/
def ofCommand (command : CommandName) (verbose : Bool) (args : List String) : Invocation :=
  match Given.words (OptionSpec.ofCommand command) none {} args with
  | .error h => halt (.command command) h
  | .ok g =>
    match g.input with
    | some input => .run command (verbose || g.has .verbose) g input
    | none => .usage

/-- The words after the command for help. -/
def ofHelp : List String → Invocation
  | [] => .help .program
  | [word] =>
    match CommandName.ofWord? word with
    | some command => .help (.command command)
    | none => if word == "help" then .help .help else .usage
  | _ => .usage

/-- The words of a command line, with the options so far. -/
def ofWords (g : Given) : List String → Invocation
  | [] => .usage
  | w :: ws =>
    match CommandName.ofWord? w with
    | some command => ofCommand command (g.has .verbose) ws
    | none =>
      if w == "help" then ofHelp ws
      else if Given.isOption w && w != "--" then
        match Given.option OptionSpec.ofProgram g w with
        | .error h => halt .program h
        | .ok (g, _) => ofWords g ws
      else .usage

/-- What a command line asks for. -/
def ofArgs (args : List String) : Invocation :=
  ofWords {} args

end Invocation

end MarkdownTree
