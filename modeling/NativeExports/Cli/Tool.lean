import NativeExports.Cli.Help
/-!
The commands of the export tool, with their flags and descriptions.

Called with modules, the tool builds the export module; `inspect` shows the export table
instead, `pack` turns module descriptions into images, `cache` manages the module cache and
`version` tells the tool's version.  `help` and `completion` are the usual companions of a
command tree.
-/

namespace NativeExports.Cli

/-- The version the tool reports. -/
def toolVersion : String := "0.1.0-dev"

/-- The flags every command takes. -/
def globalFlags : List Flag :=
  [Flag.text "config" "" "path to exportgen.toml (default: search upwards from the working directory)",
    Flag.text "color" "auto" "colorize output (auto|on|off)",
    Flag.switch "timings" "show timing information",
    Flag.switch "detail" "print the full cause chain of errors",
    Flag.number "max-warnings" 100 "maximum number of warnings to show (negative for no limit)",
    Flag.text "trace" "" "trace output file (- for stderr)",
    Flag.text "trace-level" "off" "trace level (off|error|phase|detail|debug)",
    Flag.text "trace-format" "auto" "trace format (auto|text|ndjson)"]

/-- The tool's own command: build an export module. -/
def buildCommand : Command where
  path := []
  use := "exportgen <inputs...> /OUT:<file> [/REF:<file>...] [assembler options...]"
  short := "Generate unmanaged export stubs for managed modules"
  long := "exportgen scans managed modules for static methods carrying an export\n" ++
    "marker, renders a forwarding stub for each one and assembles the stubs into a\n" ++
    "new module with the platform assembler. Options starting with '/' other than\n" ++
    "/OUT and /REF are passed to the assembler unchanged."
  flags := [Flag.switch "keep-il" "keep the generated program file and print its path",
    Flag.switch "print-commands" "print the assembler command line before running it",
    Flag.text "temp-dir" "" "directory for the generated program (default: system temp dir)"]
  passedOn := globalFlags

/-- `inspect`: show the export table. -/
def inspectCommand : Command where
  path := ["inspect"]
  use := "inspect <inputs...> [/REF:<file>...] [/OUT:<file>]"
  short := "Show the export table without running the assembler"
  long := "inspect loads and scans the inputs, allocates ordinals and prints the\n" ++
    "resulting export table. With --il the generated program is printed instead."
  flags := [Flag.switch "il" "print the generated program",
    Flag.number "width" 48 "truncate table cells wider than this (0 disables)"]
  args := .atLeast 1

/-- `pack`: build images from descriptions. -/
def packCommand : Command where
  path := ["pack"]
  use := "pack <description.toml>... [-o <image>]"
  short := "Build module images from TOML descriptions"
  long := "pack turns each TOML module description into a module image. The image\n" ++
    "is written next to the description, named after the module with a .dll\n" ++
    "extension, unless -o (single input) or --out-dir is given."
  flags := [Flag.text "output" "" "output image path (single description only)" (some 'o'),
    Flag.text "out-dir" "" "directory for the produced images",
    Flag.switch "exe" "use the .exe extension for produced images"]
  args := .atLeast 1

/-- `cache`: the group of cache commands. -/
def cacheCommand : Command where
  path := ["cache"]
  use := "cache"
  short := "Manage the global module cache used for reference resolution"
  runnable := false

/-- `cache add`. -/
def cacheAddCommand : Command where
  path := ["cache", "add"]
  use := "add <image>..."
  short := "Install module images into the cache"
  args := .atLeast 1

/-- `cache list`. -/
def cacheListCommand : Command where
  path := ["cache", "list"]
  use := "list"
  short := "List cached module images"
  args := .none

/-- `cache dir`. -/
def cacheDirCommand : Command where
  path := ["cache", "dir"]
  use := "dir"
  short := "Print the cache directory"
  args := .none

/-- `version`: tell the tool's version. -/
def versionCommand : Command where
  path := ["version"]
  use := "version"
  short := "Show exportgen build fingerprints"
  flags := [Flag.switch "hash" "include git commit hash",
    Flag.switch "date" "include build timestamp",
    Flag.switch "full" "show every recorded bit of build metadata",
    Flag.text "format" "pretty" "output format (pretty|json)"]
  args := .none

/-- `help`: the help of any command. -/
def helpCommand : Command where
  path := ["help"]
  use := "help [command]"
  short := "Help about any command"
  long := "Help provides help for any command in the application.\n" ++
    "Simply type exportgen help [path to command] for full details."
  isHelp := true
  completes := .commandNames

/-- `completion`: the group of shell completion scripts. -/
def completionCommand : Command where
  path := ["completion"]
  use := "completion"
  short := "Generate the autocompletion script for the specified shell"
  long := "Generate the autocompletion script for exportgen for the specified shell.\n" ++
    "See each sub-command's help for details on how to use the generated script.\n"
  args := .none
  runnable := false

/-- How to load the completion script of a shell, as its help tells. -/
def shellLong : String → String
  | "bash" => "Generate the autocompletion script for the bash shell.\n\n" ++
    "This script depends on the \x27bash-completion\x27 package.\n" ++
    "If it is not installed already, you can install it via your OS\x27s package manager.\n\n" ++
    "To load completions in your current shell session:\n\n" ++
    "\tsource <(exportgen completion bash)\n\n" ++
    "To load completions for every new session, execute once:\n\n" ++
    "#### Linux:\n\n\texportgen completion bash > /etc/bash_completion.d/exportgen\n\n" ++
    "#### macOS:\n\n\texportgen completion bash > $(brew --prefix)/etc/bash_completion.d/exportgen\n\n" ++
    "You will need to start a new shell for this setup to take effect.\n"
  | "zsh" => "Generate the autocompletion script for the zsh shell.\n\n" ++
    "If shell completion is not already enabled in your environment you will need\n" ++
    "to enable it.  You can execute the following once:\n\n" ++
    "\techo \"autoload -U compinit; compinit\" >> ~/.zshrc\n\n" ++
    "To load completions in your current shell session:\n\n" ++
    "\tsource <(exportgen completion zsh)\n\n" ++
    "To load completions for every new session, execute once:\n\n" ++
    "#### Linux:\n\n\texportgen completion zsh > \"$\x7bfpath[1]\x7d/_exportgen\"\n\n" ++
    "#### macOS:\n\n\texportgen completion zsh > $(brew --prefix)/share/zsh/site-functions/_exportgen\n\n" ++
    "You will need to start a new shell for this setup to take effect.\n"
  | "fish" => "Generate the autocompletion script for the fish shell.\n\n" ++
    "To load completions in your current shell session:\n\n" ++
    "\texportgen completion fish | source\n\n" ++
    "To load completions for every new session, execute once:\n\n" ++
    "\texportgen completion fish > ~/.config/fish/completions/exportgen.fish\n\n" ++
    "You will need to start a new shell for this setup to take effect.\n"
  | "powershell" => "Generate the autocompletion script for powershell.\n\n" ++
    "To load completions in your current shell session:\n\n" ++
    "\texportgen completion powershell | Out-String | Invoke-Expression\n\n" ++
    "To load completions for every new session, add the output of the above command\n" ++
    "to your powershell profile.\n"
  | _ => ""

/-- A completion script command for a shell. -/
def shellCommand (shell : String) : Command where
  path := ["completion", shell]
  use := shell
  short := "Generate the autocompletion script for " ++ shell
  long := shellLong shell
  flags := [Flag.switch "no-descriptions" "disable completion descriptions"]
  args := .none
  flagsInUse := false
  completes := .noFiles

/-- The hidden command that completion scripts call: it takes the words of a command line,
the last one being completed, and prints what may stand in its place.  Called by its alias it
leaves the descriptions out. -/
def requestCommand : Command where
  path := ["__complete"]
  use := "__complete [command-line]"
  short := "Request shell completion choices for the specified command-line"
  long := "__complete is a special command that is used by the shell completion logic\n" ++
    "to request completion choices for the specified command-line."
  aliases := ["__completeNoDesc"]
  hidden := true
  readsFlags := false
  args := .atLeast 1
  flagsInUse := false

/-- The export tool. -/
def tool : Tool where
  name := "exportgen"
  version := toolVersion
  commands := [buildCommand, inspectCommand, packCommand, cacheCommand, cacheAddCommand,
    cacheListCommand, cacheDirCommand, versionCommand, helpCommand, completionCommand] ++
    ["bash", "fish", "powershell", "zsh"].map shellCommand

/-- The export tool with the hidden request command. -/
def requestTool : Tool := { tool with commands := tool.commands ++ [requestCommand] }

/-- The tool a command line is run by: the one with the request command when the line calls
that command, and the plain one otherwise, so that the request command is seen nowhere
else. -/
def toolFor (args : List String) : Tool :=
  if (requestTool.locate args).1 == requestCommand.path then requestTool else tool

end NativeExports.Cli
