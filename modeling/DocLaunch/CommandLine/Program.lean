import DocLaunch.CommandLine.Commands
import DocLaunch.CommandLine.Log

namespace DocLaunch

/-- Everything that can be seen of a run of the program. -/
structure Outcome where
  code : Nat
  output : String
  /-- The lines of the error report, if there is one. -/
  report : Option (List String)
  /-- The log entries that were shown. -/
  log : List Record
  /-- What the program itself wrote to standard error. -/
  errors : String
  /-- Whether nothing at all was written to standard error, by children neither. -/
  quiet : Bool
  files : FileSystem

namespace Program

def entryVariable : String := "DOCMAKE_ENTRY"

def filterVariable : String := "RUST_LOG"

def versionText : String := "docmake 0.1.0\n"

def helpText : String :=
  "Resolve a documentation project from its entry script and run its builder.

Usage: docmake [OPTIONS] <COMMAND>

Commands:
  run     Build the documentation project that contains ENTRY
  root    Print the project root resolved from ENTRY
  config  Project configuration management
  help    Print this message or the help of the given subcommand(s)

Options:
      --log-format <LOG_FORMAT>  Log output format [default: text] [possible values: text, json]
  -v, --verbose...               Verbosity level (-v, -vv, -vvv)
  -h, --help                     Print help
  -V, --version                  Print version
"

def usageText : String :=
  "error: invalid arguments\n\nFor more information, try '--help'.\n"

/-- A run that ends before any command. -/
def stopped (files : FileSystem) : Stop → Outcome
  | .usage => ⟨2, "", none, [], usageText, false, files⟩
  | .help => ⟨0, helpText, none, [], "", true, files⟩
  | .version => ⟨0, versionText, none, [], "", true, files⟩

/-- An error report with its lines numbered. -/
def reportText (report : List String) : String :=
  let numbered := report.mapIdx fun i line => "   " ++ toString i ++ ": " ++ line ++ "\n"
  "Error:\n" ++ String.join numbered

/-- A run of a command: its result and its trace, with the log entries that the filter shows. -/
def finished (format : LogFormat) (filter : LogFilter) (result : Except Fault Int) (w : World) :
    Outcome :=
  let log := (w.events.filterMap Event.record?).filter filter.shows
  let (code, report) := match result with
    | .ok code => (exitByte code, none)
    | .error f => (1, some f.report)
  let errors := String.join (log.map fun r => r.line format ++ "\n") ++
    (report.map reportText).getD ""
  { code, report, log, errors
    output := String.join (w.events.map Event.output)
    quiet := errors.isEmpty && !w.events.any Event.complained
    files := w.files }

def run (setting : Setting) (files : FileSystem) (args : List String) : Outcome :=
  match Invocation.ofArguments (setting.env.get? entryVariable) args with
  | .error stop => stopped files stop
  | .ok invocation =>
    let filter := LogFilter.choose (setting.env.get? filterVariable) invocation.verbosity
    let (result, w) := (perform invocation.command).run setting ⟨files, []⟩
    finished invocation.format filter result w

end Program
end DocLaunch
