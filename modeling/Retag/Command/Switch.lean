/-!
The verbs of the command line and the switches that each of them knows. A switch stands for itself,
or it takes a value, for which its spelling shows a placeholder.
-/

set_option autoImplicit false

namespace Retag.Command

def programName : String := "doxytag"

inductive Verb where
  | convert
  | list
  | rules
  deriving DecidableEq, Repr

namespace Verb

def all : List Verb := [.convert, .list, .rules]

def name : Verb → String
  | .convert => "convert"
  | .list => "list"
  | .rules => "rules"

def description : Verb → String
  | .convert => "Convert every candidate file into the output directory"
  | .list => "List candidate files and their output names without converting"
  | .rules => "Print the active rule table in application order"

def ofName? (name : String) : Option Verb := all.find? fun verb => verb.name = name

end Verb

def helpVerb : String := "help"

inductive Switch where
  | json
  | verbose
  | source
  | output
  | config
  | includes
  | excludes
  | suffix
  | crlf
  | dryRun
  | help
  | version
  deriving DecidableEq, Repr

namespace Switch

def long : Switch → String
  | .json => "json"
  | .verbose => "verbose"
  | .source => "source"
  | .output => "output"
  | .config => "config"
  | .includes => "include"
  | .excludes => "exclude"
  | .suffix => "suffix"
  | .crlf => "crlf"
  | .dryRun => "dry-run"
  | .help => "help"
  | .version => "version"

def short? : Switch → Option Char
  | .verbose => some 'v'
  | .source => some 's'
  | .output => some 'o'
  | .config => some 'c'
  | .help => some 'h'
  | .version => some 'V'
  | _ => none

def placeholder? : Switch → Option String
  | .source => some "SOURCE"
  | .output => some "OUTPUT"
  | .config => some "CONFIG"
  | .includes => some "INCLUDE"
  | .excludes => some "EXCLUDE"
  | .suffix => some "SUFFIX"
  | _ => none

def takesValue (switch : Switch) : Bool := switch.placeholder?.isSome

def isPath : Switch → Bool
  | .source => true
  | .output => true
  | .config => true
  | _ => false

def repeats : Switch → Bool
  | .verbose => true
  | _ => false

def description : Switch → String
  | .json => "Output format for CI (one JSON object per line)"
  | .verbose => "Verbosity level (-v, -vv, -vvv)"
  | .source => "Directory containing the files to convert"
  | .output => "Directory receiving converted copies"
  | .config => "Config file (defaults to ./doxytag.toml, then the user config)"
  | .includes => "Names must contain this marker"
  | .excludes => "Names containing this marker are ignored"
  | .suffix => "Appended to each output file stem"
  | .crlf => "Terminate output lines with CRLF"
  | .dryRun => "Dry run - show what would be written"
  | .help => "Print help"
  | .version => "Print version"

def spelling (switch : Switch) : String :=
  let name := "--" ++ switch.long
  match switch.placeholder? with
  | some placeholder => name ++ " <" ++ placeholder ++ ">"
  | none => if switch.repeats then name ++ "..." else name

end Switch

/-- The switches that a verb knows, or the program in front of a verb, in the order of the help. -/
def switches : Option Verb → List Switch
  | none => [.json, .verbose, .help, .version]
  | some .convert =>
      [.json, .source, .output, .verbose, .config, .includes, .excludes, .suffix, .crlf, .dryRun,
        .help]
  | some .list =>
      [.json, .source, .output, .verbose, .config, .includes, .excludes, .suffix, .crlf, .help]
  | some .rules => [.config, .json, .verbose, .help]

end Retag.Command
