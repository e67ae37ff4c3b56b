import Retag.Command.Switch

/-!
Help texts. Each says what its topic does, how it is called and what may follow, one row for each
verb or switch with all descriptions in one column.
-/

set_option autoImplicit false

/-! Blanks behind or in front of a text fill it up to a width in characters; a longer text stays as
it is. -/

namespace Retag.Column

def blanks (count : Nat) : String := String.ofList (List.replicate count ' ')

def left (width : Nat) (text : String) : String := text ++ blanks (width - text.length)

def right (width : Nat) (text : String) : String := blanks (width - text.length) ++ text

end Retag.Column

namespace Retag.Command

inductive Topic where
  | program
  | verb (verb : Verb)
  | help
  deriving DecidableEq, Repr

def versionText : String := programName ++ " 0.3.1"

namespace Help

def rows (entries : List (String × String)) : List String :=
  let width := entries.foldl (fun width entry => max width entry.1.length) 0
  entries.map fun entry => "  " ++ Column.left width entry.1 ++ "  " ++ entry.2

def switchEntry (switch : Switch) : String × String :=
  let short := match switch.short? with
    | some letter => String.ofList ['-', letter, ',', ' ']
    | none => "    "
  (short ++ switch.spelling, switch.description)

def switchRows (verb? : Option Verb) : List String :=
  "Options:" :: rows ((switches verb?).map switchEntry)

def helpDescription : String := "Print this message or the help of the given subcommand(s)"

def verbRows : List String :=
  "Commands:" :: rows
    (Verb.all.map (fun verb => (verb.name, verb.description)) ++ [(helpVerb, helpDescription)])

def usage (call : String) : String := "Usage: " ++ programName ++ " " ++ call

def lines : Topic → List String
  | .program =>
      ["Batch converter from LPK-style comment tags to Doxygen tags", "",
        usage "[OPTIONS] <COMMAND>", ""] ++ verbRows ++ [""] ++ switchRows none
  | .verb verb =>
      [verb.description, "", usage (verb.name ++ " [OPTIONS]"), ""] ++ switchRows (some verb)
  | .help =>
      [helpDescription, "", usage (helpVerb ++ " [COMMAND]..."), "", "Arguments:"] ++
        rows [("[COMMAND]...", "Print help for the subcommand(s)")]

end Help

end Retag.Command
