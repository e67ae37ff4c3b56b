import Retag.Command.Message
import Retag.Failure
import Retag.FileSystem.Disk
import Retag.Log.Filter

/-!
What a command leaves behind: the lines it printed on either stream, its exit status and the disk.
Log records and failures go to the error stream. A failure is shown with its causes below it.
-/

set_option autoImplicit false

namespace Retag.Command

inductive Stream where
  | output
  | error
  deriving DecidableEq, Repr

structure Line where
  stream : Stream
  text : String
  deriving DecidableEq, Repr

def Line.out (text : String) : Line := ⟨.output, text⟩

def Line.err (text : String) : Line := ⟨.error, text⟩

def Message.line (message : Message) : Line := .out message.json.text

def logLines (filter : Log.Filter) (records : List Log.Record) : List Line :=
  (records.filter filter.shows).map fun record => .err record.text

structure Outcome where
  lines : List Line
  status : Nat
  disk : Disk

namespace Outcome

def after (earlier : List Line) (outcome : Outcome) : Outcome :=
  { outcome with lines := earlier ++ outcome.lines }

def printed (outcome : Outcome) (stream : Stream) : List String :=
  (outcome.lines.filter fun line => line.stream = stream).map Line.text

end Outcome

namespace Trouble

/-- A text whose later lines are indented as far as the given blanks. -/
def hanging (blanks text : String) : String :=
  String.ofList (text.toList.flatMap fun char => if char = '\n' then '\n' :: blanks.toList else [char])

/-- A single cause stands on its own, several are numbered. -/
def causeTexts : List String → List String
  | [] => []
  | [cause] => ["", "Caused by:", "    " ++ hanging "    " cause]
  | causes =>
      "" :: "Caused by:" :: causes.zipIdx.map fun (cause, index) =>
        "    " ++ toString index ++ ": " ++ hanging "       " cause

def lines (summary : String) (causes : List String) : List Line :=
  (("Error: " ++ summary) :: causeTexts causes).map Line.err

def ofFailure (failure : Failure) : List Line :=
  lines failure.message (failure.cause?.toList.map IoError.message)

/-- A failure while settings are loaded is itself a cause. -/
def ofLoading (failure : Failure) : List Line :=
  lines "failed to load doxytag configuration"
    (failure.message :: failure.cause?.toList.map IoError.message)

end Trouble

end Retag.Command
