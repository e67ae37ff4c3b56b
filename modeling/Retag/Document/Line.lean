import Retag.Text.Bytes

/-!
Lines of a document. A line ends with a line feed, and a carriage return in front of that line feed
belongs to the terminator; what follows the last line feed is a line of its own unless it is empty.
-/

set_option autoImplicit false

namespace Retag

inductive LineEnding where
  | lf
  | crlf
  deriving DecidableEq, Repr, Inhabited

def LineEnding.bytes : LineEnding → Bytes
  | .lf => [10]
  | .crlf => [13, 10]

namespace Document

/-- The document cut behind each line feed, terminators kept. -/
def pieces : Bytes → List Bytes
  | [] => []
  | byte :: rest =>
      if byte = 10 then [byte] :: pieces rest
      else
        match pieces rest with
        | [] => [[byte]]
        | piece :: more => (byte :: piece) :: more

/-- A piece without its line feed and the carriage return in front of it. -/
def stripTerminator (piece : Bytes) : Bytes :=
  if piece.getLast? = some 10 then
    let body := piece.dropLast
    if body.getLast? = some 13 then body.dropLast else body
  else piece

def lines (content : Bytes) : List Bytes := (pieces content).map stripTerminator

end Document

end Retag
