import Retag.Conversion.Basic

/-!
What a batch reports: converted and skipped files, events in the order in which things happen, and
notices, which are events and log records in one order.
-/

set_option autoImplicit false

namespace Retag.Batch

inductive SkipReason where
  | unreadable
  | writeFailed
  deriving DecidableEq, Repr

structure Skipped where
  name : String
  reason : SkipReason
  message : String
  deriving DecidableEq, Repr

structure Report where
  processed : List Converted
  skipped : List Skipped
  deriving DecidableEq, Repr

namespace Report

def isSuccess (report : Report) : Bool := report.skipped.isEmpty

def total (report : Report) : Nat := report.processed.length + report.skipped.length

def writeFailures (report : Report) : Nat :=
  (report.skipped.filter fun file => file.reason = .writeFailed).length

end Report

inductive Event where
  | started (total : Nat)
  | fileWritten (index : Nat) (file : Converted)
  | fileSkipped (index : Nat) (file : Skipped)
  | finished (processed skipped : Nat)
  deriving DecidableEq, Repr

inductive Notice where
  | record (told : Log.Record)
  | event (happened : Event)
  deriving DecidableEq, Repr

namespace Notice

def event? : Notice → Option Event
  | .event happened => some happened
  | .record _ => none

def record? : Notice → Option Log.Record
  | .record told => some told
  | .event _ => none

end Notice

end Retag.Batch
