import Retag.Failure
import Retag.FileSystem.Disk
import Retag.Log.Record

/-!
Actions act on a world, a disk and the log written so far, and end in a result or a failure. What
an action did to the world stays when it fails.
-/

set_option autoImplicit false

namespace Retag

structure World where
  disk : Disk
  log : List Log.Record := []

abbrev Action (Result : Type) := ExceptT Failure (StateM World) Result

namespace Action

variable {Result : Type}

def perform (action : Action Result) (world : World) : Except Failure Result × World :=
  action.run.run world

def ofOutcome (outcome : World → Except Failure Result × World) : Action Result :=
  ExceptT.mk fun world => outcome world

def attempt (failure : IoError → Failure) (call : Call Result) : Action Result :=
  ofOutcome fun world =>
    let (outcome, disk) := call world.disk
    (outcome.mapError failure, { world with disk })

def ask (lookUp : Disk → Result × Disk) : Action Result :=
  ofOutcome fun world =>
    let (answer, disk) := lookUp world.disk
    (.ok answer, { world with disk })

def note (record : Log.Record) : Action Unit :=
  ofOutcome fun world => (.ok (), { world with log := world.log ++ [record] })

/-- Makes a temporary entry, uses it, and drops it by the way it was made whatever came of the use. -/
def withTemporary (way : Path.Route) (create : Action Location) (use : Location → Action Result) :
    Action Result := do
  let location ← create
  ofOutcome fun world =>
    let (outcome, world) := (use location).perform world
    (outcome, { world with disk := world.disk.discard way location })

end Action

end Retag
