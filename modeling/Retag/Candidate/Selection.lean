import Retag.Action
import Retag.Candidate.Basic

/-!
Selecting candidates: one pass over the source directory, not into directories below it. Regular
files whose names pass the markers become candidates, in byte order of their names. A directory
that cannot be listed to its end gives no candidates at all.
-/

set_option autoImplicit false

namespace Retag.Selection

def examine (source : String) (markers : Markers) (suffix : String) (entry : Bytes) :
    Action (Option Candidate) :=
  match entry.text? with
  | none => do
      let path := Bytes.ofText (Path.join source "") ++ entry
      Action.note ⟨.selection, .warn, "skipping entry with non-UTF-8 name",
        [("path", Bytes.display path)]⟩
      return none
  | some name => do
      if markers.accept name then
        if ← Action.ask (Disk.isFile (Bytes.ofText (Path.join source name))) then
          return some (Candidate.ofName name suffix)
        Action.note ⟨.selection, .debug, "skipping non-file entry", [("name", name)]⟩
      return none

def collect (source : String) (markers : Markers) (suffix : String) :
    List Bytes → Action (List Candidate)
  | [] => do
      Action.attempt (.sourceUnavailable source) Disk.proceed
      return []
  | entry :: rest => do
      Action.attempt (.sourceUnavailable source) Disk.proceed
      let candidate? ← examine source markers suffix entry
      let candidates ← collect source markers suffix rest
      return candidate?.toList ++ candidates

def insertByName (candidate : Candidate) : List Candidate → List Candidate
  | [] => [candidate]
  | first :: rest =>
      if Bytes.ofText candidate.name ≤ Bytes.ofText first.name then candidate :: first :: rest
      else first :: insertByName candidate rest

/-- Candidates in byte order of their names. -/
def sortByName (candidates : List Candidate) : List Candidate := candidates.foldr insertByName []

def select (source : String) (markers : Markers) (suffix : String) : Action (List Candidate) := do
  let directory ← Action.attempt (.sourceUnavailable source) (Disk.openDirectory (Bytes.ofText source))
  let entries ← Action.ofOutcome fun world => (.ok (world.disk.files.listing directory), world)
  let candidates := sortByName (← collect source markers suffix entries)
  Action.note ⟨.selection, .info, "selected candidates",
    [("dir", source), ("count", toString candidates.length)]⟩
  return candidates

end Retag.Selection
