import Retag.FileSystem.Disk

/-!
Changes to a disk made from outside a run, and the difference between two file systems. An outside
change makes the directories it needs and always succeeds where the path can exist at all.
-/

set_option autoImplicit false

namespace Retag

inductive Arrangement where
  | file (content : Bytes)
  | directory
  | link (target : Bytes)
  | absent
  deriving DecidableEq, Repr

namespace Disk

/-- Writes a file at a location, behind at most `links` links that stand there. -/
def writeThrough (content : Bytes) : (links : Nat) → Location → FileSystem → FileSystem
  | 0, _, files => files
  | links + 1, location, files =>
      match files.get? location with
      | some (.link target) =>
          let route := Path.route target
          match files.locate location.tail route with
          | .ok place =>
              match place.location? with
              | some next => writeThrough content links next files
              | none => files
          | .error _ => files
      | some .directory => files
      | _ => files.put location (.file content)

def arrange (disk : Disk) (path : Bytes) (arrangement : Arrangement) : Disk :=
  let route := Path.route path
  let quiet := { disk with faults := [] }
  let ready :=
    if arrangement = .absent then disk
    else { disk with files := (createWithin route.enclosing quiet).2.files }
  match ready.files.locate ready.workingDirectory route with
  | .error _ => ready
  | .ok place =>
      match place.location? with
      | none => ready
      | some location =>
          match arrangement with
          | .file content => { ready with files := writeThrough content linkLimit location ready.files }
          | .directory =>
              if (ready.files.get? location).isSome then ready
              else { ready with files := ready.files.put location .directory }
          | .link target => { ready with files := ready.files.put location (.link target) }
          | .absent => { ready with files := ready.files.eraseTree location }

end Disk

namespace FileSystem

/-- The path from a directory down to a location below it, if all names on it are plain. -/
def pathBelow? (directory : Location) : Location → Option Bytes
  | .plain name :: parent =>
      if parent = directory then some name
      else (pathBelow? directory parent).map fun path => path ++ 47 :: name
  | _ => none

/-- Paths below a directory at which two file systems differ, in byte order, with what stands there
in the second. -/
def differences (directory : Location) (before after : FileSystem) :
    List (Bytes × Option Entry) :=
  let gone := before.entries.filterMap fun entry =>
    if (after.get? entry.1).isSome then none
    else (pathBelow? directory entry.1).map fun path => (path, none)
  let changed := after.entries.filterMap fun entry =>
    if before.get? entry.1 = some entry.2 then none
    else (pathBelow? directory entry.1).map fun path => (path, some entry.2)
  (gone ++ changed).mergeSort fun left right => decide (left.1 ≤ right.1)

end FileSystem

end Retag
