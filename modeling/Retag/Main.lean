import Retag.Command.Run
import Retag.FileSystem.Arrange

/-!
The program on a real file system. What a command line may look at is copied to a disk, the command
runs on that disk, and what it changed there is written back.
-/

set_option autoImplicit false

namespace Retag.Program

def variableNames : List String :=
  [ "DOXYTAG_SOURCE", "DOXYTAG_OUTPUT", "DOXYTAG_INCLUDE", "DOXYTAG_EXCLUDE", "DOXYTAG_SUFFIX",
    Settings.lineEndingVariable, "XDG_CONFIG_HOME", "HOME", "RUST_LOG" ]

def readEnvironment : IO Environment := do
  let values ← variableNames.mapM fun name =>
    return (← IO.getEnv name).map fun value => (name, Bytes.ofText value)
  return { values := values.filterMap id }

def trail (path : String) : List String :=
  ((path.splitOn "/").filter (! ·.isEmpty)).foldl
    (fun paths part => paths ++ [paths.getLast?.getD "" ++ "/" ++ part]) []

def copyPlain (disk : Disk) (path : String) : IO Disk := do
  let place := (← IO.currentDir) / path
  if ← place.isDir then return disk.arrange (Bytes.ofText path) .directory
  try
    let content ← IO.FS.readBinFile place
    return disk.arrange (Bytes.ofText path) (.file content.toList)
  catch _ => return disk

/-- Copies one entry; a link leads to the real path behind it. -/
def copyEntry (disk : Disk) (path : String) : IO Disk := do
  let place := (← IO.currentDir) / path
  try
    if (← place.symlinkMetadata).type == .symlink then
      let target := (← IO.FS.realPath place).toString
      let disk ← (trail target).foldlM copyPlain disk
      return disk.arrange (Bytes.ofText path) (.link (Bytes.ofText target))
    else copyPlain disk path
  catch _ => return disk

def copyPath (disk : Disk) (path : String) : IO Disk := do
  let place := (← IO.currentDir) / path
  (trail place.toString).foldlM copyEntry disk

def copyDirectory (disk : Disk) (path : String) : IO Disk := do
  let place := (← IO.currentDir) / path
  let disk ← copyPath disk path
  if ← place.isDir then
    (← place.readDir).toList.foldlM (fun disk entry => copyEntry disk entry.path.toString) disk
  else return disk

def emptyDisk : IO Disk := do
  let directory := (← IO.currentDir).toString
  let disk : Disk := { files := FileSystem.empty, workingDirectory := [] }
  let disk ← (trail directory).foldlM copyEntry disk
  match disk.resolve (Bytes.ofText directory) with
  | .ok location => return { disk with workingDirectory := location }
  | .error _ => return disk

def copyDisk (words : List String) (environment : Environment) : IO Disk := do
  let disk ← emptyDisk
  match Command.Arguments.read words with
  | .error _ => return disk
  | .ok request =>
      let files :=
        request.config.toList ++ Settings.projectFile ::
          (environment.userSettings?.bind Bytes.text?).toList
      let disk ← files.foldlM copyPath disk
      match ((request.settings environment).perform { disk }).1 with
      | .error _ => return disk
      | .ok (settings, _) =>
          (settings.source.toList ++ [settings.output]).foldlM copyDirectory disk

/-- Writes a changed entry back. A file is complete before it takes the place of the one before. -/
def writeBack (change : Bytes × Option Entry) : IO Unit := do
  match change.1.text?, change.2 with
  | some path, some .directory => IO.FS.createDirAll ("/" ++ path)
  | some path, some (.file content) => do
      let growing := "/" ++ path ++ ".part"
      IO.FS.writeBinFile growing content.toByteArray
      IO.FS.rename growing ("/" ++ path)
  | some path, none => IO.FS.removeFile ("/" ++ path)
  | _, _ => return ()

def printLine (line : Command.Line) : IO Unit :=
  match line.stream with
  | .output => IO.println line.text
  | .error => IO.eprintln line.text

end Retag.Program

open Retag in
def main (words : List String) : IO UInt32 := do
  let environment ← Program.readEnvironment
  let disk ← Program.copyDisk words environment
  let outcome := Command.run words environment disk
  (FileSystem.differences [] disk.files outcome.disk.files).forM Program.writeBack
  outcome.lines.forM Program.printLine
  return UInt32.ofNat outcome.status
