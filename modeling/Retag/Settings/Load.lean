import Retag.Action
import Retag.Settings.Decode
import Retag.Settings.Warning
import Retag.Toml.Parse

/-!
Finding and loading settings. One file at most is read: an explicit one, which must load, or else
the project's, or else the user's, where each is used only if it is a regular file. Variables of the
environment come on top.
-/

set_option autoImplicit false

namespace Retag.Settings

abbrev Loaded := Settings × List Warning

def ofContent (file content : String) : Except Failure Loaded :=
  match Toml.parse? content with
  | none => .error (.invalidSettings file .notToml)
  | some document =>
      match decode document with
      | .error error => .error (.invalidSettings file (.misshapen (error.report content)))
      | .ok settings => .ok (settings, (unknownKeys document).map (Warning.ofKey file content))

/-- Loads the settings file at a path. Failures and warnings name the path as a text. -/
def loadFrom (path : Bytes) : Action Loaded := do
  let location ← Action.attempt .io (Disk.openEntry path)
  let bytes ← Action.attempt .io (Disk.read location)
  match bytes.text? with
  | none => throw (.io .notUtf8)
  | some content => (ofContent path.display content : Except Failure Loaded)

def load (file : String) : Action Loaded := loadFrom (Bytes.ofText file)

def projectFile : String := "doxytag.toml"

def presentFile (path : Bytes) : Action (Option Bytes) := do
  return if ← Action.ask (Disk.isFile path) then some path else none

def chooseFile (environment : Environment) (explicit? : Option String) : Action (Option Bytes) :=
  match explicit? with
  | some file => return some (Bytes.ofText file)
  | none => do
      match ← presentFile (Bytes.ofText projectFile) with
      | some file => return some file
      | none =>
          match environment.userSettings? with
          | some file => presentFile file
          | none => return none

def resolve (environment : Environment) (explicit? : Option String) : Action Loaded := do
  let (settings, warnings) ← match ← chooseFile environment explicit? with
    | some file => do
        Action.note ⟨.settings, .debug, "loading config", [("path", file.display)]⟩
        loadFrom file
    | none => pure ({}, [])
  let settings ← (settings.withEnvironment environment : Except Failure Settings)
  return (settings, warnings)

end Retag.Settings
