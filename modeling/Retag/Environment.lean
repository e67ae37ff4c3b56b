import Retag.FileSystem.Path

/-!
The environment of a run: variables, and the home directory of the user's account. Values are raw
bytes. Settings are read from values that are texts, and one that is not UTF-8 counts as unset there;
directories are taken as they are.
-/

set_option autoImplicit false

namespace Retag

structure Environment where
  values : List (String × Bytes)
  /-- The user's home directory where no variable names one. -/
  accountHome : Option Bytes := none

namespace Environment

def raw? (environment : Environment) (name : String) : Option Bytes := environment.values.lookup name

def get? (environment : Environment) (name : String) : Option String :=
  (environment.raw? name).bind Bytes.text?

def home? (environment : Environment) : Option Bytes :=
  match environment.raw? "HOME" with
  | some home => if home.isEmpty then environment.accountHome else some home
  | none => environment.accountHome

/-- The user's directory for configuration: an absolute `XDG_CONFIG_HOME`, or one below home. -/
def configDirectory? (environment : Environment) : Option Bytes :=
  let belowHome := environment.home?.map fun home => Path.joinRaw home (Bytes.ofText ".config")
  match environment.raw? "XDG_CONFIG_HOME" with
  | some directory => if directory.head? = some 47 then some directory else belowHome
  | none => belowHome

end Environment

end Retag
