import Retag.Text.Bytes

/-!
Written paths. A path is cut at slashes into parts; empty parts are dropped, and a slash at the end
is remembered because it asks for a directory. Joining only concatenates: nothing is normalised.
-/

set_option autoImplicit false

namespace Retag

namespace Path

structure Route where
  absolute : Bool
  parts : List Bytes
  trailing : Bool
  deriving DecidableEq, Repr

/-- The pieces between slashes, empty ones included. -/
def cut : Bytes → List Bytes
  | [] => [[]]
  | byte :: rest =>
      if byte = 47 then [] :: cut rest
      else
        match cut rest with
        | [] => [[byte]]
        | piece :: more => (byte :: piece) :: more

def route (path : Bytes) : Route where
  absolute := path.head? = some 47
  parts := (cut path).filter (! ·.isEmpty)
  trailing := path.getLast? = some 47

def here : Bytes := [46]

def up : Bytes := [46, 46]

/-- The names to walk through; a slash at the end counts as one more `.`. -/
def Route.steps (route : Route) : List Bytes :=
  if route.trailing then route.parts ++ [here] else route.parts

/-- A path below a directory, unless it is absolute itself. -/
def join (directory path : String) : String :=
  if path.startsWith "/" || directory.isEmpty then path
  else if directory.endsWith "/" then directory ++ path
  else directory ++ "/" ++ path

def joinRaw (directory path : Bytes) : Bytes :=
  if path.head? = some 47 || directory.isEmpty then path
  else if directory.getLast? = some 47 then directory ++ path
  else directory ++ 47 :: path

def shorter : (reversedParts : List Bytes) → List (List Bytes)
  | [] => []
  | [_] => []
  | _ :: rest => rest.reverse :: shorter rest

/-- The directories that a path passes through, innermost first. A `.` counts only where a relative
path starts. -/
def Route.enclosing (route : Route) : List Route :=
  let named (parts : List Bytes) := parts.filter (· ≠ here)
  let parts :=
    match route.absolute, route.parts with
    | false, first :: rest => if first = here then here :: named rest else named (first :: rest)
    | _, parts => named parts
  (shorter parts.reverse).map fun parts => { route with parts, trailing := false }

end Path

end Retag
