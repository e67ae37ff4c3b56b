import Retag.FileSystem.Basic
import Retag.FileSystem.Error
import Retag.FileSystem.Path

/-!
From paths to locations. Walking a path looks up one name after another, each in a directory, and
replaces a symbolic link by the path it holds, at most forty times. A path may also be followed up
to its last name only, which is where entries are made, moved and removed.
-/

set_option autoImplicit false

namespace Retag

def longestName : Nat := 255

/-- Paths of this many bytes or more are refused. -/
def pathLimit : Nat := 4096

/-- How many symbolic links one walk may follow. -/
def linkLimit : Nat := 40

namespace FileSystem

/-- Walks names from a location; `follow` goes on behind a symbolic link. -/
def walkNames (files : FileSystem) (follow : Location → List Bytes → Except IoError Location) :
    Location → List Bytes → Except IoError Location
  | location, [] => .ok location
  | location, name :: rest =>
      match files.get? location with
      | some .directory =>
          if name = Path.here then walkNames files follow location rest
          else if name = Path.up then walkNames files follow location.tail rest
          else if longestName < name.length then .error .nameTooLong
          else
            match files.get? (.plain name :: location) with
            | none => .error .notFound
            | some (.link target) =>
                let route := Path.route target
                follow (if route.absolute then [] else location) (route.steps ++ rest)
            | some _ => walkNames files follow (.plain name :: location) rest
      | _ => .error .notDirectory

def walk (files : FileSystem) : (links : Nat) → Location → List Bytes → Except IoError Location
  | 0 => walkNames files fun _ _ => .error .tooManyLinks
  | links + 1 => walkNames files (walk files links)

/-- What any call checks of a written path before it looks at the file system. -/
def parsePath (path : Bytes) : Except IoError Path.Route :=
  if path.contains 0 then .error .zeroByte
  else if path.isEmpty then .error .notFound
  else if pathLimit ≤ path.length then .error .nameTooLong
  else .ok (Path.route path)

def start (workingDirectory : Location) (route : Path.Route) : Location :=
  if route.absolute then [] else workingDirectory

/-- The location that a route leads to; links at its end are followed too. -/
def resolve (files : FileSystem) (workingDirectory : Location) (route : Path.Route) :
    Except IoError Location :=
  files.walk linkLimit (start workingDirectory route) route.steps

/-- A place for an entry: a directory and, unless the route ends in `.`, `..` or nothing, a name. -/
structure Place where
  directory : Location
  name? : Option Bytes
  deriving DecidableEq, Repr

def Place.location? (place : Place) : Option Location :=
  place.name?.map fun name => .plain name :: place.directory

def asDirectory (files : FileSystem) (location : Location) : Except IoError Location :=
  if files.get? location = some .directory then .ok location else .error .notDirectory

/-- The place that a route names; a link at its end is not followed. -/
def locate (files : FileSystem) (workingDirectory : Location) (route : Path.Route) :
    Except IoError Place := do
  let location ← files.walk linkLimit (start workingDirectory route) route.parts.dropLast
  let directory ← files.asDirectory location
  match route.parts.getLast? with
  | none => return ⟨directory, none⟩
  | some name =>
      if name = Path.here ∨ name = Path.up then return ⟨directory, none⟩
      else if longestName < name.length then throw .nameTooLong
      else return ⟨directory, some name⟩

end FileSystem

end Retag
