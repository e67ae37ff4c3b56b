import Retag.FileSystem.Resolution

/-!
Calls on a file system, as a program makes them. A disk is a file system with a working directory
and a list of faults: the next call takes the next element, and an error there is the call's result
while the files stay as they are. Without faults a call fails only for what the files hold.
-/

set_option autoImplicit false

namespace Retag

structure Disk where
  files : FileSystem
  workingDirectory : Location
  /-- Results forced on the next calls. -/
  faults : List (Option IoError) := []

/-- A call that may fail and may change the disk. -/
abbrev Call (Result : Type) := Disk → Except IoError Result × Disk

namespace Disk

variable {Result : Type}

/-- A call with the given effect on the files, unless a fault takes its place. -/
def call (effect : Disk → Except IoError (Result × FileSystem)) : Call Result := fun disk =>
  let next := { disk with faults := disk.faults.tail }
  match disk.faults.head?.join with
  | some fault => (.error fault, next)
  | none =>
      match effect disk with
      | .error error => (.error error, next)
      | .ok (result, files) => (.ok result, { next with files })

def resolve (disk : Disk) (path : Bytes) : Except IoError Location := do
  disk.files.resolve disk.workingDirectory (← FileSystem.parsePath path)

def stat (search : Disk → Except IoError Location) : Call Entry := call fun disk => do
  let location ← search disk
  match disk.files.get? location with
  | none => throw .notFound
  | some entry => return (entry, disk.files)

/-- Whether a path leads to a regular file. That it cannot be told counts as no. -/
def isFile (path : Bytes) (disk : Disk) : Bool × Disk :=
  match stat (·.resolve path) disk with
  | (.ok (.file _), disk) => (true, disk)
  | (_, disk) => (false, disk)

def isDirectory (route : Path.Route) (disk : Disk) : Bool × Disk :=
  match stat (fun disk => disk.files.resolve disk.workingDirectory route) disk with
  | (.ok .directory, disk) => (true, disk)
  | (_, disk) => (false, disk)

def realPath (path : Bytes) : Call Location := call fun disk => do
  return (← disk.resolve path, disk.files)

/-- Opens an existing entry for reading; a directory opens too. -/
def openEntry (path : Bytes) : Call Location := call fun disk => do
  let location ← disk.resolve path
  if (disk.files.get? location).isNone then throw .notFound
  return (location, disk.files)

def openDirectory (path : Bytes) : Call Location := call fun disk => do
  return (← disk.files.asDirectory (← disk.resolve path), disk.files)

/-- Goes on with something open: the next entry of a listing, the next part of a file. -/
def proceed : Call Unit := call fun disk => .ok ((), disk.files)

def read (location : Location) : Call Bytes := call fun disk =>
  match disk.files.get? location with
  | some (.file content) => .ok (content, disk.files)
  | some .directory => .error .isDirectory
  | _ => .error .notFound

def append (location : Location) (bytes : Bytes) : Call Unit := call fun disk =>
  match disk.files.get? location with
  | some (.file content) => .ok ((), disk.files.put location (.file (content ++ bytes)))
  | some .directory => .error .isDirectory
  | _ => .error .notFound

/-- What stands in front of a temporary file's name: its directory with a slash. An absolute stem
leaves the directory out, as joining paths does. -/
def temporaryBase (directory stem : Bytes) : Bytes :=
  if directory.isEmpty || stem.head? = some 47 then []
  else if directory.getLast? = some 47 then directory
  else directory ++ [47]

def leadLength (disk : Disk) (path : Bytes) : Nat :=
  if path.head? = some 47 then 0
  else disk.workingDirectory.foldr (fun name length => length + name.length + 1) 1

def temporaryName (stem : Bytes) : Bytes := (Path.cut stem).getLast?.getD []

/-- The way to a temporary file: a slash in `stem` leads into a directory below `directory`. -/
def temporaryRoute (directory stem : Bytes) : Path.Route :=
  Path.route (temporaryBase directory stem ++ stem.take (stem.length - (temporaryName stem).length))

/-- Makes an empty temporary file: its name is `stem`, six characters that nothing else uses, and
`extension`. Its path is used as written from the root. -/
def createTemporary (directory stem extension : Bytes) : Call Location := call fun disk => do
  let path := temporaryBase directory stem ++ stem ++ extension
  if path.contains 0 then throw .zeroByte
  if pathLimit ≤ disk.leadLength path + path.length + 6 then throw .nameTooLong
  let parent ← disk.files.asDirectory
    (← disk.files.resolve disk.workingDirectory (temporaryRoute directory stem))
  -- The six characters stand between the last part of the stem and the first of the extension.
  let ends := Path.cut extension
  if 1 < ends.length ∧ ends.tail.all List.isEmpty then throw .isDirectory
  if longestName < (temporaryName stem ++ ends.head?.getD []).length + 6 then throw .nameTooLong
  -- A further part would lie below the name just drawn, which nothing has.
  if 1 < ends.length then throw .notFound
  let location := .temporary disk.files.freshSerial :: parent
  return (location, disk.files.put location (.file []))

/-- Removes a file or a symbolic link, never what a link leads to. -/
def remove (path : Bytes) : Call Unit := call fun disk => do
  let route ← FileSystem.parsePath path
  let place ← disk.files.locate disk.workingDirectory route
  match place.location? with
  -- A path that ends in `.` or `..` names a directory.
  | none => throw .isDirectory
  | some location =>
      match disk.files.get? location with
      | none => throw .notFound
      | some .directory => throw .isDirectory
      | some _ =>
          if route.trailing then throw .notDirectory
          return ((), disk.files.erase location)

/-- Moves a file to a path, in place of the file or link that was there. -/
def rename (source : Location) (path : Bytes) : Call Unit := call fun disk => do
  let route ← FileSystem.parsePath path
  let place ← disk.files.locate disk.workingDirectory route
  match place.location?, disk.files.get? source with
  | none, _ => throw .busy
  | some _, none => throw .notFound
  | some target, some entry =>
      if route.trailing then throw .notDirectory
      if disk.files.get? target = some .directory then throw .isDirectory
      return ((), (disk.files.erase source).put target entry)

/-- Drops a temporary entry by the way it was made. One that was moved away is gone already, and one
that the way does not lead to any more stays; nothing else keeps it. -/
def discard (way : Path.Route) (location : Location) (disk : Disk) : Disk :=
  match disk.files.resolve disk.workingDirectory way with
  | .error _ => disk
  | .ok directory =>
      if directory = location.tail then { disk with files := disk.files.erase location } else disk

def createDirectory (route : Path.Route) : Call Unit := call fun disk => do
  let place ← disk.files.locate disk.workingDirectory route
  match place.location? with
  | none => throw .alreadyExists
  | some location =>
      if (disk.files.get? location).isSome then throw .alreadyExists
      return ((), disk.files.put location .directory)

/-- Makes the first directory, and the ones after it first where it has nowhere to stand. -/
def createWithin : List Path.Route → Call Unit
  | [] => fun disk => (.ok (), disk)
  | route :: enclosing => fun disk =>
      let settle (attempt : Except IoError Unit × Disk) : Except IoError Unit × Disk :=
        match attempt with
        | (.error error, disk) =>
            let (stands, disk) := isDirectory route disk
            (if stands then .ok () else .error error, disk)
        | done => done
      match createDirectory route disk with
      | (.error .notFound, disk) =>
          match createWithin enclosing disk with
          | (.ok (), disk) => settle (createDirectory route disk)
          | failed => failed
      | attempt => settle attempt

/-- Makes a directory and every missing one on the way to it; nothing is to be made for an empty
path. -/
def createDirectories (path : Bytes) : Call Unit := fun disk =>
  if path.isEmpty then (.ok (), disk)
  else
    match FileSystem.parsePath path with
    | .error error => (.error error, disk)
    | .ok route => createWithin (route :: route.enclosing) disk

end Disk

end Retag
