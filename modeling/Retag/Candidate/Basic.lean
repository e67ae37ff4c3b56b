import Retag.Text.Occurrence

/-!
Files are chosen by name: a name must contain the include marker and must not contain the exclude
marker, wherever in the name they stand. From the name of a chosen file two others are derived, that
of its temporary copy and that of its output. A name is split at its last dot, but a dot in front
belongs to the stem.
-/

set_option autoImplicit false

namespace Retag

structure Markers where
  includes : String
  excludes : String
  deriving DecidableEq, Repr

/-- An empty exclude marker excludes nothing. -/
def Markers.accept (markers : Markers) (name : String) : Bool :=
  Occurrence.contains markers.includes.toList name.toList &&
    (markers.excludes.isEmpty || !Occurrence.contains markers.excludes.toList name.toList)

namespace FileName

/-- The parts of a name around its last dot, the dot in front of the second; `none` without dot. -/
def splitLastDot? : List Char → Option (List Char × List Char)
  | [] => none
  | char :: rest =>
      match splitLastDot? rest with
      | some (stem, extension) => some (char :: stem, extension)
      | none => if char = '.' then some ([], char :: rest) else none

/-- Stem and extension; the extension is empty or starts with the dot. -/
def split (name : List Char) : List Char × List Char :=
  match splitLastDot? name with
  | some ([], _) => (name, [])
  | some parts => parts
  | none => (name, [])

def stem (name : String) : String := String.ofList (split name.toList).1

def extension (name : String) : String := String.ofList (split name.toList).2

end FileName

structure Candidate where
  name : String
  /-- Name that the temporary copy read during conversion is modelled on. -/
  tempName : String
  outputName : String
  deriving DecidableEq, Repr

namespace Candidate

def ofName (name suffix : String) : Candidate where
  name := name
  tempName := FileName.stem name ++ "_temp" ++ FileName.extension name
  outputName := FileName.stem name ++ suffix ++ FileName.extension name

def tempStem (candidate : Candidate) : String := FileName.stem candidate.tempName

def extension (candidate : Candidate) : String := FileName.extension candidate.name

end Candidate

end Retag
