/-!
Why a call on the file system failed, and the text shown for it.
-/

set_option autoImplicit false

namespace Retag

inductive IoError where
  | notFound
  | permissionDenied
  | busy
  | alreadyExists
  | notDirectory
  | isDirectory
  | noSpace
  | nameTooLong
  | tooManyLinks
  /-- A path with a zero byte reaches no file system. -/
  | zeroByte
  | notUtf8
  deriving DecidableEq, Repr, Inhabited

namespace IoError

/-- The system's number for the error; errors found before a system call have none. -/
def number? : IoError → Option Nat
  | .notFound => some 2
  | .permissionDenied => some 13
  | .busy => some 16
  | .alreadyExists => some 17
  | .notDirectory => some 20
  | .isDirectory => some 21
  | .noSpace => some 28
  | .nameTooLong => some 36
  | .tooManyLinks => some 40
  | .zeroByte => none
  | .notUtf8 => none

def reason : IoError → String
  | .notFound => "No such file or directory"
  | .permissionDenied => "Permission denied"
  | .busy => "Device or resource busy"
  | .alreadyExists => "File exists"
  | .notDirectory => "Not a directory"
  | .isDirectory => "Is a directory"
  | .noSpace => "No space left on device"
  | .nameTooLong => "File name too long"
  | .tooManyLinks => "Too many levels of symbolic links"
  | .zeroByte => "file name contained an unexpected NUL byte"
  | .notUtf8 => "stream did not contain valid UTF-8"

def message (error : IoError) : String :=
  match error.number? with
  | some number => error.reason ++ " (os error " ++ toString number ++ ")"
  | none => error.reason

end IoError

end Retag
