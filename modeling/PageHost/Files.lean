import PageHost.Text.Utf8
/-!
# Files

A file system as far as the host reads it: a function that says what a path leads
to. Reading a path is then a function of the path and that description. Paths are
bytes; a slash at the end of a path asks for a directory.
-/

namespace PageHost

/-- What a path leads to. -/
inductive FileState where
  | directory
  | contents (bytes : List UInt8)

/-- What each path leads to, given without slashes at its end. -/
abbrev Files : Type := List UInt8 → Option FileState

/-- Why a file cannot be read. -/
inductive FileError where
  | invalidUrl
  | directory
  | missing
  | notADirectory
  | nameTooLong
  | zeroInName
  | notText
deriving Repr, DecidableEq

/-- The text of an error. -/
def FileError.message : FileError → String
  | .invalidUrl => "invalid file URL"
  | .directory => "path is a directory"
  | .missing => "No such file or directory (os error 2)"
  | .notADirectory => "Not a directory (os error 20)"
  | .nameTooLong => "File name too long (os error 36)"
  | .zeroInName => "file name contained an unexpected NUL byte"
  | .notText => "stream did not contain valid UTF-8"

namespace Files

/-- No files at all. -/
def none : Files := fun _ => Option.none

/-- A path without the slashes at its end. -/
def bare (path : List UInt8) : List UInt8 := (path.reverse.dropWhile (· == 47)).reverse

/-- The last segment of a path. -/
def nameOf (path : List UInt8) : List UInt8 :=
  ((path.reverse.dropWhile (· == 47)).takeWhile (· != 47)).reverse

/-- The longest name of a file, in bytes. -/
def longestName : Nat := 255

/-- The bytes of the file at a path. -/
def read (files : Files) (path : List UInt8) : Except FileError (List UInt8) :=
  if path.contains 0 then .error .zeroInName
  else
    match files (bare path) with
    | some .directory => .error .directory
    | some (.contents bytes) => if bare path = path then .ok bytes else .error .notADirectory
    | Option.none => .error (if longestName < (nameOf path).length then .nameTooLong else .missing)

end Files

end PageHost
