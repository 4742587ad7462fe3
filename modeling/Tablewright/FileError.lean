namespace Tablewright

/-- The system refuses an operation for one of these causes. Text that is not well encoded, and a
zero character in a file name or in an argument of a program, are found before or after the
operation itself. -/
inductive FileError
  | notFound
  | inputOutput
  | permissionDenied
  | busy
  | alreadyExists
  | notADirectory
  | isADirectory
  | invalidArgument
  | storageFull
  | nameTooLong
  | directoryNotEmpty
  | linkLoop
  | invalidText
  | zeroInName
  | zeroInArgument
  deriving DecidableEq, Repr

namespace FileError

def code? : FileError → Option Nat
  | .notFound => some 2
  | .inputOutput => some 5
  | .permissionDenied => some 13
  | .busy => some 16
  | .alreadyExists => some 17
  | .notADirectory => some 20
  | .isADirectory => some 21
  | .invalidArgument => some 22
  | .storageFull => some 28
  | .nameTooLong => some 36
  | .directoryNotEmpty => some 39
  | .linkLoop => some 40
  | .invalidText | .zeroInName | .zeroInArgument => none

def kind : FileError → String
  | .notFound => "NotFound"
  | .inputOutput => "Uncategorized"
  | .permissionDenied => "PermissionDenied"
  | .busy => "ResourceBusy"
  | .alreadyExists => "AlreadyExists"
  | .notADirectory => "NotADirectory"
  | .isADirectory => "IsADirectory"
  | .invalidArgument => "InvalidInput"
  | .storageFull => "StorageFull"
  | .nameTooLong => "InvalidFilename"
  | .directoryNotEmpty => "DirectoryNotEmpty"
  | .linkLoop => "FilesystemLoop"
  | .invalidText => "InvalidData"
  | .zeroInName => "InvalidInput"
  | .zeroInArgument => "InvalidInput"

def description : FileError → String
  | .notFound => "No such file or directory"
  | .inputOutput => "Input/output error"
  | .permissionDenied => "Permission denied"
  | .busy => "Device or resource busy"
  | .alreadyExists => "File exists"
  | .notADirectory => "Not a directory"
  | .isADirectory => "Is a directory"
  | .invalidArgument => "Invalid argument"
  | .storageFull => "No space left on device"
  | .nameTooLong => "File name too long"
  | .directoryNotEmpty => "Directory not empty"
  | .linkLoop => "Too many levels of symbolic links"
  | .invalidText => "stream did not contain valid UTF-8"
  | .zeroInName => "file name contained an unexpected NUL byte"
  | .zeroInArgument => "nul byte found in provided data"

def message (error : FileError) : String :=
  match error.code? with
  | some code => s!"{error.description} (os error {code})"
  | none => error.description

end Tablewright.FileError
