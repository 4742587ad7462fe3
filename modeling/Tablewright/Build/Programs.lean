import Tablewright.World

namespace Tablewright

/-- A program ends with a status and leaves a complaint. The status of success is zero. -/
structure ProgramEnd where
  status : Nat
  complaint : String := ""
  deriving DecidableEq, Repr

/-- A program may change the world. It gets a list of arguments, and may fail to start. -/
abbrev Programs := (program : String) → (arguments : List String) → Work FileError ProgramEnd

namespace Programs

/-- On a bare system there are two programs. One does nothing and succeeds, and the other does
nothing and fails. -/
def bareEnds : List (Location × ProgramEnd) :=
  [(["usr", "bin", "true"], ⟨0, ""⟩), (["usr", "bin", "false"], ⟨1, ""⟩)]

def folders : List String :=
  ["/usr/local/sbin/", "/usr/local/bin/", "/usr/sbin/", "/usr/bin/", "/sbin/", "/bin/"]

/-- This function starts the program at a path. No other file may be executed. -/
def startAt (files : FileTree) (path : String) : Except FileError ProgramEnd := do
  let place ← files.locate true (.ofText path)
  match files.node? place, bareEnds.lookup place with
  | none, _ => .error .notFound
  | some _, some ended => .ok ended
  | some _, none => .error .permissionDenied

/-- This function starts the first program that can be started. A denied permission is a better
cause than another one. -/
def startFirst (files : FileTree) : List String → Except FileError ProgramEnd
  | [] => .error .notFound
  | path :: others =>
      match startAt files path, startFirst files others with
      | .ok ended, _ => .ok ended
      | .error .permissionDenied, .error _ => .error .permissionDenied
      | .error _, found => found

/-- This function starts a program of a bare system. A program with a slash in its name is a path,
and every other one is searched for in the folders. -/
def start (files : FileTree) (program : String) : Except FileError ProgramEnd :=
  if program.toList.contains '/' then startAt files program
  else if program = "" then .error .notFound
  else if FileTree.maxNameSize < program.utf8ByteSize then .error .nameTooLong
  else startFirst files (folders.map (· ++ program))

/-- The programs of a bare system change nothing. No argument may have a zero character. -/
def bare : Programs := fun program arguments => do
  if (program :: arguments).any fun text => text.toList.contains '\x00' then
    throw .zeroInArgument
  else
    Work.ofExcept (start (← Work.files) program)

end Tablewright.Programs
