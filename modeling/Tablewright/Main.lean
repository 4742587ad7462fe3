import Tablewright.CommandLine
import Tablewright.CommandLine.Places
import Tablewright.FileTree.Bare

namespace Tablewright.System

def locationOf (path : String) : Location :=
  (FilePath.ofText path).parts.filter FilePath.isStep

def withDirectory (files : FileTree) (place : Location) : FileTree :=
  (List.range place.length).foldl (fun tree depth =>
    let above := place.take (depth + 1)
    if (tree.node? above).isSome then tree else tree.put above .directory) files

def withFile (files : FileTree) (place : Location) (content : ByteArray) : FileTree :=
  (withDirectory files place.dropLast).put place (.file content true)

def readEntry (place : Location) (files : FileTree) (entry : IO.FS.DirEntry) :
    IO FileTree := do
  let spot := place ++ [entry.fileName]
  match (← entry.path.symlinkMetadata).type with
  | .dir => return withDirectory files spot
  | .file => return withFile files spot (← IO.FS.readBinFile entry.path)
  | .symlink =>
      match ← (IO.FS.realPath entry.path).toBaseIO with
      | .error _ => return files
      | .ok goal =>
          let linked := files.put spot (.link goal.toString)
          if ← goal.isDir then
            return withDirectory linked (locationOf goal.toString)
          else
            return withFile linked (locationOf goal.toString) (← IO.FS.readBinFile goal)
  | .other => return files

partial def readFolder (files : FileTree) (folder : FilePath) : IO FileTree := do
  match ← (IO.FS.realPath folder.text).toBaseIO with
  | .ok real =>
      if ← real.isDir then
        let place := locationOf real.toString
        (← real.readDir).foldlM (readEntry place) (withDirectory files place)
      else
        return files
  | .error _ =>
      match folder.parent? with
      | some above => readFolder files (if above = .empty then .ofText "." else above)
      | none => return files

def readFiles (command : CommandLine.Command) : IO FileTree := do
  let here ← IO.currentDir
  let start := FileTree.bare (locationOf here.toString)
  let files ← command.folders.foldlM readFolder start
  (command.outputFolders files).foldlM readFolder files

def rightsOf (writable : Bool) : IO.FileRight :=
  { user := { read := true, write := writable }
    group := { read := true }
    other := { read := true } }

def perform (change : FileChange) (after : FileTree) : IO Unit :=
  match change with
  | .makeDirectory path => IO.FS.createDir path.text
  | .create path => IO.FS.writeBinFile path.text .empty
  | .write path content => IO.FS.writeBinFile path.text content
  | .append path content => IO.FS.withFile path.text .append fun handle => handle.write content
  | .remove path => IO.FS.removeFile path.text
  | .rename source target => IO.FS.rename source.text target.text
  | .setWritable path writable =>
      if after.leadsToFile path then IO.setAccessRights path.text (rightsOf writable)
      else return

/-- This action runs a command line. It takes every step of the run in the system too. -/
def run (arguments : List String) : IO UInt32 := do
  let files ← match CommandLine.Command.ofArguments arguments with
    | some command => readFiles command
    | none => pure (.empty [])
  let ended := CommandLine.run Programs.bare arguments files
  for (change, after) in ended.world.trail do
    perform change after
  IO.print ended.world.output
  if let some line := ended.failure.bind CommandLine.Failure.line? then
    IO.eprintln line
  return UInt32.ofNat ended.exitCode

end Tablewright.System

def main (arguments : List String) : IO UInt32 :=
  Tablewright.System.run arguments
