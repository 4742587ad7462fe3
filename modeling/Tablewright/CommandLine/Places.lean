import Tablewright.CommandLine.Command
import Tablewright.Settings.Loading

namespace Tablewright.CommandLine

def folderOf (path : FilePath) : FilePath :=
  match path.parent? with
  | some folder => if folder = .empty then .ofText "." else folder
  | none => path

def CommonArguments.folders (arguments : CommonArguments) : List FilePath :=
  arguments.directory :: (arguments.config.toList ++ arguments.logFile.toList).map folderOf

def GenerateArguments.outputFolders (arguments : GenerateArguments) (files : FileTree) :
    List FilePath :=
  match Settings.load files arguments.common.directory arguments.common.config with
  | .error _ => []
  | .ok found =>
      let settings := arguments.override (arguments.common.override found)
      [settings.primaryPath arguments.common.directory,
        settings.secondaryPath arguments.common.directory].map folderOf

namespace Command

def folders : Command → List FilePath
  | .generate arguments => arguments.common.folders
  | .inspect arguments => arguments.common.folders ++ arguments.output.toList.map folderOf
  | .version => []

def outputFolders (command : Command) (files : FileTree) : List FilePath :=
  match command with
  | .generate arguments => arguments.outputFolders files
  | _ => []

end Tablewright.CommandLine.Command
