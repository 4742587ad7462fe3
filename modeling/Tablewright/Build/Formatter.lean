import Tablewright.Build.Error
import Tablewright.Build.Programs

namespace Tablewright

namespace FormatterSettings

def formattedEvent (path : FilePath) : Event :=
  .named .debug .formatting "formatted" [("path", .text path.text)]

def failedEvent (program : String) (path : FilePath) (complaint : String) : Event :=
  .named .error .formatting "format_failed"
    [("program", .text program), ("path", .text path.text), ("stderr", .text complaint)]

def arguments (settings : FormatterSettings) (path : FilePath) : List String :=
  ["--edition", settings.edition, path.text]

def format (programs : Programs) (settings : FormatterSettings) (path : FilePath) :
    Work BuildError Unit := do
  if settings.enabled then
    let ended ← Work.mapError (.formatterNotStarted settings.program)
      (programs settings.program (settings.arguments path))
    if ended.status = 0 then
      Work.note (formattedEvent path)
    else
      Work.note (failedEvent settings.program path ended.complaint)
      throw (.formatterFailed settings.program path ended.status)

end Tablewright.FormatterSettings
