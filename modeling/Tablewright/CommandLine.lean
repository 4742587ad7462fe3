import Tablewright.Build
import Tablewright.CommandLine.Command
import Tablewright.CommandLine.Failure
import Tablewright.Journal.Keeping
import Tablewright.Json.Model
import Tablewright.Settings.Loading

namespace Tablewright.CommandLine

/-- A run ends with an exit code, and with the cause when it failed. The world is what it
left. -/
structure Ending where
  exitCode : Nat
  failure : Option Failure
  world : World

def settingsEvent (directory : FilePath) (settings : Settings) : Event :=
  .named .debug .commandLine "settings_loaded"
    [("dir", .text directory.text), ("settings", .text settings.structural)]

def finishedEvent (report : BuildReport) : Event :=
  .named .info .commandLine "run_finished"
    [("status", .text "success"), ("tables", .number report.tables),
      ("warnings", .number report.warnings), ("primary", .text report.primary.text),
      ("secondary", .text report.secondary.text)]

def settingsFor (arguments : CommonArguments) : Work Failure Settings := do
  let found ← Work.ofExcept
    ((Settings.load (← Work.files) arguments.directory arguments.config).mapError .config)
  let settings := arguments.override found
  Work.note (settingsEvent arguments.directory settings)
  return settings

def generate (programs : Programs) (arguments : GenerateArguments) : Work Failure Unit := do
  let settings := arguments.override (← settingsFor arguments.common)
  let report ← Work.mapError .build
    (Build.run programs arguments.common.directory settings)
  Work.note (finishedEvent report)

/-- This work prints the report on the declarations or writes it to a file. It fails after that
when tables are not resolved. -/
def inspect (arguments : InspectArguments) : Work Failure Unit := do
  let settings ← settingsFor arguments.common
  let (tables, context) ← Work.mapError .build
    (Build.inspect arguments.common.directory settings)
  let report := Json.indented 0 (Json.ofReport tables context.diagnostics)
  match arguments.output with
  | some path => Work.mapError .files (Work.writeFile path report.toUTF8)
  | none => Work.print (report ++ "\n")
  if context.isFatal then
    throw (.unresolved context.diagnostics.errors.length)

def openLog (filter : Filter) (path : FilePath) : Work FileError LogFile := do
  Work.perform (.append path .empty)
  return ⟨filter, ((← Work.files).locate true path).toOption⟩

/-- This work runs a command while a log file is open. The lines of the log come between the
changes that the command makes. -/
def keepingLog (log : LogFile) (command : Work Failure Unit) : Work Failure Unit := fun world =>
  let (result, next) := command world
  let kept := log.keep (next.history.drop world.history.length) world
  (result, { kept with output := next.output })

def logged (arguments : CommonArguments) (command : Work Failure Unit) : Work Failure Unit := do
  let filter ← Work.ofExcept ((Filter.ofText arguments.logLevel).mapError .filter)
  match arguments.logFile with
  | none => command
  | some path =>
      let log ← Work.mapError (.build ∘ .files) (openLog filter path)
      keepingLog log command

def versionLine : String := "tablegen 0.1.0\n"

def perform (programs : Programs) : Command → Work Failure Unit
  | .generate arguments => logged arguments.common (generate programs arguments)
  | .inspect arguments => logged arguments.common (inspect arguments)
  | .version => Work.print versionLine

/-- This function runs a command line on a tree of files. The exit code tells a failure from a
command line that cannot be read. -/
def run (programs : Programs) (arguments : List String) (files : FileTree) : Ending :=
  let world : World := { files }
  match Command.ofArguments arguments with
  | none => ⟨2, none, world⟩
  | some command =>
      match perform programs command world with
      | (.ok _, next) => ⟨0, none, next⟩
      | (.error failure, next) => ⟨failure.exitCode, some failure, next⟩

end Tablewright.CommandLine
