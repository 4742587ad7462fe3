import Tablewright.CommandLine.Option
import Tablewright.Settings

namespace Tablewright.CommandLine

structure CommonArguments where
  directory : FilePath := .ofText "."
  config : Option FilePath := none
  lead : Option String := none
  marker : Option String := none
  logLevel : String := "info"
  logFile : Option FilePath := none
  deriving DecidableEq, Repr

structure GenerateArguments where
  common : CommonArguments
  base : Option String := none
  outputDirectory : Option FilePath := none
  primaryOutput : Option String := none
  secondaryOutput : Option String := none
  withoutFormat : Bool := false
  edition : Option String := none
  deriving DecidableEq, Repr

structure InspectArguments where
  common : CommonArguments
  output : Option FilePath := none
  deriving DecidableEq, Repr

inductive Command
  | generate (arguments : GenerateArguments)
  | inspect (arguments : InspectArguments)
  | version
  deriving DecidableEq, Repr

namespace Command

def commonOptions : OptionTable :=
  [("dir", .path), ("config", .path), ("prefix", .text), ("key-marker", .text),
    ("log-level", .text), ("log-file", .path)]

def generateOptions : OptionTable :=
  commonOptions ++
    [("base", .text), ("out-dir", .path), ("primary-output", .text),
      ("secondary-output", .text), ("no-format", .flag), ("edition", .text)]

def inspectOptions : OptionTable :=
  commonOptions ++ [("out", .path)]

def path? (given : GivenOptions) (name : String) : Option FilePath :=
  (given.lookup name).map FilePath.ofText

def common (given : GivenOptions) : CommonArguments :=
  let defaults : CommonArguments := {}
  { directory := (path? given "dir").getD defaults.directory
    config := path? given "config"
    lead := given.lookup "prefix"
    marker := given.lookup "key-marker"
    logLevel := (given.lookup "log-level").getD defaults.logLevel
    logFile := path? given "log-file" }

def generateArguments (given : GivenOptions) : GenerateArguments :=
  { common := common given
    base := given.lookup "base"
    outputDirectory := path? given "out-dir"
    primaryOutput := given.lookup "primary-output"
    secondaryOutput := given.lookup "secondary-output"
    withoutFormat := (given.lookup "no-format").isSome
    edition := given.lookup "edition" }

def inspectArguments (given : GivenOptions) : InspectArguments :=
  { common := common given
    output := path? given "out" }

def asksVersion (argument : String) : Bool :=
  argument = "--version" || ['-', 'V'].isPrefixOf argument.toList

/-- This function reads a command line. The name of the command comes first. -/
def ofArguments : List String → Option Command
  | [] => none
  | first :: rest =>
      if asksVersion first then some .version
      else if first = "generate" then
        (GivenOptions.read generateOptions rest).map fun given =>
          .generate (generateArguments given)
      else if first = "inspect" then
        (GivenOptions.read inspectOptions rest).map fun given =>
          .inspect (inspectArguments given)
      else none

end Command

namespace CommonArguments

def override (arguments : CommonArguments) (settings : Settings) : Settings :=
  { settings with
    lead := arguments.lead.getD settings.lead
    marker := arguments.marker.getD settings.marker }

end CommonArguments

namespace GenerateArguments

def override (arguments : GenerateArguments) (settings : Settings) : Settings :=
  { settings with
    base := arguments.base.getD settings.base
    outputDirectory := arguments.outputDirectory <|> settings.outputDirectory
    primaryOutput := arguments.primaryOutput.getD settings.primaryOutput
    secondaryOutput := arguments.secondaryOutput.getD settings.secondaryOutput
    formatter :=
      { settings.formatter with
        enabled := settings.formatter.enabled && !arguments.withoutFormat
        edition := arguments.edition.getD settings.formatter.edition } }

end Tablewright.CommandLine.GenerateArguments
