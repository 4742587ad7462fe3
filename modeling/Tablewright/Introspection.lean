import Tablewright.Annotation
import Tablewright.Introspection.Discovery
import Tablewright.Introspection.KeyResolution
import Tablewright.Introspection.Probe
import Tablewright.Table

namespace Tablewright

/-- Introspection ends with tables or an error. It keeps the context in both cases. -/
structure Introspection where
  outcome : Except IntrospectionError (List ResolvedTable)
  context : Context

namespace Introspection

def annotate (sources : SourceSet) (context : Context) : Context :=
  sources.foldl (fun state file => Annotation.extractInto file.path file.text state) context

def probeAll (sources : SourceSet) : List ResolvedKey → Context → List ResolvedTable × Context
  | [], context => ([], context)
  | resolved :: rest, context =>
      let probed := Probe.probe sources resolved.entry.name context
      let others := probeAll sources rest probed.2
      (⟨resolved.entry, resolved.entry.storageVariable, resolved.key, probed.1⟩ :: others.1,
        others.2)

def refusedEvent (context : Context) : Event :=
  .named .info .introspection "introspection_refused"
    [("errors", .number context.diagnostics.errors.length),
      ("diagnostics", .number context.diagnostics.length)]

def finishedEvent (tables : List ResolvedTable) (context : Context) : Event :=
  .named .info .introspection "introspection_finished"
    [("tables", .number tables.length), ("diagnostics", .number context.diagnostics.length)]

/-- This function resolves and probes the registered tables. There are no tables when the run is
fatal. -/
def finish (sources : SourceSet) (marker : String) (context : Context) : Introspection :=
  match KeyResolution.resolve sources marker context with
  | (.error error, resolved) => ⟨.error error, resolved⟩
  | (.ok keys, resolved) =>
      if resolved.isFatal then ⟨.ok [], resolved.note (refusedEvent resolved)⟩
      else
        let probed := probeAll sources keys resolved
        ⟨.ok probed.1, probed.2.note (finishedEvent probed.1 probed.2)⟩

def discoveredEvent (directory : FilePath) (paths : List FilePath) : Event :=
  .named .info .introspection "sources_discovered"
    [("dir", .text directory.text), ("files", .number paths.length)]

def registryEvent (context : Context) : Event :=
  .named .info .introspection "registry_built" [("tables", .number context.registry.size)]

def ofPaths (read : FilePath → Except FileError String) (options : IntrospectionOptions)
    (paths : List FilePath) (context : Context) : Introspection :=
  let loaded := SourceSet.load read paths context
  let annotated := annotate loaded.1 loaded.2
  finish loaded.1 options.marker (annotated.note (registryEvent annotated))

def introspect (listing : Except FileError (List DirectoryEntry))
    (read : FilePath → Except FileError String) (directory : FilePath)
    (options : IntrospectionOptions) : Introspection :=
  match listing with
  | .error cause => ⟨.error (.unreadableDirectory directory cause), {}⟩
  | .ok entries =>
      let paths := Discovery.paths directory options.lead entries
      let start : Context := {}
      ofPaths read options paths
        ((start.note (Discovery.event paths)).note (discoveredEvent directory paths))

end Tablewright.Introspection
