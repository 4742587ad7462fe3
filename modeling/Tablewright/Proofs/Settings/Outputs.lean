import Tablewright.Proofs.Build.Paths
import Tablewright.Proofs.Emission.Sections
import Tablewright.Proofs.FileTree.Steps
import Tablewright.Settings

namespace Tablewright

namespace Emission

/-- This function lists the modules beside an artifact that it imports. -/
def importedModules (artifact : Artifact) : List String :=
  readings "use super::" "::*;" artifact.imports

section Imports

variable (options : EmitOptions) (tables : List ResolvedTable)

theorem between?_ending {lead tail line : String}
    (ends : tail.toList.isSuffixOf line.toList = false) : between? lead tail line = none := by
  rw [between?, if_neg]
  rintro ⟨-, suffix⟩
  have whole := (List.isSuffixOf_iff_suffix.mp suffix).trans (List.drop_suffix _ _)
  rw [List.isSuffixOf_iff_suffix.mpr whole] at ends
  cases ends

theorem importedModules_primary :
    importedModules (primary options tables) = [options.secondaryModule] := by
  have found := between_found "use super::" options.secondaryModule "::*;"
  have tools : between? "use super::" "::*;" ("use " ++ options.base ++
      "::tools::\x7bload_rows, Key2, Key3, TableError\x7d;") = none := by
    apply between?_ending
    rw [String.toList_append, List.isSuffixOf, List.reverse_append]
    rfl
  simp only [importedModules, readings, primary, pushAll_eq, Artifact.push, primaryArtifact]
  simp only [List.filterMap_cons, List.filterMap_nil, found, tools]
  rfl

theorem importedModules_secondary :
    importedModules (secondary options tables) = [options.primaryModule] := by
  have found := between_found "use super::" options.primaryModule "::*;"
  have tools : between? "use super::" "::*;" ("use " ++ options.base ++
      "::tools::\x7bKey2, Key3\x7d;") = none := by
    apply between?_ending
    rw [String.toList_append, List.isSuffixOf, List.reverse_append]
    rfl
  simp only [importedModules, readings, secondary, pushAll_eq, secondaryArtifact]
  simp only [List.filterMap_cons, List.filterMap_nil, found, tools]
  rfl

end Imports

end Emission

namespace Settings

open Emission (Artifact importedModules)

/-- An output stays in a folder when it does not end with a slash or a dot, and has no folders of
its own. An absolute one has those of the folder. -/
def StaysIn (folder : FilePath) (output : String) : Prop :=
  let path := FilePath.ofText output
  FilePath.isStep path.last = true ∧ if path.isAbsolute then
    folder.isAbsolute = true ∧ path.folders.filter FilePath.isStep = folder.steps
  else path.folders.filter FilePath.isStep = []

instance (folder : FilePath) (output : String) : Decidable (StaysIn folder output) :=
  inferInstanceAs (Decidable (_ ∧ _))

/-- Two outputs are a consistent pair when they are different, and each stands in the folder under
the name of the module that the artifact in the other one imports. -/
structure ConsistentPair (folder primary secondary : FilePath) (first second : Artifact) :
    Prop where
  different : ¬ primary.Alike secondary
  primary : ∃ module, importedModules second = [module] ∧
    primary.StandsIn folder (module ++ ".rs")
  secondary : ∃ module, importedModules first = [module] ∧
    secondary.StandsIn folder (module ++ ".rs")

section Names

variable {file stem : String} {folder : FilePath}

/-- The file name of an accepted output is that of its module. -/
theorem fileName?_of_module (named : moduleName file = .ok stem) :
    (FilePath.ofText file).fileName? = some (stem ++ ".rs") := by
  rw [moduleName, FilePath.stem?, FilePath.extension?] at named
  cases found : (FilePath.ofText file).fileName? with
  | none =>
      rw [found] at named
      cases named
  | some name =>
      rw [found] at named
      dsimp only [Option.map_some, Option.bind_some] at named
      split at named
      · cases named
      · split at named
        · next extension =>
            obtain rfl := Except.ok.inj named
            have whole := FilePath.cutAtDot_some extension
            rw [String.append_assoc] at whole
            exact congrArg some whole
        · cases named

theorem isStep_of_module (named : moduleName file = .ok stem) :
    FilePath.isStep (stem ++ ".rs") = true := by
  obtain ⟨last, -⟩ := FilePath.fileName?_iff.mp (fileName?_of_module named)
  exact (List.mem_filter.mp (List.mem_of_getLast? last)).2

theorem standsIn_iff (named : moduleName file = .ok stem) :
    (folder.join (.ofText file)).StandsIn folder (stem ++ ".rs") ↔ StaysIn folder file := by
  rw [FilePath.standsIn_join, FilePath.last_eq_iff (fileName?_of_module named)]
  rfl

/-- An output without a slash is the file name of its module, and stays in every folder. -/
theorem staysIn_of_single (named : moduleName file = .ok stem) (single : '/' ∉ file.toList)
    (folder : FilePath) : file = stem ++ ".rs" ∧ StaysIn folder file := by
  have path := FilePath.ofText_single single
  have whole := fileName?_of_module named
  rw [path] at whole
  obtain ⟨last, -⟩ := FilePath.fileName?_iff.mp whole
  have inside : stem ++ ".rs" ∈ [file].filter FilePath.isStep := List.mem_of_getLast? last
  obtain ⟨among, step⟩ := List.mem_filter.mp inside
  rw [List.mem_singleton.mp among] at step
  refine ⟨(List.mem_singleton.mp among).symm, ?_⟩
  rw [StaysIn, path]
  exact ⟨step, rfl⟩

end Names

section Outputs

variable {settings : Settings} {options : EmitOptions}
  (accepted : settings.emitOptions = .ok options)
include accepted

theorem modules_of_accepted : moduleName settings.primaryOutput = .ok options.primaryModule ∧
    moduleName settings.secondaryOutput = .ok options.secondaryModule := by
  rw [emitOptions] at accepted
  obtain ⟨first, primary, accepted⟩ := of_bind_ok accepted
  obtain ⟨second, secondary, accepted⟩ := of_bind_ok accepted
  obtain rfl := Except.ok.inj accepted
  exact ⟨primary, secondary⟩

variable (directory : FilePath) (tables : List ResolvedTable)

theorem consistentPair_iff : ConsistentPair (settings.outputFolder directory)
      (settings.primaryPath directory) (settings.secondaryPath directory)
      (Emission.primary options tables) (Emission.secondary options tables) ↔
    StaysIn (settings.outputFolder directory) settings.primaryOutput ∧
      StaysIn (settings.outputFolder directory) settings.secondaryOutput ∧
      options.primaryModule ≠ options.secondaryModule := by
  obtain ⟨primary, secondary⟩ := modules_of_accepted accepted
  have imports := Emission.importedModules_primary options tables
  have otherImports := Emission.importedModules_secondary options tables
  have apart : ∀ {folder one other : FilePath},
      one.StandsIn folder (options.primaryModule ++ ".rs") →
      other.StandsIn folder (options.secondaryModule ++ ".rs") →
      (one.Alike other ↔ options.primaryModule = options.secondaryModule) := by
    intro folder one other stands otherStands
    rw [FilePath.alike_iff stands otherStands (isStep_of_module primary)
      (isStep_of_module secondary), String.append_left_inj]
  rw [← standsIn_iff primary, ← standsIn_iff secondary]
  constructor
  · rintro ⟨different, ⟨name, imported, stands⟩, otherName, otherImported, otherStands⟩
    rw [otherImports] at imported
    rw [imports] at otherImported
    obtain ⟨rfl, -⟩ := List.cons.inj imported
    obtain ⟨rfl, -⟩ := List.cons.inj otherImported
    exact ⟨stands, otherStands, fun same => different ((apart stands otherStands).mpr same)⟩
  · rintro ⟨stands, otherStands, unequal⟩
    exact ⟨fun alike => unequal ((apart stands otherStands).mp alike),
      ⟨_, otherImports, stands⟩, _, imports, otherStands⟩

end Outputs

/-- Accepted outputs have the file names of the modules that the artifacts import from each other.
They are a consistent pair exactly if both stay in the output folder and the modules are different,
and for names without slashes, exactly if they are different. A consistent pair stands in the output
folder in every tree that has it. -/
theorem outputs_consistent_iff {settings : Settings} {options : EmitOptions}
    (accepted : settings.emitOptions = .ok options) (directory : FilePath)
    (tables : List ResolvedTable) :
    let folder := settings.outputFolder directory
    let primary := settings.primaryPath directory
    let secondary := settings.secondaryPath directory
    let first := Emission.primary options tables
    let second := Emission.secondary options tables
    (primary.fileName? = some (options.primaryModule ++ ".rs") ∧
      secondary.fileName? = some (options.secondaryModule ++ ".rs") ∧
      importedModules second = [options.primaryModule] ∧
      importedModules first = [options.secondaryModule]) ∧
    (ConsistentPair folder primary secondary first second ↔
      StaysIn folder settings.primaryOutput ∧ StaysIn folder settings.secondaryOutput ∧
        options.primaryModule ≠ options.secondaryModule) ∧
    ('/' ∉ settings.primaryOutput.toList → '/' ∉ settings.secondaryOutput.toList →
      (ConsistentPair folder primary secondary first second ↔
        settings.primaryOutput ≠ settings.secondaryOutput)) ∧
    (ConsistentPair folder primary secondary first second →
      ∀ (tree : FileTree) (place : Location), tree.locate true folder = .ok place →
        tree.node? place = some .directory →
        tree.Seat primary place ∧ tree.Seat secondary place) := by
  intro folder primary secondary first second
  obtain ⟨named, otherNamed⟩ := modules_of_accepted accepted
  have consistent := consistentPair_iff accepted directory tables
  refine ⟨⟨?_, ?_, ?_, ?_⟩, consistent, ?_, ?_⟩
  · exact FilePath.fileName?_join (fileName?_of_module named)
  · exact FilePath.fileName?_join (fileName?_of_module otherNamed)
  · exact Emission.importedModules_secondary options tables
  · exact Emission.importedModules_primary options tables
  · intro single otherSingle
    obtain ⟨whole, stays⟩ := staysIn_of_single named single folder
    obtain ⟨otherWhole, otherStays⟩ := staysIn_of_single otherNamed otherSingle folder
    rw [consistent, and_iff_right stays, and_iff_right otherStays, whole, otherWhole]
    exact not_congr (String.append_left_inj _).symm
  · rintro ⟨_, ⟨_, _, stands⟩, _, _, otherStands⟩ tree place located standing
    exact ⟨FileTree.seat_of_standsIn stands located standing,
      FileTree.seat_of_standsIn otherStands located standing⟩

/-- The outputs are a consistent pair when the settings do not name them. -/
theorem outputs_consistent_default :
    let settings : Settings := {}
    let directory := FilePath.ofText "decl"
    settings.emitOptions = .ok {} ∧
    ConsistentPair directory ⟨["decl"], "table.rs"⟩ ⟨["decl"], "table_after_load.rs"⟩
      (Emission.primary {} []) (Emission.secondary {} []) := by
  intro settings directory
  have accepted : settings.emitOptions = .ok {} := by decide +kernel
  obtain ⟨_, -, plain, -⟩ := outputs_consistent_iff accepted directory []
  have pair := (plain (by decide +kernel) (by decide +kernel)).mpr (by decide +kernel)
  have first : settings.primaryPath directory = ⟨["decl"], "table.rs"⟩ := by decide +kernel
  have second : settings.secondaryPath directory = ⟨["decl"], "table_after_load.rs"⟩ := by
    decide +kernel
  rw [first, second] at pair
  exact ⟨accepted, pair⟩

/-- Two equal outputs are accepted, and so is an output with a folder of its own. The first are one
path, and the other is not directly inside the output folder. -/
theorem outputs_accepted_inconsistent :
    let equal : Settings := { secondaryOutput := "table.rs" }
    let nested : Settings := { primaryOutput := "sub/table.rs" }
    let directory := FilePath.ofText "decl"
    equal.emitOptions = .ok { secondaryModule := "table" } ∧
    equal.primaryPath directory = equal.secondaryPath directory ∧
    nested.emitOptions = .ok {} ∧
    ¬ (nested.primaryPath directory).StandsIn (nested.outputFolder directory) "table.rs" ∧
    (∀ tables, ¬ ConsistentPair (equal.outputFolder directory) (equal.primaryPath directory)
      (equal.secondaryPath directory) (Emission.primary { secondaryModule := "table" } tables)
      (Emission.secondary { secondaryModule := "table" } tables)) ∧
    ∀ tables, ¬ ConsistentPair (nested.outputFolder directory) (nested.primaryPath directory)
      (nested.secondaryPath directory) (Emission.primary {} tables)
      (Emission.secondary {} tables) := by
  intro equal nested directory
  have equalAccepted : equal.emitOptions = .ok { secondaryModule := "table" } := by decide +kernel
  have nestedAccepted : nested.emitOptions = .ok {} := by decide +kernel
  have same : equal.primaryPath directory = equal.secondaryPath directory := rfl
  have outside : ¬ StaysIn (nested.outputFolder directory) nested.primaryOutput := by
    decide +kernel
  refine ⟨equalAccepted, same, nestedAccepted, ?_, ?_, ?_⟩
  · intro stands
    exact absurd stands.above (by decide +kernel)
  · intro tables pair
    exact pair.different ⟨rfl, rfl⟩
  · intro tables pair
    exact outside ((consistentPair_iff nestedAccepted directory tables).mp pair).1

end Settings

end Tablewright
