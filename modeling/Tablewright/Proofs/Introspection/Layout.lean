import Mathlib.Data.List.Perm.Basic
import Tablewright.Introspection.Source

namespace Tablewright.SourceSet

open Declaration

/-- A type names a table when a path without another type in front ends with its name, or when it
refers to such a type. -/
inductive Names (table : String) : TypeTree → Prop
  | path {path : Path} (last : path.lastName? = some table) : Names table (.path false path)
  | reference {target : TypeTree} (inner : Names table target) : Names table (.reference target)
  | enclosed {type : TypeTree} (inner : Names table type) : Names table (.enclosed type)

/-- A function is declared for a table when a parsed file has it in an implementation block of
the table's type. -/
def Declares (sources : SourceSet) (table : String) (function : FunctionDeclaration) : Prop :=
  ∃ file ∈ sources, ∃ items, file.items = some items ∧
    ∃ block, .implementation block ∈ items ∧ Names table block.selfType ∧
      function ∈ block.functions

/-- These are the items of all parsed files in their order. -/
def parsedItems (sources : SourceSet) : List Item :=
  sources.flatMap fun file => file.items.getD []

/-- Items are rearranged by any number of steps that are done or undone. They are put in another
order, which is also what happens when their files are. The functions of a block are put in another
order. A block is split in two that follow each other. -/
inductive Rearranged : List Item → List Item → Prop
  | order {items others : List Item} (same : items.Perm others) : Rearranged items others
  | functions {front back : List Item} {selfType : TypeTree}
      {functions others : List FunctionDeclaration} (same : functions.Perm others) :
      Rearranged (front ++ .implementation ⟨selfType, functions⟩ :: back)
        (front ++ .implementation ⟨selfType, others⟩ :: back)
  | split {front back : List Item} {selfType : TypeTree}
      {first second : List FunctionDeclaration} :
      Rearranged (front ++ .implementation ⟨selfType, first ++ second⟩ :: back)
        (front ++ .implementation ⟨selfType, first⟩ :: .implementation ⟨selfType, second⟩ :: back)
  | undo {items others : List Item} (inner : Rearranged items others) : Rearranged others items
  | trans {first second third : List Item} (start : Rearranged first second)
      (rest : Rearranged second third) : Rearranged first third

/-- The order of files is one of their items. -/
theorem rearranged_files {sources others : SourceSet} (same : sources.Perm others) :
    Rearranged sources.parsedItems others.parsedItems :=
  .order (same.flatMap_right _)

theorem isTypeNamed_iff {table : String} {type : TypeTree} :
    isTypeNamed table type = true ↔ Names table type := by
  constructor
  · intro named
    induction type with
    | path qualified path =>
        rw [isTypeNamed, Bool.and_eq_true, Bool.not_eq_true', decide_eq_true_iff] at named
        obtain ⟨rfl, last⟩ := named
        exact .path last
    | reference target hypothesis => exact .reference (hypothesis named)
    | enclosed inner hypothesis => exact .enclosed (hypothesis named)
    | array => cases named
    | slice => cases named
    | tuple => cases named
    | bounds => cases named
    | other => cases named
  · intro names
    induction names with
    | path last => simp [isTypeNamed, last]
    | reference _ hypothesis => exact hypothesis
    | enclosed _ hypothesis => exact hypothesis

/-- The functions of a table are those that are declared for it. -/
theorem mem_functionsOf {sources : SourceSet} {table : String} {function : FunctionDeclaration} :
    function ∈ sources.functionsOf table ↔ sources.Declares table function := by
  unfold functionsOf
  rw [List.mem_flatMap]
  constructor
  · rintro ⟨file, inside, member⟩
    obtain ⟨block, among, own⟩ := List.mem_flatMap.mp member
    obtain ⟨implemented, named⟩ := List.mem_filter.mp among
    obtain ⟨item, listed, found⟩ := List.mem_filterMap.mp implemented
    cases parsed : file.items with
    | none => simp [parsed] at listed
    | some items =>
        refine ⟨file, inside, items, parsed, block, ?_, isTypeNamed_iff.mp named, own⟩
        cases item with
        | implementation declaration =>
            obtain rfl := Option.some.inj found
            simpa [parsed] using listed
        | struct => cases found
        | other => cases found
  · rintro ⟨file, inside, items, parsed, block, listed, names, own⟩
    refine ⟨file, inside, List.mem_flatMap.mpr ⟨block, List.mem_filter.mpr ⟨?_, ?_⟩, own⟩⟩
    · exact List.mem_filterMap.mpr ⟨.implementation block, by simpa [parsed] using listed, rfl⟩
    · exact isTypeNamed_iff.mpr names

/-- This function lists what an item adds to the functions of a table. -/
def itemFunctions (table : String) : Item → List FunctionDeclaration
  | .implementation block => if isTypeNamed table block.selfType then block.functions else []
  | _ => []

theorem flatMap_itemFunctions (table : String) (items : List Item) :
    items.flatMap (itemFunctions table) =
      ((items.filterMap fun item =>
        match item with
        | .implementation declaration => some declaration
        | _ => none).filter fun block => isTypeNamed table block.selfType).flatMap
          Implementation.functions := by
  induction items with
  | nil => rfl
  | cons item rest hypothesis =>
      cases item with
      | implementation block =>
          by_cases named : isTypeNamed table block.selfType = true
          · simp [itemFunctions, named, hypothesis]
          · simp [itemFunctions, named, hypothesis]
      | struct => simpa [itemFunctions] using hypothesis
      | other => simpa [itemFunctions] using hypothesis

theorem functionsOf_eq (sources : SourceSet) (table : String) :
    sources.functionsOf table = sources.parsedItems.flatMap (itemFunctions table) := by
  unfold functionsOf parsedItems
  rw [List.flatMap_assoc]
  apply congrArg (List.flatMap · sources)
  funext file
  exact (flatMap_itemFunctions table _).symm

/-- A table keeps its functions when items are rearranged. Their order may change. -/
theorem Rearranged.functions_perm {items others : List Item} (rearranged : Rearranged items others)
    (table : String) :
    (items.flatMap (itemFunctions table)).Perm (others.flatMap (itemFunctions table)) := by
  induction rearranged with
  | order same => exact same.flatMap_right _
  | @functions front back selfType functions others same =>
      rw [List.flatMap_append, List.flatMap_append, List.flatMap_cons, List.flatMap_cons]
      refine (List.Perm.append_right _ ?_).append_left _
      by_cases named : isTypeNamed table selfType = true
      · simpa [itemFunctions, named] using same
      · simp [itemFunctions, named]
  | @split front back selfType first second =>
      by_cases named : isTypeNamed table selfType = true
      · simp [itemFunctions, named]
      · simp [itemFunctions, named]
  | undo _ hypothesis => exact hypothesis.symm
  | trans _ _ start rest => exact start.trans rest

theorem functionsOf_perm {sources others : SourceSet}
    (rearranged : Rearranged sources.parsedItems others.parsedItems) (table : String) :
    (sources.functionsOf table).Perm (others.functionsOf table) := by
  rw [functionsOf_eq, functionsOf_eq]
  exact rearranged.functions_perm table

end Tablewright.SourceSet
