import Tablewright.Proofs.Introspection.Layout
import Tablewright.Proofs.Introspection.Literals
import Tablewright.Proofs.Introspection.Reports

namespace Tablewright

open Declaration

theorem Capabilities.index_setIndex (capabilities : Capabilities) (index : SecondaryIndex)
    (pattern : Pattern) : (capabilities.setIndex index).index pattern =
      if pattern = index.pattern then some index else capabilities.index pattern := by
  unfold setIndex
  cases kind : index.pattern <;> cases pattern <;> rfl

theorem Capabilities.hasAfterLoad_setIndex (capabilities : Capabilities)
    (index : SecondaryIndex) :
    (capabilities.setIndex index).hasAfterLoad = capabilities.hasAfterLoad := by
  unfold setIndex
  cases index.pattern <;> rfl

namespace Probe

/-- A method is present when a function has its name. -/
def Has (functions : List FunctionDeclaration) (method : String) : Prop :=
  ∃ function ∈ functions, function.name = method

/-- The first function of a name has no other one in front. -/
def FirstNamed (functions : List FunctionDeclaration) (method : String)
    (function : FunctionDeclaration) : Prop :=
  ∃ before after, functions = before ++ function :: after ∧ function.name = method ∧
    ∀ earlier ∈ before, earlier.name ≠ method

/-- The names of a pattern are those in the literal body of the first names method. -/
def CustomNames (functions : List FunctionDeclaration) (pattern : Pattern)
    (names : List String) : Prop :=
  ∃ function, FirstNamed functions pattern.namesMethod function ∧ LiteralBody function.body names

/-- A pattern falls back when it is present with a names method that gives no names. -/
structure FallsBack (functions : List FunctionDeclaration) (pattern : Pattern) : Prop where
  present : Has functions pattern.probeMethod
  named : Has functions pattern.namesMethod
  unread : ∀ names, ¬ CustomNames functions pattern names

/-- An index fits the functions of a table. It is custom exactly if there are names, and then its
variants have these names in their order. Otherwise its one variant has the name of the table. -/
structure Fits (functions : List FunctionDeclaration) (table : String) (pattern : Pattern)
    (index : SecondaryIndex) : Prop where
  kind : index.pattern = pattern
  sort : index.hasSort = true ↔ Has functions pattern.sortMethod
  custom_iff : (∃ variant ∈ index.variants, variant.custom = true) ↔
    ∃ names, CustomNames functions pattern names
  custom : ∀ names, CustomNames functions pattern names →
    index.variants = names.map fun name => ⟨name, true⟩
  plain : (∀ names, ¬ CustomNames functions pattern names) → index.variants = [⟨table, false⟩]

/-- This warning says that the names of a pattern could not be read. -/
def fallbackWarning (table : String) (pattern : Pattern) : Diagnostic :=
  .warning "custom_names_fallback" table
    s!"{pattern.namesMethod} must return a literal list of identifiers; using the default variant"

/-- This function tells whether probing warns about a pattern. -/
def warnsAbout (table : String) (functions : List FunctionDeclaration) (pattern : Pattern) : Bool :=
  (probeIndex table functions pattern).any ProbedIndex.fallsBack

section Functions

variable {functions others : List FunctionDeclaration} {table : String} {pattern : Pattern}

theorem hasMethod_iff {method : String} :
    hasMethod functions method = true ↔ Has functions method := by
  simp [hasMethod, Has]

theorem find?_eq_some_iff {method : String} {function : FunctionDeclaration} :
    functions.find? (fun function => function.name = method) = some function ↔
      FirstNamed functions method function := by
  rw [List.find?_eq_some_iff_append]
  constructor
  · rintro ⟨named, before, after, equal, none⟩
    exact ⟨before, after, equal, by simpa using named, by simpa using none⟩
  · rintro ⟨before, after, equal, named, none⟩
    exact ⟨by simpa using named, before, after, equal, by simpa using none⟩

theorem find?_eq_none_iff {method : String} :
    functions.find? (fun function => function.name = method) = none ↔ ¬ Has functions method := by
  simp [Has]

/-- There is one first function of a name at most. -/
theorem customNames_iff {function : FunctionDeclaration}
    (first : functions.find? (fun function => function.name = pattern.namesMethod) =
      some function) (names : List String) :
    CustomNames functions pattern names ↔ literalNames function.body = some names := by
  rw [literalNames_eq_some_iff]
  constructor
  · rintro ⟨other, otherFirst, literal⟩
    obtain rfl := Option.some.inj (first.symm.trans (find?_eq_some_iff.mpr otherFirst))
    exact literal
  · intro literal
    exact ⟨function, find?_eq_some_iff.mp first, literal⟩

/-- Without a names method there are no names. -/
theorem not_customNames
    (absent : functions.find? (fun function => function.name = pattern.namesMethod) = none)
    (names : List String) : ¬ CustomNames functions pattern names := by
  rintro ⟨function, first, _⟩
  rw [find?_eq_some_iff.mpr first] at absent
  cases absent

theorem fits_default (none : ∀ names, ¬ CustomNames functions pattern names) :
    Fits functions table pattern
      (.defaultFor table pattern (hasMethod functions pattern.sortMethod)) where
  kind := rfl
  sort := hasMethod_iff
  custom_iff := by simp [SecondaryIndex.defaultFor, none]
  custom names some := absurd some (none names)
  plain _ := rfl

theorem fits_custom {names : List String} (custom : CustomNames functions pattern names)
    (only : ∀ others, CustomNames functions pattern others → others = names) :
    Fits functions table pattern
      (.custom pattern names (hasMethod functions pattern.sortMethod)) where
  kind := rfl
  sort := hasMethod_iff
  custom_iff := by
    obtain ⟨_, _, literal⟩ := id custom
    obtain ⟨name, rest, rfl⟩ := List.exists_cons_of_ne_nil literal.nonempty
    refine ⟨fun _ => ⟨_, custom⟩, fun _ => ?_⟩
    exact ⟨⟨name, true⟩, List.mem_cons_self, rfl⟩
  custom others some := by rw [only others some]; rfl
  plain none := absurd custom (none names)

/-- A pattern is absent, or it has an index that fits and may have fallen back. -/
theorem probeIndex_cases (table : String) (functions : List FunctionDeclaration)
    (pattern : Pattern) :
    (¬ Has functions pattern.probeMethod ∧ probeIndex table functions pattern = none) ∨
      (Has functions pattern.probeMethod ∧
        ∃ probed, probeIndex table functions pattern = some probed ∧
          Fits functions table pattern probed.index ∧
          (probed.fallsBack = true ↔ FallsBack functions pattern)) := by
  unfold probeIndex
  by_cases present : hasMethod functions pattern.probeMethod = true
  · right
    refine ⟨hasMethod_iff.mp present, ?_⟩
    rw [if_pos present]
    cases first : functions.find? fun function => function.name = pattern.namesMethod with
    | none =>
        have unnamed : ¬ FallsBack functions pattern :=
          fun falls => find?_eq_none_iff.mp first falls.named
        exact ⟨_, rfl, fits_default (not_customNames first), by simp [unnamed]⟩
    | some function =>
        have read := customNames_iff first
        dsimp only
        cases listed : literalNames function.body with
        | none =>
            have unread : ∀ names, ¬ CustomNames functions pattern names := by
              intro names custom
              rw [(read names).mp custom] at listed
              cases listed
            have named : Has functions pattern.namesMethod := by
              by_contra absent
              rw [find?_eq_none_iff.mpr absent] at first
              cases first
            have falls : FallsBack functions pattern :=
              ⟨hasMethod_iff.mp present, named, unread⟩
            exact ⟨_, rfl, fits_default unread, by simp [falls]⟩
        | some names =>
            have custom : CustomNames functions pattern names := (read names).mpr listed
            have only : ∀ others, CustomNames functions pattern others → others = names :=
              fun others other => Option.some.inj (((read others).mp other).symm.trans listed)
            have kept : ¬ FallsBack functions pattern := fun falls => falls.unread names custom
            exact ⟨_, rfl, fits_custom custom only, by simp [kept]⟩
  · left
    refine ⟨fun has => present (hasMethod_iff.mpr has), ?_⟩
    rw [if_neg present]

theorem warnsAbout_iff :
    warnsAbout table functions pattern = true ↔ FallsBack functions pattern := by
  unfold warnsAbout
  obtain ⟨absent, none⟩ | ⟨_, probed, found, _, falls⟩ := probeIndex_cases table functions pattern
  · have kept : ¬ FallsBack functions pattern := fun falls => absent falls.present
    simp [none, kept]
  · simpa [found] using falls

/-- One step of probing sets the index of its pattern, and warns when it has fallen back. -/
theorem addIndex_eq (state : Capabilities × Context) :
    (∀ other, (addIndex table functions state pattern).1.index other =
        if other = pattern then
          ((probeIndex table functions pattern).map ProbedIndex.index).or (state.1.index other)
        else state.1.index other) ∧
      (addIndex table functions state pattern).1.hasAfterLoad = state.1.hasAfterLoad ∧
      (addIndex table functions state pattern).2.diagnostics = state.2.diagnostics ++
        ([pattern].filter (warnsAbout table functions)).map (fallbackWarning table) := by
  obtain ⟨_, none⟩ | ⟨_, probed, found, fits, _⟩ := probeIndex_cases table functions pattern
  · have silent : warnsAbout table functions pattern = false := by rw [warnsAbout, none]; rfl
    have kept : addIndex table functions state pattern = state := by rw [addIndex, none]
    simp [kept, none, silent]
  · have warned : warnsAbout table functions pattern = probed.fallsBack := by
      rw [warnsAbout, found]
      rfl
    have set : addIndex table functions state pattern = (state.1.setIndex probed.index,
        if probed.fallsBack then reportFallback table pattern state.2 else state.2) := by
      rw [addIndex, found]
    rw [set, found]
    refine ⟨?_, ?_, ?_⟩
    · intro other
      have placed : (state.1.setIndex probed.index).index other =
          if other = probed.index.pattern then some probed.index else state.1.index other :=
        Capabilities.index_setIndex state.1 probed.index other
      rw [placed, fits.kind]
      split_ifs <;> rfl
    · exact Capabilities.hasAfterLoad_setIndex state.1 probed.index
    · cases falls : probed.fallsBack with
      | false => simp [warned, falls]
      | true => simp [warned, falls, reportFallback, fallbackWarning, Context.report, Context.note]

/-- Probing goes through patterns and treats each of them alone. -/
theorem foldl_addIndex_eq (patterns : List Pattern) (state : Capabilities × Context)
    (different : patterns.Nodup) (free : ∀ pattern ∈ patterns, state.1.index pattern = none) :
    let probed := patterns.foldl (addIndex table functions) state
    (∀ pattern, probed.1.index pattern =
        if pattern ∈ patterns then (probeIndex table functions pattern).map ProbedIndex.index
        else state.1.index pattern) ∧
      probed.1.hasAfterLoad = state.1.hasAfterLoad ∧
      probed.2.diagnostics = state.2.diagnostics ++
        (patterns.filter (warnsAbout table functions)).map (fallbackWarning table) := by
  induction patterns generalizing state with
  | nil => simp
  | cons pattern rest hypothesis =>
      obtain ⟨absent, others⟩ := List.nodup_cons.mp different
      obtain ⟨here, hook, reported⟩ := @addIndex_eq functions table pattern state
      have empty : state.1.index pattern = none := free pattern List.mem_cons_self
      obtain ⟨later, laterHook, laterReported⟩ :=
        hypothesis (addIndex table functions state pattern) others (by
          intro other inside
          have apart : other ≠ pattern := fun same => absent (same ▸ inside)
          rw [here, if_neg apart]
          exact free other (List.mem_cons_of_mem pattern inside))
      refine ⟨?_, laterHook.trans hook, ?_⟩
      · intro other
        rw [List.foldl_cons, later, here]
        by_cases same : other = pattern
        · subst same
          simp [absent, empty]
        · simp [same]
      · rw [List.foldl_cons, laterReported, reported, List.append_assoc, ← List.map_append,
          ← List.filter_append, List.singleton_append]

/-- What happens once at most stays first in any order. -/
theorem find?_perm {method : String} (same : functions.Perm others)
    (single : (functions.filter fun function => function.name = method).length ≤ 1) :
    functions.find? (fun function => function.name = method) =
      others.find? fun function => function.name = method := by
  have named := same.filter fun function => decide (function.name = method)
  rw [← List.head?_filter, ← List.head?_filter]
  generalize functions.filter (fun function => decide (function.name = method)) = here at *
  match here, single with
  | [], _ => rw [List.nil_perm.mp named]
  | [function], _ => rw [List.singleton_perm.mp named]

theorem hasMethod_perm (same : functions.Perm others) (method : String) :
    hasMethod functions method = hasMethod others method := by
  rw [Bool.eq_iff_iff, hasMethod_iff, hasMethod_iff]
  exact exists_congr fun function => and_congr_left' same.mem_iff

theorem probeIndex_perm (same : functions.Perm others)
    (single : (functions.filter fun function => function.name = pattern.namesMethod).length ≤ 1) :
    probeIndex table functions pattern = probeIndex table others pattern := by
  unfold probeIndex
  rw [hasMethod_perm same, hasMethod_perm same, find?_perm same single]

/-- A table is probed the same in every layout of its files. -/
theorem probe_rearranged {sources rearranged : SourceSet}
    (same : SourceSet.Rearranged sources.parsedItems rearranged.parsedItems)
    (single : ∀ pattern : Pattern, ((sources.functionsOf table).filter fun function =>
      function.name = pattern.namesMethod).length ≤ 1) (context : Context) :
    probe rearranged table context = probe sources table context := by
  have perm := SourceSet.functionsOf_perm same table
  have steps : addIndex table (rearranged.functionsOf table) =
      addIndex table (sources.functionsOf table) := by
    funext state pattern
    rw [addIndex, addIndex, probeIndex_perm perm (single pattern)]
  unfold probe
  dsimp only
  rw [steps, hasMethod_perm perm]

end Functions

/-- Probing finds exactly the indexes and hooks that the functions of a table ask for, and warns
about exactly those patterns that fall back. When no names method is repeated, nothing changes
with the layout of the files. -/
theorem probe_exact (sources : SourceSet) (table : String) (context : Context) :
    let functions := sources.functionsOf table
    let probed := probe sources table context
    (∀ function, function ∈ functions ↔ sources.Declares table function) ∧
    functions = sources.parsedItems.flatMap (SourceSet.itemFunctions table) ∧
    (∀ pattern, (probed.1.index pattern).isSome = true ↔ Has functions pattern.probeMethod) ∧
    (∀ pattern, ∀ index ∈ probed.1.index pattern, Fits functions table pattern index) ∧
    (probed.1.hasAfterLoad = true ↔ Has functions afterLoadMethod) ∧
    (∃ patterns : List Pattern, patterns.Sublist Pattern.all ∧
      (∀ pattern, pattern ∈ patterns ↔ FallsBack functions pattern) ∧
      probed.2.diagnostics = context.diagnostics ++ patterns.map (fallbackWarning table)) ∧
    ((∀ pattern : Pattern,
        (functions.filter fun function => function.name = pattern.namesMethod).length ≤ 1) →
      ∀ others : SourceSet, SourceSet.Rearranged sources.parsedItems others.parsedItems →
        probe others table context = probed) := by
  intro functions probed
  have every : ∀ pattern, pattern ∈ Pattern.all := by
    intro pattern
    cases pattern <;> decide
  let start : Capabilities := { hasAfterLoad := hasMethod functions afterLoadMethod }
  have free : ∀ pattern ∈ Pattern.all, start.index pattern = none := by
    intro pattern _
    cases pattern <;> rfl
  obtain ⟨indexes, hook, reported⟩ :=
    @foldl_addIndex_eq functions table Pattern.all (start, context) (by decide) free
  have found : ∀ pattern, probed.1.index pattern =
      (probeIndex table functions pattern).map ProbedIndex.index :=
    fun pattern => (indexes pattern).trans (if_pos (every pattern))
  refine ⟨fun _ => SourceSet.mem_functionsOf, SourceSet.functionsOf_eq sources table,
    ?_, ?_, ?_, ?_, ?_⟩
  · intro pattern
    rw [found]
    obtain ⟨absent, none⟩ | ⟨present, index, some, _⟩ :=
      probeIndex_cases table functions pattern
    · simp [none, absent]
    · simp [some, present]
  · intro pattern index inside
    rw [found] at inside
    obtain ⟨_, none⟩ | ⟨_, probedIndex, some, fits, _⟩ :=
      probeIndex_cases table functions pattern
    · simp [none] at inside
    · obtain rfl : probedIndex.index = index := by simpa [some] using inside
      exact fits
  · exact (Bool.eq_iff_iff.mp hook).trans hasMethod_iff
  · refine ⟨Pattern.all.filter (warnsAbout table functions), List.filter_sublist, ?_, reported⟩
    intro pattern
    rw [List.mem_filter, warnsAbout_iff, and_iff_right (every pattern)]
  · intro single others rearranged
    exact probe_rearranged rearranged single context

/-- This block implements one type with these functions. -/
def itemBlock (functions : List FunctionDeclaration) : Item :=
  .implementation ⟨.path false ⟨false, [⟨"Item", .none⟩]⟩, functions⟩

/-- This function lists one name. -/
def levelNames : FunctionDeclaration :=
  ⟨"key_slice_name", [.expression (.array [.text "ByLevel"])]⟩

/-- One block has all functions. -/
def wholeBlock : SourceSet :=
  [⟨.ofText "a.rs", "impl Item \x7b fn key_slice() \x7b\x7d " ++
      "fn key_slice_name() \x7b [\"ByLevel\"] \x7d fn after_load() \x7b\x7d \x7d",
    some [itemBlock [⟨"key_slice", []⟩, levelNames, ⟨"after_load", []⟩]]⟩]

/-- The same functions stand in the opposite order, in blocks of their own. -/
def cutBlocks : SourceSet :=
  [⟨.ofText "a.rs", "impl Item { fn after_load() {} }", some [itemBlock [⟨"after_load", []⟩]]⟩,
    ⟨.ofText "b.rs", "impl Item \x7b fn key_slice_name() \x7b [\"ByLevel\"] \x7d \x7d " ++
      "impl Item \x7b fn key_slice() \x7b\x7d \x7d",
      some [itemBlock [levelNames], itemBlock [⟨"key_slice", []⟩]]⟩]

theorem rearranged_cutBlocks :
    SourceSet.Rearranged wholeBlock.parsedItems cutBlocks.parsedItems := by
  have opposite : [⟨"key_slice", []⟩, levelNames, ⟨"after_load", []⟩].Perm
      [⟨"after_load", []⟩, levelNames, ⟨"key_slice", []⟩] := (List.reverse_perm _).symm
  have reversed : SourceSet.Rearranged wholeBlock.parsedItems
      [itemBlock [⟨"after_load", []⟩, levelNames, ⟨"key_slice", []⟩]] :=
    @SourceSet.Rearranged.functions [] [] _ _ _ opposite
  have first : SourceSet.Rearranged [itemBlock [⟨"after_load", []⟩, levelNames, ⟨"key_slice", []⟩]]
      [itemBlock [⟨"after_load", []⟩], itemBlock [levelNames, ⟨"key_slice", []⟩]] :=
    @SourceSet.Rearranged.split [] [] _ [⟨"after_load", []⟩] [levelNames, ⟨"key_slice", []⟩]
  have second : SourceSet.Rearranged
      [itemBlock [⟨"after_load", []⟩], itemBlock [levelNames, ⟨"key_slice", []⟩]]
      cutBlocks.parsedItems :=
    @SourceSet.Rearranged.split [itemBlock [⟨"after_load", []⟩]] [] _ [levelNames]
      [⟨"key_slice", []⟩]
  exact (reversed.trans first).trans second

/-- The index is the same for one block and for blocks in files of either order. -/
theorem probe_exact_cut_blocks :
    (∀ pattern : Pattern, ((wholeBlock.functionsOf "Item").filter fun function =>
      function.name = pattern.namesMethod).length ≤ 1) ∧
    SourceSet.Rearranged wholeBlock.parsedItems (SourceSet.parsedItems cutBlocks.reverse) ∧
    (probe wholeBlock "Item" {}).1.keySlice = some (.custom .keySlice ["ByLevel"] false) ∧
    probe cutBlocks.reverse "Item" {} = probe wholeBlock "Item" {} := by
  have single : ∀ pattern : Pattern, ((wholeBlock.functionsOf "Item").filter fun function =>
      function.name = pattern.namesMethod).length ≤ 1 := by
    intro pattern
    cases pattern <;> decide +kernel
  obtain ⟨_, _, _, _, _, _, layout⟩ := probe_exact wholeBlock "Item" {}
  have rearranged : SourceSet.Rearranged wholeBlock.parsedItems
      (SourceSet.parsedItems cutBlocks.reverse) :=
    rearranged_cutBlocks.trans (SourceSet.rearranged_files (List.reverse_perm cutBlocks).symm)
  exact ⟨single, rearranged, by decide +kernel, layout single cutBlocks.reverse rearranged⟩

end Probe

end Tablewright
