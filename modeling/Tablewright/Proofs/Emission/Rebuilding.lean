import Mathlib.Data.List.Nodup
import Tablewright.Proofs.Emission.HookLayout
import Tablewright.Proofs.Introspection.Tables

namespace Tablewright.Emission

/-- This function is the elements that a variant picks from the entries of a table, the keys or the
rows of those whose probe holds. -/
def picked {Key Row : Type} (methods : Methods Key Row) (pattern : Pattern) (position : Nat)
    (entries : List (Key × Row)) : List (Element Key Row) :=
  (entries.filter fun entry => methods.probe pattern.probeMethod position entry.2).map
    fun entry =>
      match pattern with
      | .keySlice => .key entry.1
      | .valueSlice => .row entry.2

/-- This function is what a variant publishes, which is sorted if its index has a sort method. -/
def content {Key Row : Type} (methods : Methods Key Row) (table : String) (pattern : Pattern)
    (sorted : Bool) (position : Nat) (entries : List (Key × Row)) : List (Element Key Row) :=
  let elements := picked methods pattern position entries
  if sorted then methods.sort table pattern.sortMethod position elements else elements

section Runs

variable {Key Row : Type} {methods : Methods Key Row} {holders : List Holder}
  {contents : Holder → List (Element Key Row)}

/-- The slices of holders have these contents. -/
def Holds (holders : List Holder) (contents : Holder → List (Element Key Row))
    (slices : Slices Key Row) : Prop :=
  ∀ holder ∈ holders, slices holder.slice = some (contents holder)

theorem Holds.congr {others : Holder → List (Element Key Row)} {slices : Slices Key Row}
    (holds : Holds holders contents slices)
    (same : ∀ holder ∈ holders, contents holder = others holder) :
    Holds holders others slices :=
  fun holder inside => same holder inside ▸ holds holder inside

/-- Two memories have the same but for their slices. -/
structure Alike (before after : Memory Key Row) : Prop where
  table : after.table = before.table
  statics : after.statics = before.statics
  calls : after.calls = before.calls

theorem Alike.trans {first second third : Memory Key Row} (start : Alike first second)
    (rest : Alike second third) : Alike first third :=
  ⟨rest.table.trans start.table, rest.statics.trans start.statics, rest.calls.trans start.calls⟩

theorem runAll_cons {first : Command} {rest : List Command} {memory : Memory Key Row} :
    Command.runAll methods (first :: rest) memory =
      (first.run methods memory).bind (Command.runAll methods rest) :=
  rfl

/-- Commands that run after others go on with their memory. -/
theorem ran_append {first second : List Command} {before middle after : Memory Key Row}
    (starts : Command.runAll methods first before = some middle)
    (ends : Command.runAll methods second middle = some after) :
    Command.runAll methods (first ++ second) before = some after := by
  rw [Command.runAll, List.foldlM_append]
  exact Option.bind_eq_some_iff.mpr ⟨middle, starts, ends⟩

/-- Declared slices are empty. -/
theorem run_declarations {memory : Memory Key Row} {entries : List (Key × Row)}
    (loaded : memory.table = some entries) (rest : List (String × String)) :
    Command.runAll methods (rest.map fun declared => .declare declared.1 declared.2) memory =
      some { memory with slices := fun name =>
        if name ∈ rest.map Prod.fst then some [] else memory.slices name } := by
  induction rest generalizing memory with
  | nil => simp [Command.runAll]
  | cons declared rest hypothesis =>
      have first : Command.run methods memory (.declare declared.1 declared.2) =
          some (memory.setSlice declared.1 (some [])) := by
        rw [Command.run, loaded]
        rfl
      have kept : (memory.setSlice declared.1 (some [])).table = some entries := loaded
      rw [List.map_cons, runAll_cons, first, Option.bind_some, hypothesis kept]
      congr 2
      funext name
      by_cases same : name = declared.1
      · subst same
        simp [Memory.setSlice]
      · have listed : name ∈ (declared :: rest).map Prod.fst ↔ name ∈ rest.map Prod.fst := by
          rw [List.map_cons, List.mem_cons]
          exact or_iff_right same
        simp only [listed, Memory.setSlice, Function.update_of_ne same]

variable (methods) in
/-- All holders start with empty slices. -/
theorem run_declared (holders : List Holder) {memory : Memory Key Row} {entries : List (Key × Row)}
    (loaded : memory.table = some entries) :
    ∃ last, Command.runAll methods ((holders.map fun holder => (holder.slice, holder.typeName)).map
        fun declared => .declare declared.1 declared.2) memory = some last ∧
      Alike memory last ∧ Holds holders (fun _ => []) last.slices := by
  refine ⟨_, run_declarations loaded _, ⟨rfl, rfl, rfl⟩, fun holder inside => if_pos ?_⟩
  rw [List.map_map]
  exact List.mem_map_of_mem inside

/-- Steps that change one slice each, for different holders, change each slice once. -/
theorem Holds.foldlM {State Frame : Type} (slices : State → Slices Key Row)
    (frame : State → Frame) {step : State → Holder → Option State}
    {change : Holder → List (Element Key Row) → List (Element Key Row)}
    (distinct : (holders.map Holder.slice).Nodup)
    (goes : ∀ state, ∀ holder ∈ holders, ∀ elements, slices state holder.slice = some elements →
      ∃ next, step state holder = some next ∧ frame next = frame state ∧
        slices next = Function.update (slices state) holder.slice
          (some (change holder elements)))
    {rest : List Holder} (among : rest ⊆ holders) (once : rest.Nodup) {state : State}
    (holds : Holds holders contents (slices state)) :
    ∃ last, rest.foldlM step state = some last ∧ frame last = frame state ∧
      Holds holders (fun holder =>
        if holder ∈ rest then change holder (contents holder) else contents holder)
        (slices last) := by
  induction rest generalizing state contents with
  | nil => exact ⟨state, rfl, rfl, holds.congr fun holder _ => by simp⟩
  | cons first rest hypothesis =>
      have inside : first ∈ holders := among List.mem_cons_self
      obtain ⟨fresh, once⟩ := List.nodup_cons.mp once
      obtain ⟨next, does, framed, changed⟩ :=
        goes state first inside (contents first) (holds first inside)
      have after : Holds holders
          (Function.update contents first (change first (contents first))) (slices next) := by
        intro holder known
        rw [changed]
        by_cases same : holder = first
        · subst same
          rw [Function.update_self, Function.update_self]
        · have apart : holder.slice ≠ first.slice := fun equal =>
            same (List.inj_on_of_nodup_map distinct known inside equal)
          rw [Function.update_of_ne apart, Function.update_of_ne same]
          exact holds holder known
      obtain ⟨last, ends, stays, held⟩ :=
        hypothesis (fun holder later => among (List.mem_cons_of_mem _ later)) once after
      refine ⟨last, ?_, stays.trans framed, held.congr fun holder known => ?_⟩
      · rw [List.foldlM_cons, does]
        exact ends
      · by_cases same : holder = first
        · subst same
          simp [fresh]
        · simp [same]

/-- A row is picked by the holders whose probes hold. -/
theorem picked_cons (pattern : Pattern) (position : Nat) (entry : Key × Row)
    (rest : List (Key × Row)) :
    picked methods pattern position (entry :: rest) =
      picked methods pattern position [entry] ++ picked methods pattern position rest := by
  rw [picked, picked, picked, ← List.map_append, ← List.filter_append]
  rfl

theorem picked_single (holder : Holder) (entry : Key × Row) :
    picked methods holder.pattern holder.position [entry] =
      if methods.probe holder.push.method holder.push.position entry.2 then
        [holder.push.element entry] else [] := by
  rw [picked, List.filter_singleton]
  cases pattern : holder.pattern <;>
    cases probe : methods.probe holder.push.method holder.push.position entry.2 <;>
      simp_all [Holder.push, Push.element]

/-- A push adds what its holder picks from a row. -/
theorem run_push {keyed : Bool} {holder : Holder} (fits : holder.push.keyed = true → keyed = true)
    (entry : Key × Row) {slices : Slices Key Row} {elements : List (Element Key Row)}
    (found : slices holder.slice = some elements) :
    Push.run methods keyed entry slices holder.push =
      some (Function.update slices holder.slice
        (some (elements ++ picked methods holder.pattern holder.position [entry]))) := by
  have allowed : (holder.push.keyed && !keyed) = false := by
    cases own : holder.push.keyed
    · rfl
    · simp [fits own]
  have same : slices holder.push.slice = some elements := found
  rw [Push.run, allowed, if_neg Bool.false_ne_true, same, Option.map_some, picked_single]
  split
  · rfl
  · rw [List.append_nil, ← found, Function.update_eq_self]

/-- The pushes of one row add what the holders pick from it. -/
theorem run_pushes (distinct : (holders.map Holder.slice).Nodup) {keyed : Bool}
    (fits : ∀ holder ∈ holders, holder.push.keyed = true → keyed = true) (entry : Key × Row)
    {slices : Slices Key Row} (holds : Holds holders contents slices) :
    ∃ last, (holders.map Holder.push).foldlM (Push.run methods keyed entry) slices = some last ∧
      Holds holders (fun holder =>
        contents holder ++ picked methods holder.pattern holder.position [entry]) last := by
  rw [List.foldlM_map]
  obtain ⟨last, ends, _, held⟩ := Holds.foldlM id (fun _ => ()) distinct
    (fun state holder inside elements found =>
      ⟨_, run_push (fits holder inside) entry found, rfl, rfl⟩)
    (fun _ inside => inside) (List.Nodup.of_map _ distinct) holds
  exact ⟨last, ends, held.congr fun holder inside => if_pos inside⟩

/-- The loop fills every slice with what its holder picks. -/
theorem run_loop (distinct : (holders.map Holder.slice).Nodup) {keyed : Bool}
    (fits : ∀ holder ∈ holders, holder.push.keyed = true → keyed = true)
    (entries : List (Key × Row)) {slices : Slices Key Row}
    (holds : Holds holders contents slices) :
    ∃ last, entries.foldlM (fun slices entry =>
        (holders.map Holder.push).foldlM (Push.run methods keyed entry) slices) slices =
          some last ∧
      Holds holders (fun holder =>
        contents holder ++ picked methods holder.pattern holder.position entries) last := by
  induction entries generalizing slices contents with
  | nil => exact ⟨slices, rfl, holds.congr fun holder _ => by simp [picked]⟩
  | cons entry rest hypothesis =>
      obtain ⟨next, does, after⟩ := run_pushes distinct fits entry holds
      obtain ⟨last, ends, held⟩ := hypothesis after
      refine ⟨last, ?_, held.congr fun holder _ => ?_⟩
      · rw [List.foldlM_cons, does]
        exact ends
      · rw [List.append_assoc, ← picked_cons]

variable (methods) in
theorem run_scan (distinct : (holders.map Holder.slice).Nodup) {keyed : Bool}
    (fits : ∀ holder ∈ holders, holder.push.keyed = true → keyed = true)
    {entries : List (Key × Row)} {memory : Memory Key Row}
    (loaded : memory.table = some entries) (holds : Holds holders contents memory.slices) :
    ∃ last, Command.runAll methods [.loop keyed (holders.map Holder.push)] memory = some last ∧
      Alike memory last ∧ Holds holders (fun holder =>
        contents holder ++ picked methods holder.pattern holder.position entries) last.slices := by
  obtain ⟨slices, ends, held⟩ := run_loop distinct fits entries holds
  refine ⟨{ memory with slices }, ?_, ⟨rfl, rfl, rfl⟩, held⟩
  rw [runAll_cons, Command.run, loaded]
  simp [ends, Command.runAll]

variable (methods) in
/-- The sort methods sort the slices of some holders. -/
theorem run_sorts (distinct : (holders.map Holder.slice).Nodup) (table : String)
    {rest : List Holder} (among : rest.Sublist holders) {memory : Memory Key Row}
    (holds : Holds holders contents memory.slices) :
    ∃ last, Command.runAll methods ((rest.map (Holder.sortCall table)).map .sort) memory =
        some last ∧
      Alike memory last ∧ Holds holders (fun holder => if holder ∈ rest then
        methods.sort table holder.pattern.sortMethod holder.position (contents holder)
        else contents holder) last.slices := by
  have goes : ∀ state : Memory Key Row, ∀ holder ∈ holders, ∀ elements,
      state.slices holder.slice = some elements →
        ∃ next, Command.run methods state (.sort (holder.sortCall table)) = some next ∧
          (next.table, next.statics, next.calls) = (state.table, state.statics, state.calls) ∧
          next.slices = Function.update state.slices holder.slice
            (some (methods.sort table holder.pattern.sortMethod holder.position elements)) := by
    intro state holder _ elements found
    have same : state.slices (holder.sortCall table).slice = some elements := found
    have does : Command.run methods state (.sort (holder.sortCall table)) =
        some (state.setSlice holder.slice
          (some (methods.sort table holder.pattern.sortMethod holder.position elements))) := by
      rw [Command.run, same]
      rfl
    exact ⟨_, does, rfl, rfl⟩
  obtain ⟨last, ends, framed, held⟩ := Holds.foldlM Memory.slices
    (fun state => (state.table, state.statics, state.calls)) distinct goes among.subset
    ((List.Nodup.of_map _ distinct).sublist among) holds
  simp only [Prod.mk.injEq] at framed
  refine ⟨last, ?_, ⟨framed.1, framed.2.1, framed.2.2⟩, held⟩
  rw [Command.runAll, List.map_map, List.foldlM_map]
  exact ends

/-- This function is what statics hold after slices have been published one after the other. -/
def publishAll (contents : Holder → List (Element Key Row)) (rest : List Holder)
    (statics : String → List (Element Key Row)) : String → List (Element Key Row) :=
  rest.foldl (fun held holder => Function.update held holder.storage (contents holder)) statics

/-- A static that nothing is published in stays. -/
theorem publishAll_other {rest : List Holder} {statics : String → List (Element Key Row)}
    {storage : String} (free : storage ∉ rest.map Holder.storage) :
    publishAll contents rest statics storage = statics storage := by
  induction rest generalizing statics with
  | nil => rfl
  | cons first rest hypothesis =>
      rw [List.map_cons, List.mem_cons, not_or] at free
      rw [publishAll, List.foldl_cons]
      exact (hypothesis free.2).trans (Function.update_of_ne free.1 _ _)

/-- A static holds what is published in it last. -/
theorem publishAll_last {front back : List Holder} {holder : Holder}
    {statics : String → List (Element Key Row)} (last : holder.storage ∉ back.map Holder.storage) :
    publishAll contents (front ++ holder :: back) statics holder.storage = contents holder := by
  rw [publishAll, List.foldl_append, List.foldl_cons]
  exact (publishAll_other last).trans (Function.update_self ..)

variable (methods) in
/-- The slices are published in their statics. -/
theorem run_publications {rest : List Holder} (distinct : (rest.map Holder.slice).Nodup)
    {memory : Memory Key Row} (holds : Holds rest contents memory.slices) :
    ∃ last, Command.runAll methods ((rest.map fun holder => (holder.storage, holder.slice)).map
        fun published => .publish published.1 published.2) memory = some last ∧
      last.table = memory.table ∧ last.calls = memory.calls ∧
      last.statics = publishAll contents rest memory.statics := by
  induction rest generalizing memory with
  | nil => exact ⟨memory, rfl, rfl, rfl, rfl⟩
  | cons first rest hypothesis =>
      obtain ⟨fresh, distinct⟩ := List.nodup_cons.mp distinct
      have does : Command.run methods memory (.publish first.storage first.slice) =
          some ((memory.setSlice first.slice none).setStatic first.storage (contents first)) := by
        rw [Command.run, holds first List.mem_cons_self]
        rfl
      have after : Holds rest contents
          ((memory.setSlice first.slice none).setStatic first.storage (contents first)).slices := by
        intro holder later
        have apart : holder.slice ≠ first.slice :=
          fun equal => fresh (equal ▸ List.mem_map_of_mem later)
        exact (Function.update_of_ne apart _ _).trans (holds holder (List.mem_cons_of_mem _ later))
      obtain ⟨last, ends, table, calls, statics⟩ := hypothesis distinct after
      refine ⟨last, ?_, table, calls, statics⟩
      rw [List.map_cons, List.map_cons, runAll_cons, does]
      exact ends

variable (methods) in
/-- A hook is called with the table of the snapshot. -/
theorem run_hook {memory : Memory Key Row} {entries : List (Key × Row)}
    (loaded : memory.table = some entries) (called : Bool) (table : String) :
    Command.runAll methods (if called then [.hook table "table"] else []) memory =
      some { memory with
        calls := memory.calls ++ if called then [(table, entries)] else [] } := by
  cases called with
  | false => simp [Command.runAll]
  | true => simp [Command.runAll, Command.run, loaded]

end Runs

/-- The snapshot of a table is taken by the function that other modules get all its rows from. -/
def Methods.snapshot {Key Row : Type} (methods : Methods Key Row) (table : ResolvedTable) :
    List (Key × Row) :=
  methods.entries (Snapshot.ofTable table).function

/-- The statics of a table stand in the order of its variants. -/
def sliceStatics (table : ResolvedTable) : List String :=
  (Slice.ofTable table).map Slice.storage

/-- Every static of a table holds what the last variant that is kept in it picks from the table,
sorted if its index has a sort method. No other static is changed, and the hook is called once if
there is one. -/
structure Rebuilt {Key Row : Type} (table : ResolvedTable) (methods : Methods Key Row)
    (memory final : Memory Key Row) : Prop where
  built : ∀ {index variant position number}, Numbered table index variant position number →
    variant.storageVariable index.pattern ∉ (sliceStatics table).drop number →
      final.statics (variant.storageVariable index.pattern) =
        content methods table.name index.pattern index.hasSort position (methods.snapshot table)
  others : ∀ storage, storage ∉ sliceStatics table →
    final.statics storage = memory.statics storage
  calls : final.calls = memory.calls ++
    if table.capabilities.hasAfterLoad then [(table.name, methods.snapshot table)] else []

section Building

variable {table : ResolvedTable}

/-- The statics of the variants after a numbered one stand behind its own. -/
theorem statics_split {index : SecondaryIndex} {variant : Variant} {position number : Nat}
    (numbered : Numbered table index variant position number) :
    ∃ front back, Holder.ofTable table =
        front ++ Holder.ofVariant index variant position number :: back ∧
      back.map Holder.storage = (sliceStatics table).drop number := by
  obtain ⟨front, back, split, rfl⟩ := Holder.exists_ofVariant numbered
  refine ⟨front, back, split, ?_⟩
  rw [sliceStatics, ← Slice.storages_ofTable, split, ← List.map_drop, ← List.drop_drop, List.drop_left]
  rfl

/-- A static that no other variant has is not among those that come later. -/
theorem storage_not_later {index : SecondaryIndex} {variant : Variant} {position number : Nat}
    (numbered : Numbered table index variant position number)
    (distinct : (sliceStatics table).Nodup) :
    variant.storageVariable index.pattern ∉ (sliceStatics table).drop number := by
  obtain ⟨front, back, split, later⟩ := statics_split numbered
  rw [sliceStatics, ← Slice.storages_ofTable, split, List.map_append, List.map_cons, List.nodup_append] at distinct
  rw [← later]
  exact (List.nodup_cons.mp distinct.2.1).1

/-- The last variant that is kept in a static has it after all slices are published. -/
theorem publishAll_numbered {Key Row : Type} {contents : Holder → List (Element Key Row)}
    {statics : String → List (Element Key Row)} {index : SecondaryIndex} {variant : Variant}
    {position number : Nat} (numbered : Numbered table index variant position number)
    (last : variant.storageVariable index.pattern ∉ (sliceStatics table).drop number) :
    publishAll contents (Holder.ofTable table) statics (variant.storageVariable index.pattern) =
      contents (Holder.ofVariant index variant position number) := by
  obtain ⟨front, back, split, later⟩ := statics_split numbered
  rw [← later] at last
  rw [split]
  exact publishAll_last last

/-- The loop has keys if one of its pushes takes one. -/
theorem keyed_of_push {holder : Holder} (inside : holder ∈ Holder.ofTable table)
    (keyed : holder.push.keyed = true) : (Parts.ofTable table).pushes.any Push.keyed = true :=
  List.any_eq_true.mpr ⟨holder.push, List.mem_map_of_mem inside, keyed⟩

/-- The program of a table runs through and rebuilds its statics. -/
theorem run_program {Key Row : Type} (methods : Methods Key Row) (memory : Memory Key Row) :
    ∃ final, Command.runAll methods ((Parts.ofTable table).program table) memory = some final ∧
      Rebuilt table methods memory final := by
  have distinct := Holder.slices_nodup table
  have taken : Command.runAll methods [.snapshot (Snapshot.ofTable table).function] memory =
      some { memory with table := some (methods.snapshot table) } := rfl
  have loaded : ({ memory with table := some (methods.snapshot table) } : Memory Key Row).table =
      some (methods.snapshot table) := rfl
  obtain ⟨declared, declares, likeDeclared, empty⟩ :=
    run_declared methods (Holder.ofTable table) loaded
  obtain ⟨scanned, scans, likeScanned, filled⟩ := run_scan methods distinct
    (fun _ inside => keyed_of_push inside) likeDeclared.table empty
  have among : ((Holder.ofTable table).filter Holder.sorted).Sublist (Holder.ofTable table) :=
    List.filter_sublist
  obtain ⟨sorted, sorts, likeSorted, ordered⟩ :=
    run_sorts methods distinct table.name among filled
  have finished : Holds (Holder.ofTable table) (fun holder =>
      content methods table.name holder.pattern holder.sorted holder.position
        (methods.snapshot table)) sorted.slices := by
    refine ordered.congr fun holder inside => ?_
    simp [content, List.mem_filter, inside]
  obtain ⟨published, publishes, publishedTable, publishedCalls, statics⟩ :=
    run_publications methods distinct finished
  have like := (likeDeclared.trans likeScanned).trans likeSorted
  have hooks := run_hook methods (publishedTable.trans like.table)
    table.capabilities.hasAfterLoad table.name
  have ran := ran_append (ran_append (ran_append (ran_append (ran_append taken declares)
    scans) sorts) publishes) hooks
  rw [like.statics] at statics
  refine ⟨_, ran, ⟨fun numbered last => ?_, fun storage other => ?_, ?_⟩⟩
  · exact (congrFun statics _).trans (publishAll_numbered numbered last)
  · exact (congrFun statics _).trans (publishAll_other (Slice.storages_ofTable table ▸ other))
  · exact congrArg (· ++ _) (publishedCalls.trans like.calls)

/-- The function that runs after loading has every slice once in each of its parts, and leaves
every static with what its variant picks from the table. Where variants share a static the last of
them has it. -/
theorem after_load_rebuilds (table : ResolvedTable)
    (sliced : table.capabilities.indexes.flatMap SecondaryIndex.variants ≠ []) :
    ((secondaryFragments table).filter fun fragment => fragment.kind = .afterLoad).map
        Fragment.text =
      [Text.ofLines ([afterLoadComment table,
          "pub fn after_load_" ++ Naming.functionSuffix table.name ++ "() \x7b"] ++
        (hookProgram table).flatMap Command.lines ++ ["\x7d"])] ∧
    Laid table (Parts.ofTable table) ∧
    ∀ {Key Row : Type} (methods : Methods Key Row) (memory : Memory Key Row),
      ∃ final, Command.runAll methods (hookProgram table) memory = some final ∧
        Rebuilt table methods memory final ∧
        ((sliceStatics table).Nodup →
          ∀ {index variant position number}, Numbered table index variant position number →
            final.statics (variant.storageVariable index.pattern) =
              content methods table.name index.pattern index.hasSort position
                (methods.snapshot table)) := by
  have laid : Laid table (Parts.ofTable table) := by
    refine laid_ofTable fun none => sliced ?_
    rw [← List.length_eq_zero_iff, ← length_ofTable, none, List.length_nil]
  refine ⟨?_, laid, fun methods memory => ?_⟩
  · rw [secondaryFragments_texts, secondaryTexts, afterLoadLines_eq]
  · obtain ⟨final, ran, rebuilt⟩ := run_program methods memory
    refine ⟨final, laid.program ▸ ran, rebuilt, fun distinct _ _ _ _ numbered => ?_⟩
    exact rebuilt.built numbered (storage_not_later numbered distinct)

end Building

/-- These methods know three rows. A row belongs to a slice if it is above ten times its position,
and sorting turns a slice around. -/
def threeRows : Methods Nat Nat where
  entries _ := [(1, 10), (2, 20), (3, 30)]
  probe _ position row := 10 * position < row
  sort _ _ _ := List.reverse

/-- The second sorted slice of keys, and the slice of rows after it, get what they pick. -/
theorem after_load_rebuilds_monster :
    monsterTable.capabilities.indexes.flatMap SecondaryIndex.variants ≠ [] ∧
    ∃ final, Command.runAll threeRows (hookProgram monsterTable)
        { statics := fun _ => [] } = some final ∧
      final.statics "SLICE_KEY_ELITE_IDS" = [.key 3, .key 2] ∧
      final.statics "SLICE_VALUE_MONSTER" = [.row 10, .row 20, .row 30] ∧
      final.calls = [("Monster", [(1, 10), (2, 20), (3, 30)])] := by
  have sliced : monsterTable.capabilities.indexes.flatMap SecondaryIndex.variants ≠ [] := by
    decide
  have distinct : (sliceStatics monsterTable).Nodup := by decide +kernel
  have elite : Numbered monsterTable (.custom .keySlice ["BossIds", "EliteIds"] true)
      ⟨"EliteIds", true⟩ 1 2 :=
    ⟨[], [.defaultFor "Monster" .valueSlice false], [⟨"BossIds", true⟩], [], rfl, rfl, rfl, rfl⟩
  have rows : Numbered monsterTable (.defaultFor "Monster" .valueSlice false)
      ⟨"Monster", false⟩ 0 3 :=
    ⟨[.custom .keySlice ["BossIds", "EliteIds"] true], [], [], [], rfl, rfl, rfl, rfl⟩
  obtain ⟨_, _, runs⟩ := after_load_rebuilds monsterTable sliced
  obtain ⟨final, ran, rebuilt, own⟩ := runs threeRows { statics := fun _ => [] }
  have eliteName : Variant.storageVariable ⟨"EliteIds", true⟩ .keySlice =
      "SLICE_KEY_ELITE_IDS" := by decide +kernel
  have rowsName : Variant.storageVariable ⟨"Monster", false⟩ .valueSlice =
      "SLICE_VALUE_MONSTER" := by decide +kernel
  refine ⟨sliced, final, ran, ?_, ?_, rebuilt.calls⟩
  · rw [← eliteName]
    exact (own distinct elite).trans (by decide)
  · rw [← rowsName]
    exact (own distinct rows).trans (by decide)

/-- This directory has a table with two slices whose names differ by an underscore only. -/
def levelDirectory : Introspection :=
  .ofText ("/* @Item */ struct Item \x7b id: u8 \x7d impl Item \x7b fn key_slice() \x7b\x7d " ++
    "fn key_slice_name() \x7b vec![\"ByLevel\", \"By_Level\"] \x7d \x7d")

/-- Both slices of this table are kept in one static. -/
def levelTable : ResolvedTable where
  entry := { name := "Item", origin := some ⟨["d"], "c_item.rs"⟩ }
  storageVariable := "TABLE_ITEM"
  key := ⟨⟨"id", "u8", .integer, KeyKind.ofTypeName_u8⟩, [], false⟩
  capabilities := { keySlice := some (.custom .keySlice ["ByLevel", "By_Level"] false) }

/-- The directory ends without errors. The second slice is published over the first one. -/
theorem levels_share_static :
    (levelDirectory.outcome = .ok [levelTable] ∧ levelDirectory.context.isFatal = false ∧
      sliceStatics levelTable = ["SLICE_KEY_BY_LEVEL", "SLICE_KEY_BY_LEVEL"]) ∧
    ¬ ∀ table, table.capabilities.indexes.flatMap SecondaryIndex.variants ≠ [] →
      ∀ (methods : Methods Nat Nat) (memory final : Memory Nat Nat),
        Command.runAll methods (hookProgram table) memory = some final →
        ∀ index variant position number, Numbered table index variant position number →
          final.statics (variant.storageVariable index.pattern) =
            content methods table.name index.pattern index.hasSort position
              (methods.snapshot table) := by
  have found : levelDirectory.outcome = .ok [levelTable] := by decide +kernel
  have clean : levelDirectory.context.isFatal = false := by decide +kernel
  have shared : sliceStatics levelTable = ["SLICE_KEY_BY_LEVEL", "SLICE_KEY_BY_LEVEL"] := by
    decide +kernel
  refine ⟨⟨found, clean, shared⟩, fun held => ?_⟩
  have first : Numbered levelTable (.custom .keySlice ["ByLevel", "By_Level"] false)
      ⟨"ByLevel", true⟩ 0 1 :=
    ⟨[], [], [], [⟨"By_Level", true⟩], rfl, rfl, rfl, rfl⟩
  have kept : (Command.runAll threeRows (hookProgram levelTable)
      { statics := fun _ => [] }).map (fun final => final.statics
        (Variant.storageVariable ⟨"ByLevel", true⟩ .keySlice)) =
          some [.key 2, .key 3] := by decide +kernel
  obtain ⟨final, ran, statics⟩ := Option.map_eq_some_iff.mp kept
  have picked := held levelTable (by decide) threeRows _ final ran _ _ _ _ first
  exact absurd (statics.symm.trans picked) (by decide +kernel)

end Tablewright.Emission
