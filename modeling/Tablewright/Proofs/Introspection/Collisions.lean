import Tablewright.Proofs.Introspection.Resolution
import Tablewright.Proofs.Text.CasePair

namespace Tablewright.KeyResolution

/-- The struct of an entry gives it a key. -/
def HasKey (sources : SourceSet) (marker : String) (entry : TableEntry) (key : KeySchema) : Prop :=
  ∃ declaration path, sources.findStruct entry.name = .found declaration path ∧
    structKey marker declaration.fields = .ok key

/-- A resolved entry owns the generated names of each later entry with its function suffix. -/
def Owns (owner : ResolvedKey) (entry : TableEntry) : Prop :=
  owner.entry.name < entry.name ∧
    Naming.functionSuffix owner.entry.name = Naming.functionSuffix entry.name

/-- This is the error about an entry whose generated names another one owns. -/
def collision (owner : ResolvedKey) (entry : TableEntry) : Diagnostic :=
  .error "name_collision" entry.name
    (KeyProblem.takenNames entry.storageVariable (Naming.functionSuffix entry.name)
      owner.entry.name owner.entry.origin).message

/-- This function picks the diagnostics about a table. -/
def about (table : String) (diagnostics : Diagnostics) : Diagnostics :=
  diagnostics.filter fun diagnostic => diagnostic.subject = table

/-- An entry with a key is resolved without a word, or left out with one error, which names the
only resolved entry with its function suffix. -/
structure Judged (registry : Registry) (keys : List ResolvedKey) (added : Diagnostics)
    (entry : TableEntry) (key : KeySchema) : Prop where
  left_out_iff : (entry ∉ keys.map ResolvedKey.entry ∧
      ∃ owner ∈ keys, about entry.name added = [collision owner entry]) ↔
    ∃ owner ∈ keys, Owns owner entry
  resolved_iff : (⟨entry, key⟩ ∈ keys ∧ about entry.name added = []) ↔
    ∀ owner ∈ keys, ¬ Owns owner entry
  owner : ∀ owner ∈ keys, Owns owner entry →
    about entry.name added = [collision owner entry] ∧
      registry.get? owner.entry.name = some owner.entry ∧
      ∀ other ∈ keys, Naming.functionSuffix other.entry.name =
        Naming.functionSuffix entry.name → other = owner

namespace Judged

variable {registry : Registry} {keys : List ResolvedKey} {added : Diagnostics}
  {entry : TableEntry} {key : KeySchema} {owner : ResolvedKey}

theorem of_unowned (inside : ⟨entry, key⟩ ∈ keys) (silent : about entry.name added = [])
    (unowned : ∀ owner ∈ keys, ¬ Owns owner entry) : Judged registry keys added entry key where
  left_out_iff := by
    constructor
    · rintro ⟨absent, _⟩
      exact absurd (List.mem_map_of_mem inside) absent
    · rintro ⟨owner, among, owns⟩
      exact absurd owns (unowned owner among)
  resolved_iff := ⟨fun _ => unowned, fun _ => ⟨inside, silent⟩⟩
  owner owner among owns := absurd owns (unowned owner among)

theorem of_owner (inside : owner ∈ keys) (owns : Owns owner entry)
    (absent : entry ∉ keys.map ResolvedKey.entry)
    (blamed : about entry.name added = [collision owner entry])
    (known : registry.get? owner.entry.name = some owner.entry)
    (only : ∀ other ∈ keys, Naming.functionSuffix other.entry.name =
      Naming.functionSuffix entry.name → other = owner) :
    Judged registry keys added entry key where
  left_out_iff := ⟨fun _ => ⟨owner, inside, owns⟩, fun _ => ⟨absent, owner, inside, blamed⟩⟩
  resolved_iff := by
    constructor
    · rintro ⟨present, _⟩
      exact absurd (List.mem_map_of_mem present) absent
    · intro unowned
      exact absurd owns (unowned owner inside)
  owner other among otherOwns := by
    obtain rfl := only other among otherOwns.2
    exact ⟨blamed, known, only⟩

end Judged

/-- This function lists what an entry adds to the resolved keys. -/
def gained (entry : TableEntry) : Except (List KeyProblem) KeySchema → List ResolvedKey
  | .ok key => [⟨entry, key⟩]
  | .error _ => []

/-- This function lists what an entry adds to the diagnostics. -/
def blames (entry : TableEntry) : Except (List KeyProblem) KeySchema → Diagnostics
  | .ok _ => []
  | .error problems => problems.map fun problem => .error problem.code entry.name problem.message

section Entry

variable {sources : SourceSet} {marker : String} {registry : Registry}
  {resolved : List ResolvedKey} {entry : TableEntry} {key : KeySchema}

theorem owner?_some {name : String} {owner : ResolvedKey}
    (found : owner? resolved name = some owner) :
    owner ∈ resolved ∧ Naming.functionSuffix owner.entry.name = Naming.functionSuffix name := by
  unfold owner? at found
  exact ⟨List.mem_of_find?_eq_some found, by simpa using List.find?_some found⟩

/-- Nothing but an owner keeps an entry from its key. -/
theorem HasKey.entryKey_eq (hasKey : HasKey sources marker entry key) :
    entryKey sources marker registry resolved entry =
      .ok (match owner? resolved entry.name with
        | some owner => .error [takenNames registry entry owner]
        | none => .ok key) := by
  obtain ⟨declaration, path, found, struct⟩ := hasKey
  have some : declaration.fields.isEmpty = false := by
    cases none : declaration.fields with
    | nil =>
        rw [none] at struct
        cases struct
    | cons field rest => rfl
  rw [entryKey, found]
  simp only [some, Bool.false_eq_true, if_false, struct]
  cases owner? resolved entry.name <;> rfl

theorem taggedProblems_code {fields : List NamedField} :
    ∀ problem ∈ taggedProblems fields, problem.code ≠ "name_collision" := by
  intro problem inside
  obtain ⟨field, _, failed⟩ := List.mem_filterMap.mp inside
  split at failed
  · cases failed
  · cases failed
    simp [KeyProblem.code]

theorem structKey_code {fields : List Declaration.Field} {problems : List KeyProblem}
    (failed : structKey marker fields = .error problems) :
    ∀ problem ∈ problems, problem.code ≠ "name_collision" := by
  unfold structKey at failed
  dsimp only at failed
  split at failed
  case h_1 tagged =>
    cases failed
    exact tagged ▸ taggedProblems_code
  case h_2 => cases failed
  case h_3 =>
    split at failed
    · cases failed
      decide
    · split at failed
      · cases failed
      · cases failed
        simp [KeyProblem.code]

/-- An entry without a key is not blamed for its names. -/
theorem blames_code {outcome : Except (List KeyProblem) KeySchema}
    (keyless : ∀ key, ¬ HasKey sources marker entry key)
    (ended : entryKey sources marker registry resolved entry = .ok outcome) :
    ∀ diagnostic ∈ blames entry outcome, diagnostic.code ≠ "name_collision" := by
  cases outcome with
  | ok key => simp [blames]
  | error problems =>
      have codes : ∀ problem ∈ problems, problem.code ≠ "name_collision" := by
        unfold entryKey at ended
        split at ended
        · cases ended
        · cases ended
          simp [KeyProblem.code]
        case h_3 declaration path found =>
          split at ended
          · cases ended
          case isFalse =>
            split at ended
            case h_1 struct =>
              cases ended
              exact structKey_code struct
            case h_2 key struct => exact absurd ⟨declaration, path, found, struct⟩ (keyless key)
      intro diagnostic inside
      obtain ⟨problem, among, rfl⟩ := List.mem_map.mp inside
      exact codes problem among

end Entry

section Run

variable {sources : SourceSet} {marker : String} {resolved keys : List ResolvedKey}
  {before rest : List TableEntry} {entry : TableEntry} {context after : Context}

theorem resolveAfter_append
    (ended : resolveAfter sources marker resolved (before ++ rest) context = (.ok keys, after)) :
    ∃ earlier reached, resolveAfter sources marker resolved before context =
        (.ok earlier, reached) ∧
      resolveAfter sources marker earlier rest reached = (.ok keys, after) := by
  induction before generalizing resolved context with
  | nil => exact ⟨resolved, context, rfl, ended⟩
  | cons first others hypothesis =>
      rw [List.cons_append, resolveAfter] at ended
      split at ended
      case h_1 => cases ended
      case h_2 problems failed =>
        obtain ⟨earlier, reached, first, last⟩ := hypothesis ended
        exact ⟨earlier, reached, by rw [resolveAfter, failed]; exact first, last⟩
      case h_3 key found =>
        obtain ⟨earlier, reached, first, last⟩ := hypothesis ended
        exact ⟨earlier, reached, by rw [resolveAfter, found]; exact first, last⟩

theorem resolveAfter_cons
    (ended : resolveAfter sources marker resolved (entry :: rest) context = (.ok keys, after)) :
    ∃ outcome next, entryKey sources marker context.registry resolved entry = .ok outcome ∧
      resolveAfter sources marker (resolved ++ gained entry outcome) rest next =
        (.ok keys, after) ∧
      next.diagnostics = context.diagnostics ++ blames entry outcome := by
  unfold resolveAfter at ended
  split at ended
  case h_1 => cases ended
  case h_2 problems failed =>
    refine ⟨.error problems, _, failed, ?_, reportAll_diagnostics entry.name problems context⟩
    rwa [gained, List.append_nil]
  case h_3 key found =>
    exact ⟨.ok key, _, found, ended, (List.append_nil context.diagnostics).symm⟩

/-- What comes before an entry is settled in its turn, and what comes after it changes nothing
about it. -/
structure Turn (sources : SourceSet) (marker : String) (registry : Registry)
    (before : List TableEntry) (entry : TableEntry) (rest : List TableEntry)
    (keys : List ResolvedKey) (added : Diagnostics) (earlier : List ResolvedKey)
    (outcome : Except (List KeyProblem) KeySchema) (later : List ResolvedKey)
    (early late : Diagnostics) : Prop where
  keys : keys = earlier ++ gained entry outcome ++ later
  added : added = early ++ blames entry outcome ++ late
  outcome : entryKey sources marker registry earlier entry = .ok outcome
  earlier : ∀ other ∈ earlier, other.entry ∈ before
  later : ∀ other ∈ later, other.entry ∈ rest
  early : ∀ diagnostic ∈ early, ∃ other ∈ before, diagnostic.Blames other.name
  late : ∀ diagnostic ∈ late, ∃ other ∈ rest, diagnostic.Blames other.name

theorem exists_turn {added : Diagnostics}
    (ended : resolveAfter sources marker [] (before ++ entry :: rest) context =
      (.ok keys, after))
    (grown : after.diagnostics = context.diagnostics ++ added) :
    ∃ earlier outcome later early late, Turn sources marker context.registry before entry rest
      keys added earlier outcome later early late := by
  obtain ⟨earlier, reached, first, ended⟩ := resolveAfter_append ended
  obtain ⟨outcome, next, found, last, blamed⟩ := resolveAfter_cons ended
  obtain ⟨_, early, rfl, settled, earlyGrown, same, _⟩ := resolveAfter_ok first
  obtain ⟨later, late, rfl, lateSettled, lateGrown, _, _⟩ := resolveAfter_ok last
  rw [lateGrown, blamed, earlyGrown] at grown
  simp only [List.append_assoc, List.append_cancel_left_eq] at grown
  refine ⟨_, outcome, later, early, late, rfl, ?_, same ▸ found, ?_, ?_, settled.errors,
    lateSettled.errors⟩
  · rw [← grown, List.append_assoc]
  · exact fun other inside => settled.sublist.subset (List.mem_map_of_mem inside)
  · exact fun other inside => lateSettled.sublist.subset (List.mem_map_of_mem inside)

end Run

theorem about_append (table : String) (first second : Diagnostics) :
    about table (first ++ second) = about table first ++ about table second :=
  List.filter_append ..

/-- Errors about other tables are not about this one. -/
theorem about_others {table : String} {others : List TableEntry} {diagnostics : Diagnostics}
    (blamed : ∀ diagnostic ∈ diagnostics, ∃ other ∈ others, diagnostic.Blames other.name)
    (different : ∀ other ∈ others, other.name ≠ table) : about table diagnostics = [] := by
  refine List.filter_eq_nil_iff.mpr fun diagnostic inside same => ?_
  obtain ⟨other, among, blames⟩ := blamed diagnostic inside
  exact different other among (blames.2.symm.trans (of_decide_eq_true same))

/-- An entry whose names are taken is blamed with a collision. -/
theorem blames_taken {registry : Registry} {entry : TableEntry} {owner : ResolvedKey}
    (known : registry.get? owner.entry.name = some owner.entry) :
    blames entry (.error [takenNames registry entry owner]) = [collision owner entry] := by
  rw [blames, takenNames, known]
  rfl

theorem about_blames (entry : TableEntry) (outcome : Except (List KeyProblem) KeySchema) :
    about entry.name (blames entry outcome) = blames entry outcome := by
  refine List.filter_eq_self.mpr fun diagnostic inside => decide_eq_true ?_
  cases outcome with
  | ok key => cases inside
  | error problems =>
      obtain ⟨problem, _, rfl⟩ := List.mem_map.mp inside
      rfl

section Order

variable {before rest : List TableEntry} {entry : TableEntry}
  (ascending : ((before ++ entry :: rest).map TableEntry.name).Pairwise (· < ·))
include ascending

theorem before_lt : ∀ other ∈ before, other.name < entry.name := by
  rw [List.map_append, List.pairwise_append] at ascending
  intro other inside
  exact ascending.2.2 _ (List.mem_map_of_mem inside) _ List.mem_cons_self

theorem lt_rest : ∀ other ∈ rest, entry.name < other.name := by
  rw [List.map_append, List.pairwise_append, List.map_cons, List.pairwise_cons] at ascending
  intro other inside
  exact ascending.2.1.1 _ (List.mem_map_of_mem inside)

end Order

namespace Turn

variable {sources : SourceSet} {marker : String} {registry : Registry}
  {before rest : List TableEntry} {entry : TableEntry} {keys earlier later : List ResolvedKey}
  {added early late : Diagnostics} {outcome : Except (List KeyProblem) KeySchema} {key : KeySchema}
  (turn : Turn sources marker registry before entry rest keys added earlier outcome later early
    late)
  (ascending : ((before ++ entry :: rest).map TableEntry.name).Pairwise (· < ·))
include turn ascending

/-- The diagnostics about an entry are those of its turn. -/
theorem about_eq : about entry.name added = blames entry outcome := by
  rw [turn.added, about_append, about_append, about_blames,
    about_others turn.early fun other inside => (before_lt ascending other inside).ne,
    about_others turn.late fun other inside => (lt_rest ascending other inside).ne',
    List.nil_append, List.append_nil]

/-- The owners of an entry are resolved before its turn. -/
theorem owns_iff {owner : ResolvedKey} : (owner ∈ keys ∧ Owns owner entry) ↔
    owner ∈ earlier ∧
      Naming.functionSuffix owner.entry.name = Naming.functionSuffix entry.name := by
  constructor
  · rintro ⟨inside, smaller, same⟩
    rw [turn.keys, List.mem_append, List.mem_append] at inside
    rcases inside with (inside | own) | inside
    · exact ⟨inside, same⟩
    · have equal : owner.entry = entry := by
        cases outcome with
        | ok key => rw [List.mem_singleton.mp own]
        | error problems => cases own
      exact absurd smaller (equal ▸ lt_irrefl _)
    · exact absurd smaller (lt_rest ascending _ (turn.later owner inside)).asymm
  · rintro ⟨inside, same⟩
    refine ⟨?_, before_lt ascending _ (turn.earlier owner inside), same⟩
    rw [turn.keys]
    exact List.mem_append_left _ (List.mem_append_left _ inside)

/-- An entry that gained nothing in its turn is left out. -/
theorem left_out (nothing : gained entry outcome = []) :
    entry ∉ keys.map ResolvedKey.entry := by
  intro inside
  obtain ⟨resolved, among, rfl⟩ := List.mem_map.mp inside
  rw [turn.keys, nothing, List.append_nil, List.mem_append] at among
  rcases among with early | late
  · exact lt_irrefl _ (before_lt ascending _ (turn.earlier resolved early))
  · exact lt_irrefl _ (lt_rest ascending _ (turn.later resolved late))

/-- An entry with a key is judged by the resolved entries before its turn. -/
theorem judged (hasKey : HasKey sources marker entry key)
    (unique : (keys.map fun other => Naming.functionSuffix other.entry.name).Nodup)
    (known : ∀ owner ∈ keys, registry.get? owner.entry.name = some owner.entry) :
    Judged registry keys added entry key := by
  have decided := Except.ok.inj (turn.outcome.symm.trans hasKey.entryKey_eq)
  have said := turn.about_eq ascending
  cases first : owner? earlier entry.name with
  | none =>
      rw [first] at decided
      subst decided
      have unowned : ∀ owner ∈ keys, ¬ Owns owner entry := by
        intro owner inside owns
        obtain ⟨among, same⟩ := (turn.owns_iff ascending).mp ⟨inside, owns⟩
        exact List.find?_eq_none.mp first owner among (decide_eq_true same)
      have inside : ⟨entry, key⟩ ∈ keys := by
        rw [turn.keys]
        exact List.mem_append_left _ (List.mem_append_right _ List.mem_cons_self)
      exact .of_unowned inside said unowned
  | some owner =>
      rw [first] at decided
      subst decided
      obtain ⟨_, same⟩ := owner?_some first
      obtain ⟨inside, owns⟩ := (turn.owns_iff ascending).mpr (owner?_some first)
      rw [blames_taken (known owner inside)] at said
      have only : ∀ other ∈ keys, Naming.functionSuffix other.entry.name =
          Naming.functionSuffix entry.name → other = owner := fun other among equal =>
        List.inj_on_of_nodup_map unique among inside (equal.trans same.symm)
      exact .of_owner inside owns (turn.left_out ascending rfl) said (known owner inside) only

end Turn

/-- Resolution leaves an entry with a key out exactly if an earlier resolved entry owns its
generated names, and blames that owner once. The resolved entries have different function suffixes,
and different storage variables as well. -/
theorem collisions_reported {sources : SourceSet} {marker : String} {context after : Context}
    {keys : List ResolvedKey} (ordered : context.registry.Ordered)
    (named : ∀ entry ∈ context.registry.entries, Naming.isIdentifier entry.name = true)
    (ended : resolve sources marker context = (.ok keys, after)) :
    (∃ added, after.diagnostics = context.diagnostics ++ added ∧
      ∀ entry ∈ context.registry.entries,
        (∀ key, HasKey sources marker entry key →
          Judged context.registry keys added entry key) ∧
        ((∀ key, ¬ HasKey sources marker entry key) →
          ∀ diagnostic ∈ about entry.name added, diagnostic.code ≠ "name_collision")) ∧
    (keys.map fun resolved => Naming.functionSuffix resolved.entry.name).Nodup ∧
    (keys.map fun resolved => resolved.entry.storageVariable).Nodup ∧
    ∀ first second : String, Text.IsAscii first.toList → Text.IsAscii second.toList →
      (Naming.functionSuffix first = Naming.functionSuffix second ↔
        Naming.storageVariable first = Naming.storageVariable second) := by
  obtain ⟨_, added, rfl, settled, grown, _, _⟩ := resolveAfter_ok ended
  have among : ∀ resolved ∈ keys, resolved.entry ∈ context.registry.entries := by
    intro resolved inside
    exact context.registry.sorted_perm.mem_iff.mp
      (settled.sublist.subset (List.mem_map_of_mem inside))
  have unique : (keys.map fun resolved => Naming.functionSuffix resolved.entry.name).Nodup :=
    resolveAfter_suffixes (by simp) ended
  refine ⟨⟨added, grown, fun entry inside => ?_⟩, unique, ?_, ?_⟩
  · obtain ⟨before, rest, split⟩ := List.append_of_mem
      (context.registry.sorted_perm.mem_iff.mpr inside)
    have ascending := ordered.sorted_ascending
    rw [resolve, split] at ended
    rw [split] at ascending
    obtain ⟨earlier, outcome, later, early, late, turn⟩ := exists_turn ended grown
    constructor
    · intro key hasKey
      exact turn.judged ascending hasKey unique fun owner among' =>
        ordered.get?_of_mem (among owner among')
    · intro keyless
      rw [turn.about_eq ascending]
      exact blames_code keyless turn.outcome
  · refine List.pairwise_map.mpr ((List.pairwise_map.mp unique).imp_of_mem ?_)
    intro one other inside otherInside different same
    have ascii : ∀ resolved ∈ keys, Text.IsAscii resolved.entry.name.toList :=
      fun resolved inside => Naming.ascii_of_identifier (named _ (among resolved inside))
    exact different ((Naming.functionSuffix_eq_iff (ascii one inside)
      (ascii other otherInside)).mpr same)
  · exact fun first second => Naming.functionSuffix_eq_iff

/-- This entry of a file is registered under a name. -/
def chainEntry (name : String) : TableEntry :=
  { name, origin := some (.ofText "c_item.rs") }

/-- These three entries have the same generated names. -/
def chainRegistry : Registry :=
  (((Registry.insert {} (chainEntry "Item__Drop")).2.insert (chainEntry "ItemDrop")).2.insert
    (chainEntry "Item_Drop")).2

/-- The file of these entries has a struct for each of them. -/
def chainSources : SourceSet :=
  [(SourceFile.parse (.ofText "c_item.rs") ("struct Item__Drop { id: u8 } " ++
    "struct ItemDrop { id: u8 } struct Item_Drop { id: u8 }") {}).1]

/-- This is the key of each of these structs. -/
def chainKey : KeySchema :=
  ⟨⟨"id", "u8", .integer, KeyKind.ofTypeName_u8⟩, [], false⟩

/-- Both later entries are blamed for the names of the first one. -/
theorem collisions_reported_chain :
    let context : Context := { registry := chainRegistry }
    let owner : ResolvedKey := ⟨chainEntry "ItemDrop", chainKey⟩
    let resolution := resolve chainSources "tablekey" context
    chainRegistry.Ordered ∧
      (∀ entry ∈ chainRegistry.entries, Naming.isIdentifier entry.name = true) ∧
      resolution.1 = .ok [owner] ∧
      ∃ added, resolution.2.diagnostics = added ∧
        about "ItemDrop" added = [] ∧
        about "Item_Drop" added = [collision owner (chainEntry "Item_Drop")] ∧
        about "Item__Drop" added = [collision owner (chainEntry "Item__Drop")] := by
  intro context owner resolution
  have ordered : chainRegistry.Ordered :=
    ((Registry.ordered_empty.insert _).insert _).insert _
  have named : ∀ entry ∈ chainRegistry.entries, Naming.isIdentifier entry.name = true := by
    decide +kernel
  have sorted : chainRegistry.sorted =
      [chainEntry "ItemDrop", chainEntry "Item_Drop", chainEntry "Item__Drop"] :=
    sorted_eq TableEntry.name (by decide) (by decide +kernel)
  have resolved : resolution.1 = .ok [owner] := by
    change (resolveAfter _ _ [] chainRegistry.sorted _).1 = _
    rw [sorted]
    decide +kernel
  have ended : resolve chainSources "tablekey" context = (.ok [owner], resolution.2) :=
    Prod.ext resolved rfl
  have alone : ∀ name ∈ ["ItemDrop", "Item_Drop", "Item__Drop"],
      entryKey chainSources "tablekey" {} [] (chainEntry name) = .ok (.ok chainKey) := by
    decide +kernel
  have keyed : ∀ name ∈ ["ItemDrop", "Item_Drop", "Item__Drop"],
      HasKey chainSources "tablekey" (chainEntry name) chainKey :=
    fun name inside => entryKey_key (alone name inside)
  obtain ⟨⟨added, grown, judged⟩, _⟩ := collisions_reported ordered named ended
  have first : Judged chainRegistry [owner] added (chainEntry "ItemDrop") chainKey :=
    (judged _ (by decide +kernel)).1 _ (keyed _ (by decide))
  have second : Judged chainRegistry [owner] added (chainEntry "Item_Drop") chainKey :=
    (judged _ (by decide +kernel)).1 _ (keyed _ (by decide))
  have third : Judged chainRegistry [owner] added (chainEntry "Item__Drop") chainKey :=
    (judged _ (by decide +kernel)).1 _ (keyed _ (by decide))
  have unowned : ∀ other ∈ [owner], ¬ Owns other (chainEntry "ItemDrop") := by
    intro other inside owns
    obtain rfl := List.mem_singleton.mp inside
    exact lt_irrefl _ owns.1
  refine ⟨ordered, named, resolved, added, grown, (first.resolved_iff.mpr unowned).2, ?_, ?_⟩
  · exact (second.owner owner List.mem_cons_self ⟨by decide, by decide +kernel⟩).1
  · exact (third.owner owner List.mem_cons_self ⟨by decide, by decide +kernel⟩).1

end Tablewright.KeyResolution
