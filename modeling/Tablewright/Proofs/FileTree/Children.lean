import Tablewright.Proofs.FileTree.Change

namespace Tablewright.FileTree

/-- In a distinct tree no location is listed twice. -/
def Distinct (tree : FileTree) : Prop :=
  (tree.nodes.map Prod.fst).Nodup

namespace Distinct

variable {tree after : FileTree} (distinct : tree.Distinct)
include distinct

theorem filter (keep : Location × Node → Bool) :
    FileTree.Distinct { tree with nodes := tree.nodes.filter keep } :=
  distinct.sublist (List.filter_sublist.map Prod.fst)

theorem put (place : Location) (node : Node) : (tree.put place node).Distinct := by
  refine List.nodup_cons.mpr ⟨?_, distinct.filter fun entry => decide (entry.1 ≠ place)⟩
  rw [List.mem_map]
  rintro ⟨entry, inside, same⟩
  exact of_decide_eq_true (List.mem_filter.mp inside).2 same

theorem erase (place : Location) : (tree.erase place).Distinct :=
  distinct.filter fun entry => decide (entry.1 ≠ place)

/-- A move puts nothing where something stays. -/
theorem move (source target : Location) : (tree.move source target).Distinct := by
  let change (location : Location) : Location :=
    if source.isPrefixOf location then target ++ location.drop source.length else location
  have changed : (tree.move source target).nodes.map Prod.fst =
      ((tree.nodes.filter fun entry => !target.isPrefixOf entry.1).map Prod.fst).map change := by
    rw [FileTree.move, List.map_map, List.map_map]
    apply List.map_congr_left
    intro entry _
    dsimp only [Function.comp_apply, change]
    split <;> rfl
  rw [FileTree.Distinct, changed]
  refine List.Nodup.map_on ?_ (distinct.filter _)
  have outside : ∀ location ∈ (tree.nodes.filter fun entry => !target.isPrefixOf entry.1).map
      Prod.fst, ¬ target <+: location := by
    intro location inside
    obtain ⟨entry, kept, rfl⟩ := List.mem_map.mp inside
    have kept := (List.mem_filter.mp kept).2
    rwa [Bool.not_eq_true', ← Bool.not_eq_true, List.isPrefixOf_iff_prefix] at kept
  intro first firstInside second secondInside same
  dsimp only [change] at same
  split at same
  · next moved =>
      split at same
      · next otherMoved =>
          obtain ⟨rest, rfl⟩ := List.isPrefixOf_iff_prefix.mp moved
          obtain ⟨others, rfl⟩ := List.isPrefixOf_iff_prefix.mp otherMoved
          rw [List.drop_left, List.drop_left, List.append_cancel_left_eq] at same
          rw [same]
      · exact absurd ⟨_, same⟩ (outside second secondInside)
  · split at same
    · exact absurd ⟨_, same.symm⟩ (outside first firstInside)
    · exact same

/-- No step lists a location twice. -/
theorem apply {change : FileChange} (applied : tree.apply change = .ok after) :
    after.Distinct := by
  cases apply_alters applied with
  | nothing => exact distinct
  | put place node => exact distinct.put place node
  | erase place => exact distinct.erase place
  | move source target => exact distinct.move source target

/-- A directory lists a name with a node if and only if the node stands there. -/
theorem mem_children_iff {place : Location} {name : String} {node : Node} :
    (name, node) ∈ tree.children place ↔ tree.node? (place ++ [name]) = some node := by
  have below : place ++ [name] ≠ [] := by simp
  rw [node?_of_ne_root tree below, lookup_eq_some_iff_mem distinct, children, List.mem_filterMap]
  constructor
  · rintro ⟨⟨location, held⟩, inside, found⟩
    obtain rfl | ⟨front, last, rfl⟩ := List.eq_nil_or_concat location
    · cases found
    · simp only [List.concat_eq_append, List.getLast?_concat, List.dropLast_concat] at found inside
      split at found
      · next here =>
          obtain ⟨rfl, rfl⟩ := Prod.mk.inj (Option.some.inj found)
          rwa [← here]
      · cases found
  · intro inside
    exact ⟨_, inside, by simp⟩

/-- A directory lists no name twice. -/
theorem children_nodup (place : Location) : ((tree.children place).map Prod.fst).Nodup := by
  let nameHere (location : Location) : Option String :=
    location.getLast?.bind fun name => if location.dropLast = place then some name else none
  have listed : (tree.children place).map Prod.fst =
      (tree.nodes.map Prod.fst).filterMap nameHere := by
    rw [children, List.map_filterMap, List.filterMap_map]
    congr 1
    funext entry
    dsimp only [Function.comp_apply, nameHere]
    cases entry.1.getLast? with
    | none => rfl
    | some name => by_cases here : entry.1.dropLast = place <;> simp [here]
  have located : ∀ location name, name ∈ nameHere location → location = place ++ [name] := by
    intro location name named
    obtain rfl | ⟨front, last, rfl⟩ := List.eq_nil_or_concat location
    · cases named
    · simp only [nameHere, List.concat_eq_append, List.getLast?_concat, List.dropLast_concat]
        at named ⊢
      split at named
      · next here =>
          obtain rfl := Option.some.inj named
          rw [here]
      · cases named
  rw [listed]
  refine List.Nodup.filterMap ?_ distinct
  intro first second name firstNamed secondNamed
  rw [located first name firstNamed, located second name secondNamed]

end Distinct

end Tablewright.FileTree
