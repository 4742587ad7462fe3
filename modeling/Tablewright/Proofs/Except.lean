namespace Tablewright

theorem of_bind_ok {ε α β : Type} {first : Except ε α} {next : α → Except ε β} {result : β}
    (ended : first >>= next = .ok result) :
    ∃ value, first = .ok value ∧ next value = .ok result := by
  cases first with
  | error cause => cases ended
  | ok value => exact ⟨value, rfl, ended⟩

theorem of_map_ok {ε α β : Type} {result : Except ε α} {next : α → β} {image : β}
    (ended : result.map next = .ok image) : ∃ value, result = .ok value ∧ next value = image := by
  cases result with
  | error cause => cases ended
  | ok value => exact ⟨value, rfl, Except.ok.inj ended⟩

theorem of_mapError_ok {ε δ α : Type} {result : Except ε α} {cause : ε → δ} {value : α}
    (ended : result.mapError cause = .ok value) : result = .ok value := by
  cases result with
  | error reason => cases ended
  | ok other => exact congrArg Except.ok (Except.ok.inj ended)

theorem mapM_congr {α β : Type} {first second : α → Option β} {items : List α}
    (same : ∀ item ∈ items, first item = second item) : items.mapM first = items.mapM second := by
  induction items with
  | nil => rfl
  | cons item rest hypothesis =>
      rw [List.forall_mem_cons] at same
      rw [List.mapM_cons, List.mapM_cons, same.1, hypothesis same.2]

theorem exists_mapM {α β : Type} {step : α → Option β} {items : List α}
    (each : ∀ item ∈ items, ∃ result, step item = some result) :
    ∃ results, items.mapM step = some results ∧ results.length = items.length := by
  induction items with
  | nil => exact ⟨[], rfl, rfl⟩
  | cons item rest hypothesis =>
      rw [List.forall_mem_cons] at each
      obtain ⟨result, found⟩ := each.1
      obtain ⟨results, others, length⟩ := hypothesis each.2
      refine ⟨result :: results, ?_, congrArg (· + 1) length⟩
      rw [List.mapM_cons, found, others]
      rfl

end Tablewright
