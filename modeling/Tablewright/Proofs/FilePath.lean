import Tablewright.FilePath

namespace Tablewright.FilePath

theorem text_withEnding (path : FilePath) (ending : String) :
    (path.withEnding ending).text = path.text ++ ending := by
  obtain ⟨folders, last⟩ := path
  simp only [withEnding, text, parts, Text.joined]
  by_cases alone : folders = []
  · simp [alone]
  · rw [String.intercalate_append_of_ne_nil alone (by simp),
      String.intercalate_append_of_ne_nil alone (by simp)]
    simp [String.append_assoc]

theorem text_eq_empty_iff (path : FilePath) :
    path.text = "" ↔ path.folders = [] ∧ path.last = "" := by
  obtain ⟨folders, last⟩ := path
  simp only [text, parts, Text.joined]
  by_cases alone : folders = []
  · simp [alone]
  · rw [String.intercalate_append_of_ne_nil alone (by simp)]
    simp [alone]

theorem text_ne_empty {path : FilePath} (named : path.last ≠ "") : path.text ≠ "" := by
  rw [Ne, text_eq_empty_iff]
  exact fun both => named both.2

/-- A name that is cut at a dot is its stem, the dot and its ending. -/
theorem cutAtDot_some {name ending : String} (cut : (cutAtDot name).2 = some ending) :
    name = (cutAtDot name).1 ++ "." ++ ending := by
  have backwards := List.prefix_iff_eq_append.mp
    (List.takeWhile_prefix (l := name.toList.reverse) (· ≠ '.'))
  generalize found : cutAtDot name = pair at cut ⊢
  rw [cutAtDot] at found
  split at found
  · next first stem same =>
      split at found
      · subst found
        cases cut
      · subst found
        obtain rfl := Option.some.inj cut
        rw [same] at backwards
        generalize name.toList.reverse.takeWhile (· ≠ '.') = ending at backwards
        have letters := congrArg List.reverse backwards
        rw [List.reverse_reverse] at letters
        rw [← String.toList_inj, ← letters]
        simp
  · subst found
    cases cut

theorem last_join (folder path : FilePath) : (folder.join path).last = path.last := by
  rw [join]
  split
  · rfl
  · split
    · rfl
    · split <;> rfl

/-- This function is the parts of a folder that stand before a path joined to it. -/
def front (folder : FilePath) : List String :=
  if folder.last = "" then folder.folders else folder.parts

theorem join_relative {path : FilePath} (relative : path.isAbsolute = false)
    (folder : FilePath) : folder.join path = ⟨folder.front ++ path.folders, path.last⟩ := by
  obtain ⟨folders, last⟩ := folder
  rw [join, relative, if_neg Bool.false_ne_true, front]
  split
  · next alone => rw [if_pos alone.2, alone.1, List.nil_append]
  · split <;> rfl

/-- A joined path starts at the root if its path or its folder does. -/
theorem isAbsolute_join (folder path : FilePath) :
    (folder.join path).isAbsolute = (path.isAbsolute || folder.isAbsolute) := by
  cases rooted : path.isAbsolute with
  | true => rw [join, if_pos rooted, rooted, Bool.true_or]
  | false =>
      obtain ⟨folders, last⟩ := folder
      rw [join_relative rooted, front, Bool.false_or]
      cases folders with
      | nil => by_cases slash : last = "" <;> simp_all [isAbsolute, parts]
      | cons first rest => by_cases slash : last = "" <;> simp [slash, isAbsolute, parts]

end Tablewright.FilePath
